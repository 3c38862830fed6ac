import TextCursor.Settings
import TextCursor.Text.LineBreak
import TextCursor.Text.Quoted
import TextCursor.Text.Utf8
import TextCursor.Value.Basic

/-! A cursor: a text, its length and a position in it. -/
namespace TextCursor

structure Cursor where
  text : Text
  length : Nat
  position : Nat
  deriving DecidableEq

inductive LogEntry where
  | unifiedBreaks (before after : Nat)
  | created (length : Nat)
  deriving DecidableEq

def LogEntry.message : LogEntry → Text
  | .unifiedBreaks before after =>
    "DEBUG Normalized line endings: ".toList ++ Text.ofNat before ++ " -> ".toList ++
      Text.ofNat after ++ " characters".toList
  | .created length => "DEBUG StringWalker created: length=".toList ++ Text.ofNat length

inductive CreationError where
  | notText (kindName : Text)
  | malformed (error : Utf8.Malformed)
  deriving DecidableEq

def CreationError.message : CreationError → Text
  | .notText kindName => "StringWalker expects str or bytes, got ".toList ++ kindName
  | .malformed error => error.message

def Value.decodeText : Value → Except CreationError Text
  | .text s => .ok s
  | .bytes _ data => (Utf8.decode data).mapError .malformed
  | v => .error (.notText v.kindName)

namespace Cursor

def ofText (s : Text) : Cursor := ⟨s, s.length, 0⟩

structure Created where
  cursor : Cursor
  log : List LogEntry
  deriving DecidableEq

def create (data : Value) (unifyBreaks : Bool) : Except CreationError Created := do
  let decoded ← data.decodeText
  if unifyBreaks then
    let cursor := ofText decoded.unifyBreaks
    return ⟨cursor, [.unifiedBreaks decoded.length cursor.length, .created cursor.length]⟩
  else
    let cursor := ofText decoded
    return ⟨cursor, [.created cursor.length]⟩

def context (c : Cursor) : Text :=
  c.text.slice (c.position - Settings.contextWidth) c.position ++
    '|' :: c.text.slice c.position (c.position + Settings.contextWidth)

/-- The context without its bar. -/
def window (c : Cursor) : Text :=
  c.text.slice (c.position - 10) (min c.length (c.position + 10))

def describe (c : Cursor) : Text :=
  "StringWalker(position=".toList ++ Text.ofNat c.position ++ ", length=".toList ++
    Text.ofNat c.length ++ ", near=".toList ++ c.context.quote ++ [')']

def charAt? (c : Cursor) (index : Int) : Option Char :=
  if 0 ≤ index ∧ index < c.length then c.text[index.toNat]? else none

def current? (c : Cursor) : Option Char := c.charAt? c.position

def peek? (c : Cursor) (distance : Int) : Option Char := c.charAt? (c.position + distance)

/-- Looking back no distance at all means looking back by one. -/
def behind? (c : Cursor) (distance : Int) : Option Char :=
  c.charAt? (c.position - if distance = 0 then 1 else distance)

def atEnd (c : Cursor) : Bool := c.length ≤ c.position

end Cursor

end TextCursor

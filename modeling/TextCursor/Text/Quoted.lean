import TextCursor.Text.Numeral
import TextCursor.Text.Printable

/-! Quoted literals. A backslash guards itself and the quotation mark, three
blanks have a letter of their own, and what cannot be shown is spelled by its
code in two, four or eight hexadecimal digits. -/
namespace TextCursor.Text

def apostrophe : Char := '\x27'
def doubleQuote : Char := '\x22'

def quotationMark (s : Text) : Char :=
  if s.contains apostrophe && !s.contains doubleQuote then doubleQuote else apostrophe

def escapeCode (n : Nat) : Text :=
  if n ≤ 0xff then '\\' :: 'x' :: hex 2 n
  else if n ≤ 0xffff then '\\' :: 'u' :: hex 4 n
  else '\\' :: 'U' :: hex 8 n

def escapeChar (guarded : Char) (shown : Char → Bool) (c : Char) : Text :=
  if c = guarded ∨ c = '\\' then ['\\', c]
  else if c = '\t' then ['\\', 't']
  else if c = '\n' then ['\\', 'n']
  else if c = '\r' then ['\\', 'r']
  else if shown c then [c]
  else escapeCode c.toNat

def escape (guarded : Char) (shown : Char → Bool) (s : Text) : Text :=
  s.flatMap (escapeChar guarded shown)

def quote (s : Text) : Text :=
  let mark := quotationMark s
  mark :: escape mark isPrintable s ++ [mark]

def ofBytes (data : List UInt8) : Text := data.map fun byte => Char.ofNat byte.toNat

def isPrintableAscii (c : Char) : Bool := 0x20 ≤ c.toNat && c.toNat < 0x7f

def quoteBytes (data : List UInt8) : Text :=
  let s := ofBytes data
  let mark := quotationMark s
  'b' :: mark :: escape mark isPrintableAscii s ++ [mark]

/-- A byte buffer: the mark is chosen alike, but the guarded mark is always the apostrophe. -/
def quoteByteBuffer (data : List UInt8) : Text :=
  let s := ofBytes data
  let mark := quotationMark s
  "bytearray(b".toList ++ mark :: escape apostrophe isPrintableAscii s ++ [mark, ')']

end TextCursor.Text

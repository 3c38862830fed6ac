import TextCursor.Diagnostic.Basic
import TextCursor.Json.Object
import TextCursor.Settings

/-! Rendering of diagnostics in three layouts: a block of up to three lines, one
line, or a JSON object. -/
namespace TextCursor

inductive Layout where
  | block
  | line
  | json
  deriving DecidableEq

namespace Layout

def all : List Layout := [.block, .line, .json]

def word : Layout → Text
  | .block => "rust".toList
  | .line => "simple".toList
  | .json => "json".toList

def name : Layout → Text
  | .block => "RUST".toList
  | .line => "SIMPLE".toList
  | .json => "JSON".toList

structure Unknown where
  word : Text
  deriving DecidableEq

def Unknown.message (e : Unknown) : Text := e.word.quote ++ " is not a valid OutputFormat".toList

def ofWord (word : Text) : Except Unknown Layout :=
  match all.find? fun layout => layout.word = word with
  | some layout => .ok layout
  | none => .error ⟨word⟩

end Layout

namespace Diagnostic

def namedOperation (d : Diagnostic) : Option Text := d.operation.filter (!·.isEmpty)

def givenHint (d : Diagnostic) : Option Text := d.hint.filter (!·.isEmpty)

def isWarning (d : Diagnostic) : Bool := d.severity = "warning".toList

def place (d : Diagnostic) : Option Text :=
  let offset := d.position.map fun position => "offset ".toList ++ Text.ofInt position
  match d.namedOperation, offset with
  | some operation, some offset => some (operation ++ ", ".toList ++ offset)
  | some operation, none => some operation
  | none, offset => offset

end Diagnostic

structure Formatter where
  layout : Layout := .block
  shorten : Bool := false
  color : Bool := false
  limit : Int := Settings.contentLimit
  deriving DecidableEq

namespace Formatter

def content (f : Formatter) (s : Text) : Text :=
  if f.shorten && f.limit < s.length then s.clip f.limit ++ "...".toList else s

def colored (number : Nat) (s : Text) : Text :=
  "\x1b[1;".toList ++ Text.ofNat number ++ 'm' :: s ++ "\x1b[0m".toList

def severityLabel (f : Formatter) (d : Diagnostic) : Text :=
  let (number, label) :=
    if d.isWarning then (33, "warning".toList) else (31, "error".toList)
  if f.color then colored number label else label

def blockHeader (f : Formatter) (d : Diagnostic) : Text :=
  f.severityLabel d ++ '[' :: d.code.name ++ "]: ".toList ++ f.content d.message

def blockLines (f : Formatter) (d : Diagnostic) : List Text :=
  f.blockHeader d ::
    ((d.place.map fun place => "  --> ".toList ++ place).toList ++
      (d.givenHint.map fun hint => "  = help: ".toList ++ f.content hint).toList)

def jsonMembers (f : Formatter) (d : Diagnostic) : List (Text × Json.Scalar) :=
  [("code".toList, .text d.code.name), ("code_value".toList, .number d.code.number),
    ("message".toList, .text (f.content d.message)), ("severity".toList, .text d.severity)] ++
  (d.position.map fun position => ("position".toList, .number position)).toList ++
  (d.namedOperation.map fun operation => ("operation".toList, .text operation)).toList ++
  (d.givenHint.map fun hint => ("hint".toList, .text (f.content hint))).toList

def format (f : Formatter) (d : Diagnostic) : Text :=
  match f.layout with
  | .block => List.intercalate ['\n'] (f.blockLines d)
  | .line => d.code.name ++ ": ".toList ++ f.content d.message
  | .json => Json.object (f.jsonMembers d)

def formatAll (f : Formatter) (ds : List Diagnostic) : Text :=
  List.intercalate ['\n', '\n'] (ds.map f.format)

end Formatter

def Diagnostic.format (d : Diagnostic) : Text := ({} : Formatter).format d

end TextCursor

import TextCursor.Diagnostic.Format

/-! Excerpts: what may be seen of a text whose length is limited, and of the parts of a
layout that show such a text. -/
namespace TextCursor

namespace Text

def excerpt (limit : Nat) (s : Text) : Text :=
  s.take limit ++ if limit < s.length then "...".toList else []

/-- An excerpt whose limit, if it is negative, is counted from the end of the text. -/
def abridge (limit : Int) (s : Text) : Text :=
  if s.length ≤ limit then s
  else s.take (if limit < 0 then s.length + limit else limit).toNat ++ "...".toList

def AlikeUpTo (limit : Nat) (s t : Text) : Prop :=
  s = t ∨ limit < s.length ∧ limit < t.length ∧ s.take limit = t.take limit

end Text

namespace Diagnostic

def excerpt (limit : Nat) (d : Diagnostic) : Diagnostic :=
  { d with
    message := d.message.excerpt limit
    hint := d.hint.map (Text.excerpt limit) }

def abridge (limit : Int) (d : Diagnostic) : Diagnostic :=
  { d with
    message := d.message.abridge limit
    hint := d.hint.map fun hint => if hint = [] then hint else Text.abridge limit hint }

structure AlikeUpTo (limit : Nat) (d e : Diagnostic) : Prop where
  code : d.code = e.code
  message : Text.AlikeUpTo limit d.message e.message
  position : d.position = e.position
  hint : Option.Rel (Text.AlikeUpTo limit) d.hint e.hint
  operation : d.operation = e.operation
  severity : d.severity = e.severity

end Diagnostic

namespace Formatter

def blockOpening (f : Formatter) (d : Diagnostic) : Text :=
  f.severityLabel d ++ '[' :: d.code.name ++ "]: ".toList

/-- A line of a block is the whole one, or says behind the opening of the header or of the hint
what is left of the text there. -/
def AbridgesLine (f : Formatter) (d : Diagnostic) (line whole : Text) : Prop :=
  line = whole ∨ ∃ opening ∈ [f.blockOpening d, "  = help: ".toList],
    ∃ s, whole = opening ++ s ∧ line = opening ++ Text.abridge f.limit s

def AbridgesMember (f : Formatter) (member whole : Text × Json.Scalar) : Prop :=
  member = whole ∨ ∃ name ∈ ["message".toList, "hint".toList],
    ∃ s, whole = (name, .text s) ∧ member = (name, .text (Text.abridge f.limit s))

end Formatter

end TextCursor

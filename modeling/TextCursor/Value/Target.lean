import TextCursor.Value.Basic

/-! Search targets. A target stands for a character code and a group of targets
for several, whatever form they come in. A code that belongs to no character is a
valid target which nothing in a text equals. -/
namespace TextCursor.Value

def code? : Value → Option Int
  | .text [c] => some c.toNat
  | .int n => some n
  | _ => none

def elements? : Value → Option (List Value)
  | .bytes _ data => some (data.map fun byte => .int byte.toNat)
  | .items _ elements => some elements
  | .mapping entries => some (entries.map (·.1))
  | _ => none

inductive IsTarget : Value → Prop
  | char (c : Char) : IsTarget (.text [c])
  | code (n : Int) : IsTarget (.int n)

/-- What is wrong with a group: the whole of it, if it is of no kind that holds
targets, or else the first of its members that is no target. -/
inductive RefusedFor : Value → Value → Prop
  | whole {targets : Value} (noText : ∀ s, targets ≠ .text s) (noCode : ∀ n, targets ≠ .int n)
      (noMembers : targets.elements? = none) : RefusedFor targets targets
  | member {targets refused : Value} {valid rest : List Value}
      (visited : targets.elements? = some (valid ++ refused :: rest))
      (accepted : ∀ v ∈ valid, v.IsTarget) (bad : ¬refused.IsTarget) : RefusedFor targets refused

inductive Denotes : Value → Char → Prop
  | char (c : Char) : Denotes (.text [c]) c
  | code (c : Char) : Denotes (.int c.toNat) c

inductive Covers : Value → Char → Prop
  | text {s : Text} {c : Char} (member : c ∈ s) : Covers (.text s) c
  | code (c : Char) : Covers (.int c.toNat) c
  | member {targets target : Value} {elements : List Value} {c : Char}
      (visited : targets.elements? = some elements) (member : target ∈ elements)
      (denoted : target.Denotes c) : Covers targets c

structure IsUnion (both first second : Value) : Prop where
  valid : ∀ refused, ¬both.RefusedFor refused
  covers_iff : ∀ c, both.Covers c ↔ first.Covers c ∨ second.Covers c

def singles : Value → List Value
  | .text s => s.map fun c => .text [c]
  | .int n => [.int n]
  | v => v.elements?.getD []

end TextCursor.Value

namespace TextCursor

def isAmong (codes : List Int) (c : Char) : Bool := codes.contains (c.toNat : Int)

end TextCursor

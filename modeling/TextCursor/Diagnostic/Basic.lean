import TextCursor.Text.Quoted

/-! Diagnostics and their codes. Whether a rendering leaves a diagnostic legible depends on its
texts: an empty hint or operation is left out as if there were none, and a text with a line feed
in it looks like several lines. -/
namespace TextCursor

inductive Code where
  | invalidArgument
  | outOfRange
  | invalidRange
  deriving DecidableEq

namespace Code

def all : List Code := [.invalidArgument, .outOfRange, .invalidRange]

theorem mem_all (code : Code) : code ∈ all := by cases code <;> simp [all]

def name : Code → Text
  | .invalidArgument => "INVALID_ARGUMENT".toList
  | .outOfRange => "OUT_OF_RANGE".toList
  | .invalidRange => "INVALID_RANGE".toList

def number : Code → Nat
  | .invalidArgument => 1001
  | .outOfRange => 2001
  | .invalidRange => 2002

inductive Unknown where
  | named (name : Text)
  | numbered (number : Int)
  deriving DecidableEq

def Unknown.message : Unknown → Text
  | .named name => name.quote
  | .numbered number => Text.ofInt number ++ " is not a valid DiagnosticCode".toList

def ofName (name : Text) : Except Unknown Code :=
  match all.find? fun code => code.name = name with
  | some code => .ok code
  | none => .error (.named name)

def ofNumber (number : Int) : Except Unknown Code :=
  match all.find? fun code => (code.number : Int) = number with
  | some code => .ok code
  | none => .error (.numbered number)

end Code

structure Diagnostic where
  code : Code
  message : Text
  position : Option Int := none
  hint : Option Text := none
  operation : Option Text := none
  severity : Text := "error".toList
  deriving DecidableEq

namespace Diagnostic

def withoutEmpty (d : Diagnostic) : Diagnostic :=
  { d with
    hint := if d.hint = some [] then none else d.hint
    operation := if d.operation = some [] then none else d.operation }

/-- The severity is not one of the texts: only its label is shown. -/
structure IsUnbroken (d : Diagnostic) : Prop where
  message : '\n' ∉ d.message
  hint : ∀ hint ∈ d.hint, '\n' ∉ hint
  operation : ∀ operation ∈ d.operation, '\n' ∉ operation

/-- What a block shows can be read in one way only: the severity is one of the two labels, no
part is given that would be left out, and no operation ends in what looks like an offset. -/
structure IsLegible (d : Diagnostic) : Prop extends d.IsUnbroken where
  severity : d.severity = "error".toList ∨ d.severity = "warning".toList
  hint_filled : d.hint ≠ some []
  operation_filled : d.operation ≠ some []
  operation_apart : ∀ operation ∈ d.operation,
    ¬", offset ".toList <:+: operation ∧ ¬"offset ".toList <+: operation

end Diagnostic

end TextCursor

import TextCursor.Text.Numeral

/-! Lines and columns by counting. Only the line feed ends a line, and an offset
past the end counts as the end. The offsets of a line and of a column count from
zero, and both parts of a location from one. -/
namespace TextCursor

structure Location where
  line : Nat
  column : Nat
  deriving DecidableEq

namespace Location

structure NegativePosition where
  position : Int
  deriving DecidableEq

def NegativePosition.message (e : NegativePosition) : Text :=
  "Position must be >= 0, got ".toList ++ Text.ofInt e.position

def linesBefore (source : Text) (position : Nat) : Nat := (source.take position).count '\n'

def columnsBefore (source : Text) (position : Nat) : Nat :=
  ((source.take position).reverse.takeWhile (· ≠ '\n')).length

def checked (position : Int) : Except NegativePosition Nat :=
  if position < 0 then .error ⟨position⟩ else .ok position.toNat

def lineOffset (source : Text) (position : Int) : Except NegativePosition Nat :=
  (checked position).map (linesBefore source)

def columnOffset (source : Text) (position : Int) : Except NegativePosition Nat :=
  (checked position).map (columnsBefore source)

def ofPosition (source : Text) (position : Int) : Except NegativePosition Location := do
  return ⟨(← lineOffset source position) + 1, (← columnOffset source position) + 1⟩

end Location

end TextCursor

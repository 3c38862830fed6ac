import TextCursor.Location.Basic
import Mathlib.Algebra.GroupWithZero.Nat
import Mathlib.Data.Prod.Lex

/-! Lines and columns from the start of a text on. Read one by one, every character
moves the location on. In a list of lines a location has an offset: the last column
of a line is the one after its characters. -/
namespace TextCursor.Location

def start : Location := ⟨1, 1⟩

def advance (location : Location) (c : Char) : Location :=
  if c = '\n' then ⟨location.line + 1, 1⟩ else ⟨location.line, location.column + 1⟩

def afterReading (s : Text) : Location := s.foldl advance start

/-- Counted from zero, after all lines before it and their feeds. -/
def lineStart (lines : List Text) (index : Nat) : Nat :=
  ((lines.take index).map fun line => line.length + 1).sum

def offsetIn (lines : List Text) (location : Location) : Nat :=
  lineStart lines (location.line - 1) + (location.column - 1)

def InLines (lines : List Text) (location : Location) : Prop :=
  1 ≤ location.line ∧ 1 ≤ location.column ∧
    ∃ line, lines[location.line - 1]? = some line ∧ location.column ≤ line.length + 1

def inOrder (location : Location) : Nat ×ₗ Nat := toLex (location.line, location.column)

end TextCursor.Location

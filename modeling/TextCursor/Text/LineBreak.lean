import TextCursor.Text.Basic

/-! Line breaks in two passes: a carriage return before a line feed is dropped
first, then each one left becomes a line feed. The passes are stated for any two
symbols, so that they apply to bytes as well as to characters. -/
namespace TextCursor.LineBreak

variable {α : Type} [DecidableEq α]

def joinPairs (cr lf : α) : List α → List α
  | [] => []
  | [a] => [a]
  | a :: b :: rest =>
    if a = cr ∧ b = lf then joinPairs cr lf (b :: rest) else a :: joinPairs cr lf (b :: rest)

def replaceLone (cr lf : α) (xs : List α) : List α := xs.map fun a => if a = cr then lf else a

def unify (cr lf : α) (xs : List α) : List α := replaceLone cr lf (joinPairs cr lf xs)

def scan (cr lf : α) : List α → List α
  | [] => []
  | [a] => [if a = cr then lf else a]
  | a :: b :: rest =>
    if a = cr then
      if b = lf then lf :: scan cr lf rest else lf :: scan cr lf (b :: rest)
    else a :: scan cr lf (b :: rest)

def pieces (cr lf : α) : List α → List (List α)
  | [] => [[]]
  | [a] => if a = cr ∨ a = lf then [[], []] else [[a]]
  | a :: b :: rest =>
    if a = cr ∧ b = lf then [] :: pieces cr lf rest
    else if a = cr ∨ a = lf then [] :: pieces cr lf (b :: rest)
    else (pieces cr lf (b :: rest)).modifyHead (a :: ·)

end TextCursor.LineBreak

namespace TextCursor

def Text.unifyBreaks (s : Text) : Text := LineBreak.unify '\r' '\n' s

end TextCursor

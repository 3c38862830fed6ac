/-! Text is a list of code points: a length counts characters, a position is an
index, and every slice is a prefix of a suffix. A word in a list is found from left
to right and without overlap, to be replaced or to divide the list into pieces. -/
namespace TextCursor

abbrev Text := List Char

namespace Text

def slice (s : Text) (start stop : Nat) : Text := (s.drop start).take (stop - start)

theorem length_slice {s : Text} {start stop : Nat} (upper : stop ≤ s.length) :
    (s.slice start stop).length = stop - start := by
  simp only [slice, List.length_take, List.length_drop]
  omega

/-- A negative limit drops that many characters from the end, at most all. -/
def clip (s : Text) (limit : Int) : Text :=
  if limit < 0 then s.take (s.length - limit.natAbs) else s.take limit.toNat

end Text

variable {α : Type} [DecidableEq α]

def replaceAll (word replacement : List α) : List α → List α
  | [] => []
  | a :: rest =>
    if word <+: a :: rest then
      replacement ++ replaceAll word replacement (rest.drop (word.length - 1))
    else a :: replaceAll word replacement rest
termination_by xs => xs.length
decreasing_by
  · simp only [List.length_drop, List.length_cons]
    omega
  · exact Nat.lt_succ_self _

/-- There is always one piece, and the word is taken not to be empty. -/
def splitAll (word : List α) : List α → List (List α)
  | [] => [[]]
  | a :: rest =>
    if word <+: a :: rest then [] :: splitAll word (rest.drop (word.length - 1))
    else (splitAll word rest).modifyHead (a :: ·)
termination_by xs => xs.length
decreasing_by
  · simp only [List.length_drop, List.length_cons]
    omega
  · exact Nat.lt_succ_self _

end TextCursor

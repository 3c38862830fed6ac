import TextCursor.Location.Coordinates
import TextCursor.Location.Table
import Mathlib.Data.List.Induction

/-! Lookup in a line table agrees with reading. At every offset the table splits
in two: the starts up to the offset come from the text before it, all others
from the text after it. -/
namespace TextCursor

/-- The search ends at a boundary that lies between its bounds. -/
theorem upperBound_eq {entries : Array Nat} {key low high : Nat} (bound : high ≤ entries.size)
    {boundary : Nat} (lower : low ≤ boundary) (upper : boundary ≤ high)
    (before : ∀ i entry, entries.toList[i]? = some entry → i < boundary → entry ≤ key)
    (after : ∀ i entry, entries.toList[i]? = some entry → boundary ≤ i → key < entry) :
    upperBound entries key low high bound = boundary := by
  have found (i : Nat) (inside : i < entries.size) : entries.toList[i]? = some entries[i] := by
    rw [Array.getElem?_toList, Array.getElem?_eq_getElem inside]
  fun_induction upperBound with
  | case1 low high bound opened middle less ih =>
    have inside : middle < entries.size := by omega
    have : boundary ≤ middle := by
      by_contra beyond
      have := before middle _ (found middle inside) (by omega)
      omega
    exact ih lower this
  | case2 low high bound opened middle less ih =>
    have inside : middle < entries.size := by omega
    have : middle < boundary := by
      by_contra beyond
      have := after middle _ (found middle inside) (by omega)
      omega
    exact ih (by omega) upper
  | case3 low high bound closed => omega

namespace LineTable

theorem startsFrom_append (offset : Nat) (first rest : Text) :
    startsFrom offset (first ++ rest) =
      startsFrom offset first ++ startsFrom (offset + first.length) rest := by
  induction first generalizing offset with
  | nil => rfl
  | cons c first ih =>
    have shifted : offset + 1 + first.length = offset + (first.length + 1) := by omega
    by_cases feed : c = '\n'
    · simp [startsFrom, feed, ih, shifted]
    · simp [startsFrom, feed, ih, shifted]

theorem length_startsFrom (offset : Nat) (s : Text) :
    (startsFrom offset s).length = s.count '\n' := by
  induction s generalizing offset with
  | nil => rfl
  | cons c rest ih =>
    by_cases feed : c = '\n'
    · simp [startsFrom, feed, ih]
    · simp [startsFrom, feed, ih]

theorem bounds_of_mem_startsFrom {offset start : Nat} {s : Text}
    (member : start ∈ startsFrom offset s) : offset < start ∧ start ≤ offset + s.length := by
  induction s generalizing offset with
  | nil => simp [startsFrom] at member
  | cons c rest ih =>
    have later (inside : start ∈ startsFrom (offset + 1) rest) :
        offset < start ∧ start ≤ offset + (rest.length + 1) := by
      have := ih inside
      omega
    by_cases feed : c = '\n'
    · simp only [startsFrom, feed, if_true, List.mem_cons] at member
      rcases member with rfl | inside
      · simp only [List.length_cons]
        omega
      · exact later inside
    · simp only [startsFrom, feed, if_false] at member
      exact later member

/-- The starts of the lines that a text has up to its end, in the table of a longer one. -/
theorem starts_ofText_append (first rest : Text) :
    (ofText (first ++ rest)).starts.toList =
      (0 :: startsFrom 0 first) ++ startsFrom first.length rest := by
  simp [ofText, startsFrom_append]

theorem length_starts_upTo (s : Text) : (0 :: startsFrom 0 s).length = s.count '\n' + 1 := by
  rw [List.length_cons, length_startsFrom]

theorem linesUpTo_ofText (first rest : Text) :
    (ofText (first ++ rest)).linesUpTo first.length = first.count '\n' + 1 := by
  have split := starts_ofText_append first rest
  have size := length_starts_upTo first
  apply upperBound_eq
  · omega
  · have total := congrArg List.length split
    simp only [Array.length_toList, List.length_append] at total
    omega
  · intro i start found below
    rw [split, List.getElem?_append_left (by omega)] at found
    rcases List.mem_cons.mp (List.mem_of_getElem? found) with zero | later
    · omega
    · have := bounds_of_mem_startsFrom later
      omega
  · intro i start found above
    rw [split, List.getElem?_append_right (by omega)] at found
    exact (bounds_of_mem_startsFrom (List.mem_of_getElem? found)).1

/-- The last line of a text starts as many characters before its end as follow its last feed. -/
theorem getLast_startsFrom (s : Text) :
    (0 :: startsFrom 0 s).getLast (List.cons_ne_nil _ _) +
      (s.reverse.takeWhile (· ≠ '\n')).length = s.length := by
  induction s using List.reverseRecOn with
  | nil => rfl
  | append_singleton s c ih =>
    by_cases feed : c = '\n'
    · simp only [startsFrom_append, startsFrom, feed, Nat.zero_add, if_true, List.reverse_append,
        List.reverse_singleton, List.singleton_append, List.length_append, List.length_singleton]
      change ((0 :: startsFrom 0 s) ++ [s.length + 1]).getLast _ + 0 = s.length + 1
      rw [List.getLast_concat]
    · simp only [startsFrom_append, startsFrom, feed, if_false, List.append_nil,
        List.reverse_append, List.reverse_singleton, List.singleton_append, List.length_append,
        List.length_singleton]
      simp only [ne_eq, feed, not_false_eq_true, decide_true, List.takeWhile_cons_of_pos,
        List.length_cons]
      simp only [ne_eq] at ih
      omega

theorem locate_eq (table : LineTable) (position : Int) {index : Nat}
    (lines : table.linesUpTo (table.clamp position) = index + 1)
    (inside : index < table.starts.size) :
    table.locate position = ⟨index + 1, table.clamp position - table.starts[index] + 1⟩ := by
  simp only [locate, lines, Nat.add_sub_cancel]

end LineTable

namespace Location

theorem afterReading_append_singleton (s : Text) (c : Char) :
    afterReading (s ++ [c]) = (afterReading s).advance c := by
  simp [afterReading]

/-- Reading a text counts its line feeds, and the characters since the last one. -/
theorem afterReading_eq (s : Text) :
    afterReading s = ⟨s.count '\n' + 1, (s.reverse.takeWhile (· ≠ '\n')).length + 1⟩ := by
  induction s using List.reverseRecOn with
  | nil => rfl
  | append_singleton s c ih =>
    rw [afterReading_append_singleton, ih]
    by_cases feed : c = '\n'
    · simp [advance, feed]
    · simp [advance, feed]

theorem afterReading_take (source : Text) (position : Nat) :
    afterReading (source.take position) =
      ⟨linesBefore source position + 1, columnsBefore source position + 1⟩ :=
  afterReading_eq _

theorem lineOffset_of_nonneg (source : Text) {position : Int} (nonneg : 0 ≤ position) :
    lineOffset source position = .ok (linesBefore source position.toNat) := by
  rw [lineOffset, checked, if_neg (by omega)]
  rfl

theorem columnOffset_of_nonneg (source : Text) {position : Int} (nonneg : 0 ≤ position) :
    columnOffset source position = .ok (columnsBefore source position.toNat) := by
  rw [columnOffset, checked, if_neg (by omega)]
  rfl

theorem ofPosition_of_nonneg (source : Text) {position : Int} (nonneg : 0 ≤ position) :
    ofPosition source position = .ok (afterReading (source.take position.toNat)) := by
  rw [ofPosition, lineOffset_of_nonneg source nonneg, columnOffset_of_nonneg source nonneg,
    afterReading_take]
  rfl

end Location

namespace LineTable

theorem locate_ofText_append {first rest : Text} {position : Int}
    (clamped : (ofText (first ++ rest)).clamp position = first.length) :
    (ofText (first ++ rest)).locate position = Location.afterReading first := by
  have split := starts_ofText_append first rest
  have size := length_starts_upTo first
  have inside : first.count '\n' < (ofText (first ++ rest)).starts.size := by
    have total := congrArg List.length split
    simp only [Array.length_toList, List.length_append] at total
    omega
  have entry : (ofText (first ++ rest)).starts[first.count '\n'] +
      (first.reverse.takeWhile (· ≠ '\n')).length = first.length := by
    rw [← getLast_startsFrom first, List.getLast_eq_getElem]
    simp only [← Array.getElem_toList, split, size, Nat.add_sub_cancel]
    rw [List.getElem_append_left (by omega)]
  rw [locate_eq _ _ (by rw [clamped, linesUpTo_ofText]) inside, clamped,
    Location.afterReading_eq]
  congr 1
  omega

/-- An offset is looked up as if the source were read up to it; a negative one
counts as the start, and one past the end as the end. -/
theorem locate_ofText (source : Text) (position : Int) :
    (ofText source).locate position = Location.afterReading (source.take position.toNat) := by
  conv_lhs => rw [← List.take_append_drop position.toNat source]
  apply locate_ofText_append
  rw [List.take_append_drop]
  simp [clamp, ofText]

end LineTable

end TextCursor

import Mathlib.Logic.Basic
import TextCursor.Text.Basic

/-! Slices by their characters. Two slices that meet are one, so that a text may be cut
anywhere and put together again. -/
namespace TextCursor.Text

variable {s : Text} {start middle stop : Nat}

theorem getElem?_slice (offset : Nat) :
    (s.slice start stop)[offset]? = if start + offset < stop then s[start + offset]? else none := by
  rw [slice, List.getElem?_take, List.getElem?_drop]
  apply if_congr _ rfl rfl
  omega

theorem getElem?_slice_of_lt {offset : Nat} (short : offset < (s.slice start stop).length) :
    (s.slice start stop)[offset]? = s[start + offset]? := by
  have upper : offset < stop - start :=
    Nat.lt_of_lt_of_le short (List.length_take_le (stop - start) (s.drop start))
  rw [getElem?_slice, if_pos (by omega)]

theorem mem_slice_iff {char : Char} :
    char ∈ s.slice start stop ↔ ∃ index, start ≤ index ∧ index < stop ∧ s[index]? = some char := by
  rw [List.mem_iff_getElem?]
  simp only [getElem?_slice]
  constructor
  · intro found
    obtain ⟨offset, read⟩ := found
    split at read
    case isTrue inside => exact ⟨start + offset, Nat.le_add_right _ _, inside, read⟩
    case isFalse => cases read
  · intro found
    obtain ⟨index, lower, upper, read⟩ := found
    refine ⟨index - start, ?_⟩
    rw [Nat.add_sub_cancel' lower, if_pos upper]
    exact read

theorem slice_append (before middle after : Text) :
    slice (before ++ middle ++ after) before.length (before ++ middle).length = middle := by
  simp [slice]

theorem slice_append_slice (lower : start ≤ middle) (upper : middle ≤ stop) :
    s.slice start middle ++ s.slice middle stop = s.slice start stop := by
  have whole : stop - start = (middle - start) + (stop - middle) := by omega
  have rest : s.drop middle = (s.drop start).drop (middle - start) := by
    rw [List.drop_drop, Nat.add_sub_cancel' lower]
  rw [slice, slice, slice, whole, List.take_add, rest]

theorem slice_self (s : Text) (start : Nat) : s.slice start start = [] := by
  rw [slice, Nat.sub_self, List.take_zero]

theorem slice_whole (s : Text) : s.slice 0 s.length = s := by
  rw [slice, List.drop_zero, Nat.sub_zero, List.take_length]

/-- No slice goes beyond the text. -/
theorem slice_min_length (s : Text) (start stop : Nat) :
    s.slice start (min s.length stop) = s.slice start stop := by
  apply List.ext_getElem?
  intro offset
  rw [getElem?_slice, getElem?_slice]
  by_cases inside : start + offset < s.length
  · apply if_congr _ rfl rfl
    omega
  · have absent : s[start + offset]? = none := List.getElem?_eq_none (Nat.not_lt.mp inside)
    rw [absent, ite_self, ite_self]

end TextCursor.Text

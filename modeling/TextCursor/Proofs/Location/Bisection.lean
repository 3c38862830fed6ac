import TextCursor.Proofs.Location.Table
import Mathlib.Data.List.Range

/-! The table of line starts is in order, and the binary search in it finds what counting its
entries would find. -/
namespace TextCursor

variable {entries : Array Nat} {key low high : Nat}

namespace Bisects

/-- The rounds end, whatever the entries are, because each of them leaves less to search. -/
theorem upperBound (bound : high ≤ entries.size) :
    Bisects entries key low high (upperBound entries key low high bound) := by
  fun_induction TextCursor.upperBound with
  | case1 low high bound opened middle less ih =>
    exact .left opened (Array.getElem?_eq_getElem _) less ih
  | case2 low high bound opened middle less ih =>
    exact .right opened (Array.getElem?_eq_getElem _) (Nat.not_lt.mp less) ih
  | case3 low high bound closed => exact .closed (Nat.not_lt.mp closed)

/-- Both look at the same entry in each round, and it is not on both sides of the key. -/
theorem unique {boundary other : Nat} (first : Bisects entries key low high boundary)
    (second : Bisects entries key low high other) : boundary = other := by
  induction first with
  | closed empty =>
    cases second with
    | closed => rfl
    | left opened | right opened => omega
  | left opened found less rest ih =>
    cases second with
    | closed empty => omega
    | left _ _ _ rest' => exact ih rest'
    | right _ found' reached =>
      cases found.symm.trans found'
      omega
  | right opened found reached rest ih =>
    cases second with
    | closed empty => omega
    | right _ _ _ rest' => exact ih rest'
    | left _ found' less =>
      cases found.symm.trans found'
      omega

end Bisects

theorem bisects_iff (bound : high ≤ entries.size) (boundary : Nat) :
    Bisects entries key low high boundary ↔
      boundary = upperBound entries key low high bound := by
  constructor
  · intro searched
    exact searched.unique (.upperBound bound)
  · rintro rfl
    exact .upperBound bound

/-- In ascending order those up to a key come first, as many as there are. -/
theorem le_iff_lt_countP {values : List Nat} (ascending : values.Pairwise (· ≤ ·))
    {index value : Nat} (found : values[index]? = some value) :
    value ≤ key ↔ index < values.countP (· ≤ key) := by
  induction values generalizing index with
  | nil => cases found
  | cons first rest ih =>
    obtain ⟨least, ordered⟩ := List.pairwise_cons.mp ascending
    by_cases within : first ≤ key
    · rw [List.countP_cons_of_pos (by simpa using within)]
      cases index with
      | zero =>
        cases found
        exact iff_of_true within (Nat.succ_pos _)
      | succ index => rw [ih ordered found, Nat.succ_lt_succ_iff]
    · have beyond : ∀ later ∈ first :: rest, ¬later ≤ key := by
        intro later member
        rcases List.mem_cons.mp member with rfl | inside
        · exact within
        · have := least later inside
          omega
      have none : (first :: rest).countP (· ≤ key) = 0 := by
        simpa [List.countP_eq_zero] using beyond
      rw [none]
      exact iff_of_false (beyond value (List.mem_of_getElem? found)) (Nat.not_lt_zero _)

theorem upperBound_eq_countP (ascending : entries.toList.Pairwise (· ≤ ·)) (key : Nat) :
    upperBound entries key 0 entries.size (Nat.le_refl _) = entries.toList.countP (· ≤ key) := by
  apply upperBound_eq
  · exact Nat.zero_le _
  · exact List.countP_le_length.trans_eq Array.length_toList
  · intro i entry found below
    exact (le_iff_lt_countP ascending found).mpr below
  · intro i entry found above
    exact Nat.not_le.mp (mt (le_iff_lt_countP ascending found).mp (Nat.not_lt.mpr above))

namespace LineTable

/-- Lines start behind the feeds, in the order of these. -/
theorem startsFrom_eq (offset : Nat) (s : Text) :
    startsFrom offset s =
      ((List.range s.length).filter fun index => s[index]? = some '\n').map
        fun index => offset + index + 1 := by
  induction s generalizing offset with
  | nil => rfl
  | cons c rest ih =>
    have later : ((List.range rest.length).map Nat.succ).filter
        (fun index => (c :: rest)[index]? = some '\n') =
        ((List.range rest.length).filter fun index => rest[index]? = some '\n').map Nat.succ := by
      rw [List.filter_map]
      rfl
    have shifted (index : Nat) : offset + 1 + index + 1 = offset + index.succ + 1 := by omega
    rw [List.length_cons, List.range_succ_eq_map, List.filter_cons, later, startsFrom, ih]
    by_cases feed : c = '\n'
    · simp [feed, shifted]
    · simp [feed, shifted]

theorem starts_ofText (source : Text) :
    (ofText source).starts.toList =
      0 :: ((List.range source.length).filter fun index => source[index]? = some '\n').map
        (· + 1) := by
  simp [ofText, startsFrom_eq]

theorem starts_ascending (source : Text) : (ofText source).starts.toList.Pairwise (· < ·) := by
  rw [starts_ofText, List.pairwise_cons, List.pairwise_map]
  constructor
  · intro start member
    obtain ⟨index, _, rfl⟩ := List.mem_map.mp member
    exact Nat.succ_pos index
  · apply (List.pairwise_lt_range.filter _).imp
    exact Nat.succ_lt_succ

theorem le_length_of_mem_starts {source : Text} {start : Nat}
    (member : start ∈ (ofText source).starts.toList) : start ≤ source.length := by
  have listed : start = 0 ∨ start ∈ startsFrom 0 source := by simpa [ofText] using member
  rcases listed with rfl | later
  · exact Nat.zero_le _
  · have := bounds_of_mem_startsFrom later
    omega

theorem linesUpTo_eq_countP (source : Text) (offset : Nat) :
    (ofText source).linesUpTo offset = (ofText source).starts.toList.countP (· ≤ offset) :=
  upperBound_eq_countP ((starts_ascending source).imp Nat.le_of_lt) offset

theorem natCast_clamp (source : Text) (position : Int) :
    ((ofText source).clamp position : Int) = max 0 (min position source.length) := by
  simp only [clamp, ofText]
  omega

/-- The entry just before the boundary is the last one that an offset has reached. -/
theorem exists_start (source : Text) (offset : Nat) :
    ∃ index start, (ofText source).starts.toList.countP (· ≤ offset) = index + 1 ∧
      (ofText source).starts.toList[index]? = some start ∧ start ≤ offset ∧
      (index + 1 = (ofText source).starts.toList.length ∨
        ∃ next, (ofText source).starts.toList[index + 1]? = some next ∧ offset < next) := by
  have ascending := (starts_ascending source).imp Nat.le_of_lt
  have first : (ofText source).starts.toList[0]? = some 0 := by rw [starts_ofText]; rfl
  -- No offset is before the start of the first line, so one line at least has started.
  have begun := (le_iff_lt_countP ascending first).mp (Nat.zero_le offset)
  obtain ⟨index, counted⟩ := Nat.exists_eq_succ_of_ne_zero (Nat.ne_of_gt begun)
  have inside : index + 1 ≤ (ofText source).starts.toList.length :=
    counted.symm.trans_le List.countP_le_length
  have found := List.getElem?_eq_getElem (Nat.lt_of_succ_le inside)
  refine ⟨index, _, counted, found, (le_iff_lt_countP ascending found).mpr ?_, ?_⟩
  · rw [counted]
    exact Nat.lt_succ_self index
  · rcases Nat.eq_or_lt_of_le inside with last | further
    · exact .inl last
    · have after := List.getElem?_eq_getElem further
      refine .inr ⟨_, after, Nat.not_le.mp fun reached => ?_⟩
      have := (le_iff_lt_countP ascending after).mp reached
      omega

/-- The lines of a source start at its beginning and behind each of its feeds, in ascending order.
The search for the nearest offset of the source always ends, at the number of lines that have
started by then, of which there is one at least. The last of these has the offset, and the column
counts from where it starts. -/
theorem starts_bisected (source : Text) :
    let table := ofText source
    let starts := table.starts.toList
    (starts = 0 :: ((List.range source.length).filter fun index => source[index]? = some '\n').map
      (· + 1)) ∧
    starts.Pairwise (· < ·) ∧
    (∀ start ∈ starts, start ≤ source.length) ∧
    ∀ position : Int, ∃ offset index start : Nat,
      (offset : Int) = max 0 (min position source.length) ∧
      (∀ boundary, Bisects table.starts offset 0 table.starts.size boundary ↔
        boundary = table.linesUpTo offset) ∧
      table.linesUpTo offset = starts.countP (· ≤ offset) ∧
      table.linesUpTo offset = index + 1 ∧ index + 1 ≤ starts.length ∧
      starts[index]? = some start ∧ start ≤ offset ∧
      (index + 1 = starts.length ∨ ∃ next, starts[index + 1]? = some next ∧ offset < next) ∧
      (table.locate position).line = index + 1 ∧
      ((table.locate position).column : Int) = offset - start + 1 ∧
      1 ≤ (table.locate position).column := by
  intro table starts
  refine ⟨starts_ofText source, starts_ascending source, fun _ => le_length_of_mem_starts,
    fun position => ?_⟩
  obtain ⟨index, start, counted, found, reached, next⟩ :=
    exists_start source (table.clamp position)
  have searched := linesUpTo_eq_countP source (table.clamp position)
  have lines := searched.trans counted
  have inside : index + 1 ≤ starts.length := counted.symm.trans_le List.countP_le_length
  have entry : table.starts[index]? = some start := by rw [← Array.getElem?_toList]; exact found
  obtain ⟨within, read⟩ := Array.getElem?_eq_some_iff.mp entry
  have located := locate_eq table position lines within
  rw [read] at located
  refine ⟨table.clamp position, index, start, natCast_clamp source position,
    bisects_iff (Nat.le_refl _), searched, lines, inside, found, reached, next, ?_, ?_, ?_⟩
  · rw [located]
  · rw [located]
    dsimp only
    omega
  · rw [located]
    exact Nat.succ_pos _

/-- An offset at which a line starts is in that line, though the line before it is empty. -/
theorem starts_bisected_at_start :
    (ofText ['a', '\n', '\n', 'b']).starts = #[0, 2, 3] ∧
    3 ∈ (ofText ['a', '\n', '\n', 'b']).starts.toList ∧
    3 ≤ (4 : Nat) ∧
    Bisects #[0, 2, 3] 3 0 3 3 ∧
    (ofText ['a', '\n', '\n', 'b']).locate 3 = ⟨3, 1⟩ := by
  have table : (ofText ['a', '\n', '\n', 'b']).starts = #[0, 2, 3] := rfl
  have member : 3 ∈ (ofText ['a', '\n', '\n', 'b']).starts.toList := by
    rw [table]
    decide
  obtain ⟨_, _, bounded, searched⟩ := starts_bisected ['a', '\n', '\n', 'b']
  obtain ⟨offset, index, start, nearest, bisected, counted, lines, _, found, _, _, line, column,
    _⟩ := searched 3
  obtain rfl : offset = 3 := Int.ofNat.inj nearest
  obtain rfl : index = 2 := Nat.succ.inj (lines.symm.trans counted)
  cases found
  refine ⟨table, member, bounded 3 member, (bisected 3).mpr lines.symm, ?_⟩
  exact congrArg₂ Location.mk line (Int.ofNat.inj column)

end LineTable

end TextCursor

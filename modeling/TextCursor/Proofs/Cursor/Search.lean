import TextCursor.Cursor.Program
import TextCursor.Proofs.Cursor.Run
import TextCursor.Proofs.Value.Denotation

/-! What searches find: the first character ahead of the cursor that they look for. -/
namespace TextCursor.Cursor

section First

variable {c : Cursor} {wanted : Char → Bool} {sought : Char → Prop}

theorem firstAfter?_eq_none (agree : ∀ char, wanted char ↔ sought char)
    (missed : c.firstAfter? wanted = none) (index : Nat) : ¬c.OccursAhead sought index := by
  rintro ⟨ahead, char, there, found⟩
  rw [firstAfter?, Option.map_eq_none_iff, List.findIdx?_eq_none_iff] at missed
  have read : (c.text.drop (c.position + 1))[index - (c.position + 1)]? = some char := by
    rw [List.getElem?_drop, Nat.add_sub_cancel' ahead]
    exact there
  have refused := missed char (List.mem_of_getElem? read)
  exact Bool.eq_false_iff.mp refused ((agree char).mpr found)

theorem firstAfter?_eq_some (agree : ∀ char, wanted char ↔ sought char) {index : Nat}
    (found : c.firstAfter? wanted = some index) :
    c.OccursAhead sought index ∧ ∀ before < index, ¬c.OccursAhead sought before := by
  obtain ⟨offset, at_offset, rfl⟩ := Option.map_eq_some_iff.mp found
  obtain ⟨inside, accepted, first⟩ := List.findIdx?_eq_some_iff_getElem.mp at_offset
  have read (other : Nat) : (c.text.drop (c.position + 1))[other]? =
      c.text[other + (c.position + 1)]? := by
    rw [List.getElem?_drop, Nat.add_comm]
  constructor
  · refine ⟨by omega, _, ?_, (agree _).mp accepted⟩
    rw [← read]
    exact List.getElem?_eq_getElem inside
  · rintro before earlier ⟨ahead, char, there, sound⟩
    obtain ⟨other, rfl⟩ := Nat.exists_eq_add_of_lt ahead
    rw [show c.position + other + 1 = other + (c.position + 1) by omega, ← read] at there
    obtain ⟨_, same⟩ := List.getElem?_eq_some_iff.mp there
    apply first other (by omega)
    rw [same]
    exact (agree char).mpr sound

theorem firstAfter?_eq_some_iff (agree : ∀ char, wanted char ↔ sought char) {index : Nat} :
    c.firstAfter? wanted = some index ↔
      c.OccursAhead sought index ∧ ∀ before < index, ¬c.OccursAhead sought before := by
  constructor
  · exact firstAfter?_eq_some agree
  · rintro ⟨occurs, first⟩
    cases found : c.firstAfter? wanted with
    | none => exact absurd occurs (firstAfter?_eq_none agree found index)
    | some other =>
      obtain ⟨occurs', first'⟩ := firstAfter?_eq_some agree found
      have notBefore := mt (first other) (not_not.mpr occurs')
      have notBehind := mt (first' index) (not_not.mpr occurs)
      rw [Nat.le_antisymm (Nat.not_lt.mp notBehind) (Nat.not_lt.mp notBefore)]

end First

theorem exists_findNext {target : Value} (valid : target.IsTarget) :
    ∃ wanted : Char → Bool, (∀ char, wanted char ↔ target.Denotes char) ∧
      ∀ c : Cursor, c.findNext target = .ok (c.firstAfter? wanted) := by
  obtain ⟨code, read, agree⟩ := exists_targetCode valid "find_next".toList
  refine ⟨isAmong [code], agree, fun c => ?_⟩
  rw [findNext, read]
  rfl

theorem exists_findNextOf {targets : Value} (valid : ∀ refused, ¬targets.RefusedFor refused) :
    ∃ wanted : Char → Bool, (∀ char, wanted char ↔ targets.Covers char) ∧
      ∀ c : Cursor, c.findNextOf targets = .ok (c.firstAfter? wanted) := by
  obtain ⟨codes, read, agree⟩ := exists_groupCodes valid "find_next_of".toList
  refine ⟨isAmong codes, agree, fun c => ?_⟩
  rw [findNextOf, read]
  rfl

theorem exists_consume {targets : Value} (valid : ∀ refused, ¬targets.RefusedFor refused) :
    ∃ wanted : Char → Bool, (∀ char, wanted char ↔ targets.Covers char) ∧
      ∀ c : Cursor, c.consume targets = .ok (c.skipWhile wanted) := by
  obtain ⟨codes, read, agree⟩ := exists_groupCodes valid "consume".toList
  refine ⟨isAmong codes, agree, fun c => ?_⟩
  rw [consume, read]
  rfl

/-- Every search comes down to the first occurrence ahead, on whatever cursor it is made. -/
theorem exists_perform_of_seeks {search : Request} {sought : Char → Prop}
    (seeks : search.Seeks sought) :
    ∃ wanted : Char → Bool, (∀ char, wanted char ↔ sought char) ∧
      ∀ c : Cursor, c.perform search = .ok (.ofOffset (c.firstAfter? wanted), c) := by
  cases seeks with
  | target valid =>
    obtain ⟨wanted, agree, found⟩ := exists_findNext valid
    refine ⟨wanted, agree, fun c => ?_⟩
    rw [perform, found]
    rfl
  | group valid =>
    obtain ⟨wanted, agree, found⟩ := exists_findNextOf valid
    refine ⟨wanted, agree, fun c => ?_⟩
    rw [perform, found]
    rfl

theorem perform_cases_of_seeks {search : Request} {sought : Char → Prop}
    (seeks : search.Seeks sought) (c : Cursor) :
    (c.perform search = .ok (.missing, c) ∧ ∀ index, ¬c.OccursAhead sought index) ∨
      ∃ index, c.perform search = .ok (.number index, c) ∧ c.OccursAhead sought index ∧
        ∀ before < index, ¬c.OccursAhead sought before := by
  obtain ⟨wanted, agree, performed⟩ := exists_perform_of_seeks seeks
  have answered := performed c
  cases found : c.firstAfter? wanted with
  | none =>
    rw [found] at answered
    exact .inl ⟨answered, firstAfter?_eq_none agree found⟩
  | some index =>
    rw [found] at answered
    obtain ⟨occurs, first⟩ := firstAfter?_eq_some agree found
    exact .inr ⟨index, answered, occurs, first⟩

end TextCursor.Cursor

import TextCursor.Proofs.Cursor.Sweep
import Mathlib.Data.List.ReduceOption
import Mathlib.Order.Nat

/-! Searches for groups and for single targets find the same: the earliest occurrence ahead of
the cursor, which for a group is the earliest of those of its targets. -/
namespace TextCursor.Cursor

variable {c : Cursor} {wanted : Char → Bool} {sought : Char → Prop}

theorem firstAfter?_eq_some_iff_isLeast (agree : ∀ char, wanted char ↔ sought char) {index : Nat} :
    c.firstAfter? wanted = some index ↔ IsLeast {index | c.OccursAhead sought index} index := by
  rw [firstAfter?_eq_some_iff agree]
  refine and_congr_right fun _ => forall_congr' fun other => ?_
  exact ⟨fun first occurs => Nat.not_lt.mp fun earlier => first earlier occurs,
    fun least earlier occurs => Nat.not_lt.mpr (least occurs) earlier⟩

theorem occursAhead_iff (sized : c.length = c.text.length) {index : Nat} :
    c.OccursAhead sought index ↔ c.position < index ∧ index < c.length ∧
      ∃ char, c.text[index]? = some char ∧ sought char := by
  constructor
  · intro occurs
    exact ⟨occurs.1, sized ▸ occurs.lt_length, occurs.2⟩
  · intro occurs
    exact ⟨occurs.1, occurs.2.2⟩

theorem occursAhead_covers_iff {targets : Value} {index : Nat} :
    c.OccursAhead targets.Covers index ↔
      ∃ target ∈ targets.singles, c.OccursAhead target.Denotes index := by
  simp only [OccursAhead, Value.covers_iff]
  constructor
  · intro occurs
    obtain ⟨ahead, char, there, target, member, denoted⟩ := occurs
    exact ⟨target, member, ahead, char, there, denoted⟩
  · intro occurs
    obtain ⟨target, member, ahead, char, there, denoted⟩ := occurs
    exact ⟨ahead, char, there, target, member, denoted⟩

/-- The earliest of all occurrences is the earliest of those that come first among their own. -/
theorem isLeast_leasts_iff {α : Type} {items : List α} {occurs : α → Nat → Prop} {index : Nat} :
    IsLeast {first | ∃ a ∈ items, IsLeast {index | occurs a index} first} index ↔
      IsLeast {index | ∃ a ∈ items, occurs a index} index := by
  constructor
  · intro least
    obtain ⟨a, member, first⟩ := least.1
    refine ⟨⟨a, member, first.1⟩, fun other found => ?_⟩
    obtain ⟨b, member', occurs'⟩ := found
    have earliest : ∃ first, IsLeast {index | occurs b index} first := by
      classical exact ⟨_, Nat.isLeast_find ⟨other, occurs'⟩⟩
    obtain ⟨first', leads⟩ := earliest
    exact (least.2 ⟨b, member', leads⟩).trans (leads.2 occurs')
  · intro least
    obtain ⟨a, member, occurs'⟩ := least.1
    refine ⟨⟨a, member, occurs', fun other later => least.2 ⟨a, member, later⟩⟩, ?_⟩
    intro first found
    obtain ⟨b, member', leads⟩ := found
    exact least.2 ⟨b, member', leads.1⟩

theorem exists_forall₂_findNext {targets : Value} (valid : ∀ refused, ¬targets.RefusedFor refused)
    (c : Cursor) :
    ∃ results, List.Forall₂ (fun target result =>
        c.perform (.findNext target) = .ok (.ofOffset result, c)) targets.singles results ∧
      ∀ index, some index ∈ results ↔
        ∃ target ∈ targets.singles, IsLeast {index | c.OccursAhead target.Denotes index} index := by
  have each := Value.isTarget_of_mem_singles valid
  generalize targets.singles = singles at each
  induction singles with
  | nil => exact ⟨[], .nil, by simp⟩
  | cons target rest ih =>
    obtain ⟨accepted, others⟩ := List.forall_mem_cons.mp each
    obtain ⟨wanted, agree, performed⟩ := exists_perform_of_seeks (.target accepted)
    obtain ⟨results, found, firsts⟩ := ih others
    refine ⟨c.firstAfter? wanted :: results, .cons (performed c) found, fun index => ?_⟩
    simp only [List.mem_cons, exists_eq_or_imp, firsts, eq_comm (a := some index),
      firstAfter?_eq_some_iff_isLeast agree]

/-- A search for a group finds the earliest character behind the cursor that the group covers. It
is the earliest of those that searches for its targets, one by one, find, and any other group that
covers the same characters finds it as well. -/
theorem search_of_run {data : Value} {unifyBreaks : Bool} {made : Created}
    (accepted : create data unifyBreaks = .ok made) (requests : List Request) {targets : Value}
    (valid : ∀ refused, ¬targets.RefusedFor refused) :
    let start := made.cursor.run requests
    ∃ found results,
      start.perform (.findNextOf targets) = .ok (.ofOffset found, start) ∧
      (∀ index, found = some index ↔
        IsLeast {index | start.position < index ∧ index < start.length ∧
          ∃ char, start.text[index]? = some char ∧ targets.Covers char} index) ∧
      List.Forall₂ (fun target result =>
        start.perform (.findNext target) = .ok (.ofOffset result, start)) targets.singles results ∧
      found = results.reduceOption.min? ∧
      ∀ others, (∀ refused, ¬others.RefusedFor refused) →
        (∀ char, others.Covers char ↔ targets.Covers char) →
        start.perform (.findNextOf others) = start.perform (.findNextOf targets) := by
  intro start
  have placed : start.WellPlaced := wellPlaced_of_run accepted requests
  obtain ⟨wanted, agree, performed⟩ := exists_perform_of_seeks (.group valid)
  obtain ⟨results, searched, firsts⟩ := exists_forall₂_findNext valid start
  have least (index : Nat) : start.firstAfter? wanted = some index ↔
      IsLeast {index | start.OccursAhead targets.Covers index} index :=
    firstAfter?_eq_some_iff_isLeast agree
  refine ⟨start.firstAfter? wanted, results, performed start, ?_, searched, ?_, ?_⟩
  · intro index
    simp only [least, occursAhead_iff placed.length_eq]
  · apply Option.ext
    intro index
    rw [least, List.min?_eq_some_iff]
    simp only [occursAhead_covers_iff, ← isLeast_leasts_iff, ← firsts]
    exact and_congr (List.reduceOption_mem_iff).symm
      (forall_congr' fun other => imp_congr_left List.reduceOption_mem_iff.symm)
  · intro others valid' same
    obtain ⟨wanted', agree', performed'⟩ := exists_perform_of_seeks (.group valid')
    have equal : wanted' = wanted := by
      funext char
      rw [Bool.eq_iff_iff, agree', agree, same]
    rw [performed, performed', equal]

/-- The keys of a mapping, one of them of no character, find what their characters do. -/
theorem search_of_run_over_keys :
    create (.text ['a', ',', 'b', ';', ',', 'c']) false =
      .ok ⟨ofText ['a', ',', 'b', ';', ',', 'c'], [.created 6]⟩ ∧
    (∀ refused, ¬(Value.mapping
      [(.text [','], .null), (.int 59, .null), (.int (-1), .null)]).RefusedFor refused) ∧
    IsLeast {index | 1 < index ∧ index < 6 ∧
      ∃ char, (['a', ',', 'b', ';', ',', 'c'] : Text)[index]? = some char ∧ (Value.mapping
        [(.text [','], .null), (.int 59, .null), (.int (-1), .null)]).Covers char} 3 ∧
    ((ofText ['a', ',', 'b', ';', ',', 'c']).run [.moveTo 1]).perform
        (.findNextOf (.text [';', ',', ','])) =
      .ok (.number 3, (ofText ['a', ',', 'b', ';', ',', 'c']).run [.moveTo 1]) := by
  have accepted : create (.text ['a', ',', 'b', ';', ',', 'c']) false =
      .ok ⟨ofText ['a', ',', 'b', ';', ',', 'c'], [.created 6]⟩ := rfl
  have read : memberCodes "find_next_of".toList
      (.mapping [(.text [','], .null), (.int 59, .null), (.int (-1), .null)]) =
      .ok [44, 59, -1] := rfl
  have read' : memberCodes "find_next_of".toList (.text [';', ',', ',']) = .ok [59, 44, 44] := rfl
  have valid := (exists_memberCodes_iff _).mp ⟨_, read⟩
  have same (char : Char) : (Value.text [';', ',', ',']).Covers char ↔
      (Value.mapping [(.text [','], .null), (.int 59, .null), (.int (-1), .null)]).Covers char := by
    rw [← isAmong_of_memberCodes read, ← isAmong_of_memberCodes read']
    simp only [isAmong, List.contains_iff_mem, List.mem_cons, List.not_mem_nil, or_false]
    omega
  obtain ⟨found, results, performed, least, _, _, alike⟩ := search_of_run accepted [.moveTo 1] valid
  have third : found = some 3 := by
    cases found with
    | none => cases performed
    | some index =>
      cases performed
      rfl
  refine ⟨accepted, valid, (least 3).mp third, ?_⟩
  rw [alike _ (Value.not_refusedFor_text _) same, performed, third]
  rfl

end TextCursor.Cursor

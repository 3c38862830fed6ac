import TextCursor.Proofs.Cursor.Alternation
import TextCursor.Proofs.Cursor.Stepping
import TextCursor.Proofs.Cursor.Sweep

/-! To search for characters is to run over all others. The search starts behind the cursor
and finds nothing where the run goes on to the end, so the two agree after a step. -/
namespace TextCursor.Cursor

section Runs

variable {c : Cursor} {wanted : Char → Bool} {sought others : Char → Prop} {stop : Nat}

/-- Where a run from behind the cursor ends, the first character that it does not run over
is found. -/
theorem firstAfter?_of_runEnds (sized : c.length = c.text.length)
    (apart : ∀ char ∈ c.text, wanted char ↔ ¬others char)
    (ends : RunEnds { c with position := c.position + 1 } others stop) :
    c.firstAfter? wanted = if stop < c.length then some stop else none := by
  have free : ∀ before < stop, ¬c.OccursAhead (wanted ·) before := by
    intro before earlier occurs
    obtain ⟨ahead, char, read, found⟩ := occurs
    apply (apart char (List.mem_of_getElem? read)).mp found
    apply ends.sought_before
    exact Text.mem_slice_iff.mpr ⟨before, ahead, earlier, read⟩
  by_cases inside : stop < c.length
  · rw [if_pos inside]
    apply (firstAfter?_eq_some_iff fun _ => Iff.rfl).mpr
    obtain ⟨char, read, refused⟩ := ends.not_sought.resolve_left (Nat.ne_of_lt inside)
    have found := (apart char (List.mem_of_getElem? read)).mpr refused
    exact ⟨⟨ends.position_le, char, read, found⟩, free⟩
  · rw [if_neg inside]
    cases searched : c.firstAfter? wanted with
    | none => rfl
    | some index =>
      obtain ⟨occurs, _⟩ := firstAfter?_eq_some (fun _ => Iff.rfl) searched
      have below : index < c.text.length := OccursAhead.lt_length occurs
      exact absurd occurs (free index (by omega))

theorem firstAfter?_of_length_le (sized : c.length = c.text.length)
    (ended : c.length ≤ c.position) : c.firstAfter? wanted = none := by
  have behind : c.text.drop (c.position + 1) = [] := List.drop_eq_nil_of_le (by omega)
  rw [firstAfter?, behind]
  rfl

theorem RunEnds.position_lt_iff (sized : c.length = c.text.length)
    (ends : c.RunEnds sought stop) :
    c.position < stop ↔ ∃ char, c.text[c.position]? = some char ∧ sought char := by
  apply Iff.intro
  · intro moved
    have inside : c.position < c.text.length := sized ▸ Nat.lt_of_lt_of_le moved ends.le_length
    have read : c.text[c.position]? = some c.text[c.position] := List.getElem?_eq_getElem inside
    refine ⟨_, read, ends.sought_before _ ?_⟩
    exact Text.mem_slice_iff.mpr ⟨c.position, Nat.le_refl _, moved, read⟩
  · intro found
    obtain ⟨char, read, accepted⟩ := found
    apply Nat.lt_of_le_of_ne ends.position_le
    intro stayed
    subst stayed
    rcases ends.not_sought with ended | ⟨other, read', refused⟩
    · have inside := (List.getElem?_eq_some_iff.mp read).1
      omega
    · cases read.symm.trans read'
      exact refused accepted

end Runs

theorem covers_filter_iff {s letters : Text} {char : Char} (inside : char ∈ s) :
    (Value.text (s.filter (· ∉ letters))).Covers char ↔ char ∉ letters := by
  simp [Value.covers_text_iff, inside]

/-- The first of some letters behind the cursor is where a step and a run over everything else
in the text lead, unless they lead to the end. A run over letters that has begun leads to the
first character behind the cursor that is none of them, or to the end if there is none. -/
theorem search_complement_of_run {data : Value} {unifyBreaks : Bool} {made : Created}
    (accepted : create data unifyBreaks = .ok made) (requests : List Request) (letters : Text) :
    let start := made.cursor.run requests
    let others := start.text.filter (· ∉ letters)
    (∀ form, ∃ answer stepped stop, start.perform (.next form) = .ok (answer, stepped) ∧
      stepped.perform (.consume (.text others)) = .ok (.moved, { start with position := stop }) ∧
      stop ≤ start.length ∧
      start.perform (.findNextOf (.text letters)) =
        .ok (if stop < start.length then .number stop else .missing, start)) ∧
    ∃ stop found,
      start.perform (.consume (.text letters)) = .ok (.moved, { start with position := stop }) ∧
      start.perform (.findNextOf (.text others)) = .ok (.ofOffset found, start) ∧
      ((∀ char ∈ start.current?, char ∉ letters) → stop = start.position) ∧
      ((∃ char ∈ start.current?, char ∈ letters) → stop = found.getD start.length) := by
  intro start others
  have placed : start.WellPlaced := wellPlaced_of_run accepted requests
  have sized := placed.length_eq
  have valid := Value.not_refusedFor_text letters
  have valid' := Value.not_refusedFor_text others
  apply And.intro
  · intro form
    obtain ⟨wanted, agree, performed⟩ := exists_perform_of_seeks (.group valid)
    rcases Nat.lt_or_ge start.position start.length with inside | ended
    · have stepped := placed.setPosition (Nat.succ_le_of_lt inside)
      obtain ⟨stop, ends⟩ := exists_runEnds valid' stepped
      refine ⟨_, _, stop, perform_next_of_lt inside form,
        perform_consume_of_runEnds valid' stepped ends, ends.le_length, ?_⟩
      have apart : ∀ char ∈ start.text, wanted char ↔ ¬(Value.text others).Covers char := by
        intro char member
        rw [agree, Value.covers_text_iff, covers_filter_iff member, not_not]
      rw [performed, firstAfter?_of_runEnds sized apart ends, apply_ite Answer.ofOffset]
      rfl
    · obtain ⟨stop, ends⟩ := exists_runEnds valid' placed
      refine ⟨_, _, stop, perform_next_of_le ended form,
        perform_consume_of_runEnds valid' placed ends, ends.le_length, ?_⟩
      have begun := ends.position_le
      rw [performed, firstAfter?_of_length_le sized ended, if_neg (by omega)]
      rfl
  · obtain ⟨wanted, agree, performed⟩ := exists_perform_of_seeks (.group valid')
    obtain ⟨stop, ends⟩ := exists_runEnds valid placed
    refine ⟨stop, start.firstAfter? wanted, perform_consume_of_runEnds valid placed ends,
      performed start, ?_, ?_⟩
    · intro absent
      by_contra moved
      have begun := Nat.lt_of_le_of_ne ends.position_le (Ne.symm moved)
      obtain ⟨char, read, covered⟩ := (ends.position_lt_iff sized).mp begun
      rw [← current?_eq sized] at read
      exact absent char read (Value.covers_text_iff.mp covered)
    · intro found
      obtain ⟨char, read, member⟩ := found
      rw [Option.mem_def, current?_eq sized] at read
      have begun := (ends.position_lt_iff sized).mpr ⟨char, read, .text member⟩
      have apart : ∀ char ∈ start.text, wanted char ↔ ¬(Value.text letters).Covers char := by
        intro char member
        rw [agree, covers_filter_iff member, Value.covers_text_iff]
      rw [firstAfter?_of_runEnds sized apart (ends.advance (Nat.le_succ _) begun)]
      have upper := ends.le_length
      split
      case isTrue => rfl
      case isFalse whole => exact Nat.le_antisymm upper (Nat.not_lt.mp whole)

/-- From a comma behind which there is no other: the search finds nothing, as the run over the
rest ends with the text, and the run over commas ends where the rest begins. -/
theorem search_complement_of_run_from_last_comma :
    create (.text ['a', ',', 'b', 'c']) false = .ok ⟨ofText ['a', ',', 'b', 'c'], [.created 4]⟩ ∧
    ((ofText ['a', ',', 'b', 'c']).run [.moveTo 1]).perform (.findNextOf (.text [','])) =
      .ok (.missing, ⟨['a', ',', 'b', 'c'], 4, 1⟩) ∧
    ((ofText ['a', ',', 'b', 'c']).run [.moveTo 1]).perform (.consume (.text [','])) =
      .ok (.moved, ⟨['a', ',', 'b', 'c'], 4, 2⟩) := by
  have accepted : create (.text ['a', ',', 'b', 'c']) false =
      .ok ⟨ofText ['a', ',', 'b', 'c'], [.created 4]⟩ := rfl
  obtain ⟨searched, stop, found, consumed, missed, _, reached⟩ :=
    search_complement_of_run accepted [.moveTo 1] [',']
  obtain ⟨answer, stepped, last, moved, ran, _, absent⟩ := searched .code
  cases moved
  cases ran
  cases found with
  | none => cases missed
  | some index =>
    cases missed
    have two : stop = 2 := reached ⟨',', rfl, List.mem_singleton.mpr rfl⟩
    rw [two] at consumed
    exact ⟨accepted, absent, consumed⟩

end TextCursor.Cursor

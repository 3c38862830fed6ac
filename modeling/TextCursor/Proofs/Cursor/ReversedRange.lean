import TextCursor.Proofs.Cursor.Refusal

/-! Ranges that are reversed. A range with both ends given is reversed in every text
or in none, but where the end is left out the length stands in for it, and then the
same request is out of order in a short text and in order in a long one. -/
namespace TextCursor.Cursor

variable {c : Cursor} {request : Request} {kind : ErrorKind}

theorem failsAs_iff : c.FailsAs request kind ↔ ∃ rejection, c.Refuses request kind rejection := by
  constructor
  · rintro ⟨rejected, failed, rfl⟩
    exact ⟨rejected.rejection, refuses_of_rejected failed⟩
  · rintro ⟨rejection, refused⟩
    exact ⟨_, refused.perform_eq, rfl⟩

variable {start : Int} {stop : Option Int}

theorem failsAs_invalidRange_iff :
    c.FailsAs (.substring start stop) .invalidRange ↔ stop.getD c.length < start := by
  rw [failsAs_iff]
  constructor
  · rintro ⟨rejection, refused⟩
    cases refused with
    | substringReversed reversed => exact reversed
  · intro reversed
    exact ⟨_, .substringReversed reversed⟩

theorem failsAs_outOfRange_iff :
    c.FailsAs (.substring start stop) .outOfRange ↔
      start ≤ stop.getD c.length ∧ (start < 0 ∨ c.length < stop.getD c.length) := by
  rw [failsAs_iff]
  constructor
  · rintro ⟨rejection, refused⟩
    cases refused with
    | substringBefore ordered before => exact ⟨ordered, .inl before⟩
    | substringBeyond ordered _ beyond => exact ⟨ordered, .inr beyond⟩
  · rintro ⟨ordered, outside⟩
    by_cases before : start < 0
    · exact ⟨_, .substringBefore ordered before⟩
    · have beyond := outside.resolve_left before
      exact ⟨_, .substringBeyond ordered (Int.not_lt.mp before) beyond⟩

theorem bounds_of_perform_substring {result : Answer × Cursor}
    (performed : c.perform (.substring start stop) = .ok result) :
    0 ≤ start ∧ start ≤ stop.getD c.length ∧ stop.getD c.length ≤ c.length := by
  have succeeds (kind : ErrorKind) : ¬c.FailsAs (.substring start stop) kind := by
    rintro ⟨_, failed, _⟩
    cases performed.symm.trans failed
  have ordered := mt failsAs_invalidRange_iff.mpr (succeeds .invalidRange)
  have inside := mt failsAs_outOfRange_iff.mpr (succeeds .outOfRange)
  omega

theorem failsAs_of_perform_substring {failure : Failure}
    (failed : c.perform (.substring start stop) = .error failure) :
    c.FailsAs (.substring start stop) .invalidRange ∨
      c.FailsAs (.substring start stop) .outOfRange := by
  rcases refuses_of_perform failed with ⟨kind, rejection, refused, rfl⟩ | ⟨_, _, different, _⟩
  · have fails := failsAs_iff.mpr ⟨rejection, refused⟩
    cases refused with
    | substringReversed => exact .inl fails
    | substringBefore | substringBeyond => exact .inr fails
  · cases different

/-- Two cursors agree on whether a range is reversed unless its end is left out and its
start lies between their lengths. A range that is good in one text and fails in
another is out of that other one if its end is given, and reversed there if not. -/
theorem failsAs_invalidRange_iff_iff (c d : Cursor) (start : Int) (stop : Option Int) :
    ((c.FailsAs (.substring start stop) .invalidRange ↔
        d.FailsAs (.substring start stop) .invalidRange) ↔
      (stop = none → ((c.length : Int) < start ↔ (d.length : Int) < start))) ∧
    ((∃ result, d.perform (.substring start stop) = .ok result) →
      (∃ failure, c.perform (.substring start stop) = .error failure) →
      c.FailsAs (.substring start stop) (if stop = none then .invalidRange else .outOfRange)) := by
  constructor
  · rw [failsAs_invalidRange_iff, failsAs_invalidRange_iff]
    cases stop with
    | none => simp
    | some stop => simp
  · rintro ⟨result, performed⟩ ⟨failure, failed⟩
    have bounds := bounds_of_perform_substring performed
    have fails := failsAs_of_perform_substring failed
    cases stop with
    | none =>
      refine fails.resolve_right fun outside => ?_
      have beyond := failsAs_outOfRange_iff.mp outside
      simp only [Option.getD_none] at bounds beyond
      omega
    | some stop =>
      refine fails.resolve_left fun reversed => ?_
      have disordered := failsAs_invalidRange_iff.mp reversed
      simp only [Option.getD_some] at bounds disordered
      omega

/-- Of a text of six characters it is the last, of one of three it is an error. -/
theorem failsAs_invalidRange_iff_iff_of_lengths :
    (ofText ['a', 'b', 'c', 'd', 'e', 'f']).perform (.substring 5) =
      .ok (.text ['f'], ofText ['a', 'b', 'c', 'd', 'e', 'f']) ∧
    (ofText ['a', 'b', 'c']).perform (.substring 5) =
      .error (.rejected ⟨.invalidRange, .startAfterEnd 5 3⟩) ∧
    (ofText ['a', 'b', 'c']).FailsAs (.substring 5) .invalidRange := by
  have performed : (ofText ['a', 'b', 'c', 'd', 'e', 'f']).perform (.substring 5) =
      .ok (.text ['f'], ofText ['a', 'b', 'c', 'd', 'e', 'f']) := rfl
  have failed : (ofText ['a', 'b', 'c']).perform (.substring 5) =
      .error (.rejected ⟨.invalidRange, .startAfterEnd 5 3⟩) := rfl
  refine ⟨performed, failed, ?_⟩
  exact (failsAs_invalidRange_iff_iff _ _ _ _).2 ⟨_, performed⟩ ⟨_, failed⟩

/-- An end that is left out makes the kind of the error depend on the text. -/
theorem not_failsAs_invalidRange_iff_of_lengths :
    create (.text ['a', 'b', 'c']) false = .ok ⟨ofText ['a', 'b', 'c'], [.created 3]⟩ ∧
    create (.text ['a', 'b', 'c', 'd', 'e', 'f']) false =
      .ok ⟨ofText ['a', 'b', 'c', 'd', 'e', 'f'], [.created 6]⟩ ∧
    ¬((ofText ['a', 'b', 'c']).FailsAs (.substring 5) .invalidRange ↔
      (ofText ['a', 'b', 'c', 'd', 'e', 'f']).FailsAs (.substring 5) .invalidRange) ∧
    ¬(ofText ['a', 'b', 'c']).FailsAs (.substring 5) .outOfRange := by
  simp only [failsAs_invalidRange_iff, failsAs_outOfRange_iff]
  exact ⟨rfl, rfl, by decide, by decide⟩

end TextCursor.Cursor

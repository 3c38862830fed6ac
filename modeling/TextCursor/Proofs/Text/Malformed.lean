import TextCursor.Proofs.Outcome
import TextCursor.Proofs.Text.Utf8

/-! The error found in bytes that are not UTF-8. What stands before it is the longest
well-formed beginning, it spans the bytes that may still begin a character there, and
the end of the bytes is to blame just if others behind it could mend them. This
describes one error and no other. -/
namespace TextCursor.Utf8

theorem beginsSequence_nil : BeginsSequence [] :=
  ⟨String.utf8EncodeChar 'a', String.utf8EncodeChar_ne_nil, (isSequence_iff _).mpr ⟨'a', rfl⟩⟩

theorem BeginsSequence.of_append {bytes more : List UInt8}
    (begun : BeginsSequence (bytes ++ more)) : BeginsSequence bytes := by
  obtain ⟨missing, left, whole⟩ := begun
  refine ⟨more ++ missing, List.append_ne_nil_of_right_ne_nil more left, ?_⟩
  rwa [← List.append_assoc]

theorem BeginsSequence.length_le {bytes : List UInt8} (begun : BeginsSequence bytes) :
    bytes.length ≤ 3 := by
  obtain ⟨missing, left, whole⟩ := begun
  obtain ⟨c, spelled⟩ := (isSequence_iff _).mp whole
  have size := congrArg List.length spelled
  have filled := List.length_pos_iff.mpr left
  rw [List.length_append, length_encodeChar] at size
  split_ifs at size <;> omega

/-- No character has ill-formed bytes as its first. -/
theorem not_isSequence_of_illFormed {bytes : List UInt8} (begun : bytes ≠ [])
    (refused : classify bytes = .illFormed) (more : List UInt8) : ¬IsSequence (bytes ++ more) := by
  intro whole
  obtain ⟨c, spelled⟩ := (isSequence_iff _).mp whole
  have inside : bytes.length ≤ (String.utf8EncodeChar c).length := by simp [← spelled]
  have read := classify_take_encodeChar c (List.length_pos_iff.mpr begun) inside
  rw [← spelled, List.take_left, refused] at read
  split at read <;> cases read

theorem exists_second (lead : UInt8) : ∃ b, isSecond lead b = true := by
  by_cases overlong : lead = 0xe0
  · exact ⟨0xa0, by simp [isSecond, overlong]⟩
  · by_cases overlong' : lead = 0xf0
    · exact ⟨0x90, by simp [isSecond, overlong']⟩
    · exact ⟨0x80, by simp [isSecond, isTail, overlong, overlong']⟩

/-- Wherever a character is unfinished, there is a byte that it goes on with. -/
theorem exists_next_of_unfinished {bytes : List UInt8} (unfinished : classify bytes = .unfinished) :
    ∃ next, classify (bytes ++ [next]) ≠ .illFormed := by
  have tail : isTail 0x80 = true := rfl
  unfold classify at unfinished
  split at unfinished
  case h_1 a =>
    split_ifs at unfinished with single lead
    obtain ⟨b, second⟩ := exists_second a
    refine ⟨b, ?_⟩
    by_cases last : a ≤ 0xdf <;> simp [classify, lead, second, last]
  case h_2 a b =>
    split_ifs at unfinished with refused above
    simp only [Bool.not_eq_true', Bool.not_eq_false, Bool.and_eq_true] at refused
    have first : 0xe0 ≤ a := by
      simp only [UInt8.le_iff_toNat_le, UInt8.reduceToNat] at above ⊢
      omega
    refine ⟨0x80, ?_⟩
    by_cases last : a ≤ 0xef <;> simp [classify, refused, tail, first, last]
  case h_3 a b c =>
    split_ifs at unfinished with refused above
    simp only [Bool.not_eq_true', Bool.not_eq_false, Bool.and_eq_true] at refused
    have first : 0xf0 ≤ a := by
      simp only [UInt8.le_iff_toNat_le, UInt8.reduceToNat] at above ⊢
      omega
    exact ⟨0x80, by simp [classify, refused, tail, first]⟩
  case h_4 a b c d => split_ifs at unfinished
  case h_5 => cases unfinished

theorem length_le_of_unfinished {bytes : List UInt8} (unfinished : classify bytes = .unfinished) :
    bytes.length ≤ 3 := by
  unfold classify at unfinished
  split at unfinished
  case h_1 | h_2 | h_3 => simp
  case h_4 => split_ifs at unfinished
  case h_5 => cases unfinished

theorem beginsSequence_of_unfinished {bytes : List UInt8}
    (unfinished : classify bytes = .unfinished) : BeginsSequence bytes := by
  induction left : 4 - bytes.length generalizing bytes with
  | zero =>
    have := length_le_of_unfinished unfinished
    omega
  | succ left ih =>
    obtain ⟨next, goesOn⟩ := exists_next_of_unfinished unfinished
    cases read : classify (bytes ++ [next]) with
    | illFormed => contradiction
    | complete c =>
      refine ⟨[next], List.cons_ne_nil _ _, ?_⟩
      exact (isSequence_iff _).mpr ⟨c, eq_encodeChar_of_classify read⟩
    | unfinished => exact (ih read (by simp; omega)).of_append

inductive Stalls : List UInt8 → List UInt8 → Reason → Prop
  | atStart {lead : UInt8} {rest : List UInt8} (foreign : ∀ more, ¬IsSequence ([lead] ++ more)) :
      Stalls [lead] rest .invalidStart
  | inside {bad rest : List UInt8} {next : UInt8} (begun : BeginsSequence bad)
      (foreign : ∀ more, ¬IsSequence (bad ++ [next] ++ more)) :
      Stalls bad (next :: rest) .invalidContinuation
  | atEnd {bad : List UInt8} (begun : BeginsSequence bad) : Stalls bad [] .unexpectedEnd

/-- Characters have been read up to where the error starts, and there it stalls over the
bytes that the error names. -/
theorem exists_stalls_of_decodeFrom {start : Nat} {gathered bytes : List UInt8} {m : Malformed}
    (begun : BeginsSequence gathered) (failed : decodeFrom start gathered bytes = .error m) :
    ∃ s lead tail rest, gathered ++ bytes = encode s ++ (lead :: tail ++ rest) ∧
      m = ⟨start + (encode s).length, (lead :: tail).length, lead, m.reason⟩ ∧
      Stalls (lead :: tail) rest m.reason := by
  fun_induction decodeFrom start gathered bytes with
  | case1 => cases failed
  | case2 start lead tail =>
    cases failed
    exact ⟨[], lead, tail, [], rfl, rfl, .atEnd begun⟩
  | case3 start gathered byte rest c complete ih =>
    have later := bind_pure_eq_error_iff.mp failed
    obtain ⟨s, lead, tail, behind, split, named, stalls⟩ := ih beginsSequence_nil later
    have spelled := eq_encodeChar_of_classify complete
    refine ⟨c :: s, lead, tail, behind, ?_, ?_, stalls⟩
    · rw [List.append_cons, spelled, encode_cons, List.append_assoc, ← split, List.nil_append]
    · rw [named, encode_cons, ← spelled]
      simp only [List.length_append, List.length_singleton, Nat.add_assoc]
  | case4 start gathered byte rest unfinished ih =>
    rw [List.append_cons]
    exact ih (beginsSequence_of_unfinished unfinished) failed
  | case5 start byte rest refused =>
    cases failed
    exact ⟨[], byte, [], rest, rfl, rfl,
      .atStart (not_isSequence_of_illFormed (List.cons_ne_nil _ _) refused)⟩
  | case6 start byte rest lead tail refused =>
    cases failed
    exact ⟨[], lead, tail, byte :: rest, rfl, rfl,
      .inside begun (not_isSequence_of_illFormed (List.cons_ne_nil _ _) refused)⟩

/-- An error that is not for want of bytes stays whatever bytes follow. -/
theorem decodeFrom_append_of_error {start : Nat} {gathered bytes : List UInt8} {m : Malformed}
    (failed : decodeFrom start gathered bytes = .error m) (present : m.reason ≠ .unexpectedEnd)
    (more : List UInt8) : decodeFrom start gathered (bytes ++ more) = .error m := by
  fun_induction decodeFrom start gathered bytes with
  | case1 => cases failed
  | case2 =>
    cases failed
    contradiction
  | case3 start gathered byte rest c complete ih =>
    simp only [List.cons_append, decodeFrom, complete]
    exact bind_pure_eq_error_iff.mpr (ih (bind_pure_eq_error_iff.mp failed))
  | case4 start gathered byte rest unfinished ih =>
    simp only [List.cons_append, decodeFrom, unfinished]
    exact ih failed
  | case5 start byte rest refused =>
    rw [List.cons_append, decodeFrom]
    simp only [refused]
    exact failed
  | case6 start byte rest lead tail refused =>
    rw [List.cons_append, decodeFrom, refused]
    exact failed

theorem Stalls.length_le {bad rest : List UInt8} {reason : Reason}
    (stalls : Stalls bad rest reason) : bad.length ≤ 3 := by
  cases stalls with
  | atStart => simp
  | inside begun | atEnd begun => exact begun.length_le

/-- The bytes over which reading stalls are as many as may begin a character. -/
theorem Stalls.isGreatest {bad rest : List UInt8} {reason : Reason}
    (stalls : Stalls bad rest reason) (known : reason ≠ .invalidStart) :
    IsGreatest {size | size ≤ (bad ++ rest).length ∧ BeginsSequence ((bad ++ rest).take size)}
      bad.length := by
  cases stalls with
  | atStart => contradiction
  | inside begun foreign =>
    refine ⟨⟨by simp, by rwa [List.take_left]⟩, ?_⟩
    intro size longer
    by_contra beyond
    obtain ⟨extra, rfl⟩ := Nat.exists_eq_add_of_lt (Nat.not_le.mp beyond)
    obtain ⟨missing, _, whole⟩ := longer.2
    -- A longer beginning has the next byte in it, behind which no character can go on.
    rw [Nat.add_assoc, List.take_length_add_append, List.take_succ_cons, List.append_cons,
      List.append_assoc] at whole
    exact foreign _ whole
  | atEnd begun =>
    refine ⟨⟨by simp, by rwa [List.take_left]⟩, ?_⟩
    intro size longer
    simpa using longer.1

theorem isGreatest_of_decode {bytes : List UInt8} {m : Malformed}
    (failed : decode bytes = .error m) :
    IsGreatest {size | size ≤ bytes.length ∧ WellFormed (bytes.take size)} m.start := by
  constructor
  · obtain ⟨s, lead, tail, rest, split, named, _⟩ :=
      exists_stalls_of_decodeFrom beginsSequence_nil failed
    rw [List.nil_append] at split
    rw [named, Nat.zero_add, split]
    refine ⟨by simp, (wellFormed_iff _).mpr ⟨s, List.take_left⟩⟩
  · intro size formed
    obtain ⟨s, spelled⟩ := (wellFormed_iff _).mp formed.2
    have whole := List.take_append_drop size bytes
    rw [spelled] at whole
    -- Behind any well-formed beginning decoding starts anew, so that the error is not in it.
    rw [decode, ← whole, decodeFrom_encode_append] at failed
    obtain ⟨_, _, _, _, _, named, _⟩ :=
      exists_stalls_of_decodeFrom beginsSequence_nil (bind_pure_eq_error_iff.mp failed)
    have size_eq : size = (encode s).length := by
      rw [← spelled, List.length_take, Nat.min_eq_left formed.1]
    rw [named, size_eq]
    simp only
    omega

theorem WellFormed.append_sequence {bytes sequence : List UInt8} (formed : WellFormed bytes)
    (last : IsSequence sequence) : WellFormed (bytes ++ sequence) := by
  induction formed with
  | nil =>
    have single := WellFormed.append last .nil
    rwa [List.append_nil] at single
  | append head _ ih =>
    rw [List.append_assoc]
    exact .append head ih

theorem exists_isSequence_of_wellFormed {lead : UInt8} {rest : List UInt8}
    (formed : WellFormed (lead :: rest)) : ∃ more, IsSequence ([lead] ++ more) := by
  obtain ⟨s, spelled⟩ := (wellFormed_iff _).mp formed
  cases s with
  | nil => cases spelled
  | cons c s =>
    obtain ⟨first, more, whole⟩ := List.exists_cons_of_ne_nil (@String.utf8EncodeChar_ne_nil c)
    rw [encode_cons, whole] at spelled
    cases spelled
    exact ⟨more, (isSequence_iff _).mpr ⟨c, whole.symm⟩⟩

theorem Stalls.of_invalidStart {lead : UInt8} {tail rest : List UInt8}
    (stalls : Stalls (lead :: tail) rest .invalidStart) :
    tail = [] ∧ ∀ rest, ¬WellFormed (lead :: rest) := by
  cases stalls with
  | atStart foreign =>
    refine ⟨rfl, fun rest formed => ?_⟩
    obtain ⟨more, whole⟩ := exists_isSequence_of_wellFormed formed
    exact foreign more whole

theorem Stalls.of_unexpectedEnd {bad rest : List UInt8} (stalls : Stalls bad rest .unexpectedEnd) :
    rest = [] ∧ BeginsSequence bad := by
  cases stalls with
  | atEnd begun => exact ⟨rfl, begun⟩

theorem describes_of_decode {bytes : List UInt8} {m : Malformed}
    (failed : decode bytes = .error m) : m.Describes bytes := by
  have start_isGreatest := isGreatest_of_decode failed
  have kept := decodeFrom_append_of_error failed
  obtain ⟨s, lead, tail, rest, split, named, stalls⟩ :=
    exists_stalls_of_decodeFrom beginsSequence_nil failed
  obtain ⟨start, count, lead', reason⟩ := m
  simp only [Nat.zero_add, Malformed.mk.injEq] at named
  obtain ⟨rfl, rfl, rfl, _⟩ := named
  rw [List.nil_append] at split
  have remaining : bytes.drop (encode s).length = lead' :: tail ++ rest := by
    rw [split, List.drop_left]
  have size : bytes.length = (encode s).length + ((lead' :: tail).length + rest.length) := by
    rw [split, List.length_append, List.length_append]
  constructor
  case start_lt_stop => simp [Malformed.stop]
  case stop_le_length =>
    simp only [Malformed.stop]
    omega
  case count_le => exact stalls.length_le
  case lead_eq => simp [split]
  case start_isGreatest => exact start_isGreatest
  case of_invalidStart =>
    rintro rfl
    obtain ⟨rfl, foreign⟩ := stalls.of_invalidStart
    exact ⟨rfl, foreign⟩
  case count_isGreatest =>
    intro known
    rw [remaining]
    exact stalls.isGreatest known
  case unexpectedEnd_iff =>
    constructor
    · rintro rfl
      obtain ⟨rfl, missing, left, whole⟩ := stalls.of_unexpectedEnd
      refine ⟨missing, left, ?_⟩
      rw [split, List.append_nil, List.append_assoc]
      exact ((wellFormed_iff _).mpr ⟨s, rfl⟩).append_sequence whole
    · intro mended
      obtain ⟨more, _, formed⟩ := mended
      obtain ⟨t, spelled⟩ := (wellFormed_iff _).mp formed
      by_contra present
      cases ((decode_eq_ok_iff _ _).mpr spelled).symm.trans (kept present more)
  case of_unexpectedEnd =>
    rintro rfl
    obtain ⟨rfl, _⟩ := stalls.of_unexpectedEnd
    exact size.symm

namespace Malformed.Describes

variable {bytes : List UInt8} {m n : Malformed}

theorem invalidStart_iff (described : m.Describes bytes) :
    m.reason = .invalidStart ↔ ∀ rest, ¬WellFormed (m.lead :: rest) := by
  constructor
  · exact fun foreign => (described.of_invalidStart foreign).2
  · intro foreign
    by_contra known
    obtain ⟨_, missing, _, whole⟩ := (described.count_isGreatest known).1
    have lead : bytes.drop m.start = m.lead :: bytes.drop (m.start + 1) := by
      obtain ⟨inside, read⟩ := List.getElem?_eq_some_iff.mp described.lead_eq
      rw [List.drop_eq_getElem_cons inside, read]
    have taken : 0 < m.count := by
      have ordered := described.start_lt_stop
      rw [stop] at ordered
      omega
    rw [lead, List.take_cons taken] at whole
    exact foreign _ (WellFormed.nil.append_sequence whole)

theorem unique (first : m.Describes bytes) (second : n.Describes bytes) : m = n := by
  have start := first.start_isGreatest.unique second.start_isGreatest
  have lead : m.lead = n.lead := by
    have read := first.lead_eq
    rw [start, second.lead_eq] at read
    exact (Option.some.inj read).symm
  have foreign : m.reason = .invalidStart ↔ n.reason = .invalidStart := by
    rw [first.invalidStart_iff, second.invalidStart_iff, lead]
  have ended : m.reason = .unexpectedEnd ↔ n.reason = .unexpectedEnd := by
    rw [first.unexpectedEnd_iff, second.unexpectedEnd_iff]
  have reason : m.reason = n.reason := by
    revert foreign ended
    cases m.reason <;> cases n.reason <;> simp
  have count : m.count = n.count := by
    by_cases known : m.reason = .invalidStart
    · have single := (first.of_invalidStart known).1
      have single' := (second.of_invalidStart (foreign.mp known)).1
      rw [stop] at single single'
      omega
    · have longest := second.count_isGreatest (mt foreign.mpr known)
      rw [← start] at longest
      exact (first.count_isGreatest known).unique longest
  cases m
  cases n
  rw [Malformed.mk.injEq]
  exact ⟨start, count, lead, reason⟩

theorem not_wellFormed (described : m.Describes bytes) : ¬WellFormed bytes := by
  intro formed
  have whole := described.start_isGreatest.2 ⟨Nat.le_refl _, by rwa [List.take_length]⟩
  have ordered := described.start_lt_stop
  have inside := described.stop_le_length
  omega

end Malformed.Describes

theorem decode_eq_error_iff (bytes : List UInt8) (m : Malformed) :
    decode bytes = .error m ↔ m.Describes bytes := by
  constructor
  · exact describes_of_decode
  · intro described
    cases read : decode bytes with
    | ok s =>
      have formed := (wellFormed_iff _).mpr ⟨s, (decode_eq_ok_iff _ _).mp read⟩
      exact absurd formed described.not_wellFormed
    | error n => rw [(describes_of_decode read).unique described]

end TextCursor.Utf8

import TextCursor.Cursor.Refusal
import TextCursor.Proofs.Location.Table
import TextCursor.Proofs.Outcome

/-! Requests fail exactly as the rules of refusal say, and one more does without
being refused: the location of a negative offset. -/
namespace TextCursor

theorem Value.isTarget_iff (v : Value) : v.IsTarget ↔ v.code?.isSome := by
  constructor
  · intro target
    cases target with
    | char c => rfl
    | code n => rfl
  · intro known
    unfold code? at known
    split at known
    case h_1 c => exact .char c
    case h_2 n => exact .code n
    case h_3 => cases known

namespace Cursor

variable {c : Cursor} {operation : Text} {kind : ErrorKind} {rejection : Rejection}
  {rejected : Rejected}

theorem exists_targetCode_iff (operation : Text) (v : Value) :
    (∃ code, targetCode operation v = .ok code) ↔ v.IsTarget := by
  rw [Value.isTarget_iff, targetCode]
  cases v.code? with
  | none => simp
  | some code => simp

theorem targetCode_eq_error_iff {target : Value} :
    targetCode operation target = .error rejected ↔
      ¬target.IsTarget ∧ rejected = ⟨.invalidArgument, .invalidTarget operation target⟩ := by
  rw [Value.isTarget_iff, targetCode]
  cases target.code? with
  | none => simp [eq_comm]
  | some code => simp

theorem mapM_targetCode_eq_error_iff {elements : List Value} :
    elements.mapM (targetCode operation) = .error rejected ↔
      ∃ valid refused rest, elements = valid ++ refused :: rest ∧ (∀ v ∈ valid, v.IsTarget) ∧
        ¬refused.IsTarget ∧ rejected = ⟨.invalidArgument, .invalidTarget operation refused⟩ := by
  simp only [mapM_eq_error_iff, targetCode_eq_error_iff, exists_targetCode_iff]

theorem memberCodes_eq_error_iff {targets : Value} :
    memberCodes operation targets = .error rejected ↔
      ∃ refused, targets.RefusedFor refused ∧
        rejected = ⟨.invalidArgument, .invalidTarget operation refused⟩ := by
  cases visited : targets.elements? with
  | some elements =>
    rw [memberCodes_of_elements operation visited, mapM_targetCode_eq_error_iff]
    constructor
    · intro found
      obtain ⟨valid, refused, rest, rfl, accepted, bad, rfl⟩ := found
      exact ⟨refused, .member visited accepted bad, rfl⟩
    · intro found
      obtain ⟨refused, found, rfl⟩ := found
      cases found with
      | whole _ _ noMembers => cases visited.symm.trans noMembers
      | member visited' accepted bad =>
        cases visited.symm.trans visited'
        exact ⟨_, _, _, rfl, accepted, bad, rfl⟩
  | none =>
    cases targets with
    | bytes | items | mapping => cases visited
    | text s =>
      refine ⟨nofun, fun found => ?_⟩
      obtain ⟨_, found, _⟩ := found
      cases found with
      | whole noText => exact absurd rfl (noText s)
      | member visited' => cases visited'
    | int n =>
      refine ⟨nofun, fun found => ?_⟩
      obtain ⟨_, found, _⟩ := found
      cases found with
      | whole _ noCode => exact absurd rfl (noCode n)
      | member visited' => cases visited'
    | bool | null | float =>
      constructor
      · intro failed
        cases failed
        exact ⟨_, .whole nofun nofun rfl, rfl⟩
      · intro found
        obtain ⟨_, found, rfl⟩ := found
        cases found with
        | whole => rfl
        | member visited' => cases visited'

theorem groupCodes_eq_error_iff {targets : Value} :
    groupCodes operation targets = .error rejected ↔
      ∃ refused, targets.RefusedFor refused ∧
        rejected = ⟨.invalidArgument, .invalidTarget operation refused⟩ := by
  rw [← memberCodes_eq_error_iff, groupCodes]
  cases memberCodes operation targets with
  | error other => simp [Except.map]
  | ok codes => simp [Except.map]

theorem seek_eq_error_iff {target : Int} :
    c.seek operation target = .error rejected ↔
      target < 0 ∧ rejected = ⟨.outOfRange, .startBeforeZero operation target⟩ ∨
        c.length < target ∧
          rejected = ⟨.outOfRange, .endAfterLength operation target c.length⟩ := by
  by_cases before : target < 0
  · have inside : ¬(c.length : Int) < target := by omega
    simp [seek_of_neg c operation before, before, inside, eq_comm]
  · by_cases beyond : c.length < target
    · simp [seek_of_length_lt c operation beyond, before, beyond, eq_comm]
    · simp [seek, before, beyond]

theorem substring_eq_error_iff {start : Int} {stop : Option Int} :
    c.substring start stop = .error rejected ↔
      stop.getD c.length < start ∧
          rejected = ⟨.invalidRange, .startAfterEnd start (stop.getD c.length)⟩ ∨
        start ≤ stop.getD c.length ∧ start < 0 ∧
          rejected = ⟨.outOfRange, .startBeforeZero "substring".toList start⟩ ∨
        start ≤ stop.getD c.length ∧ 0 ≤ start ∧ c.length < stop.getD c.length ∧
          rejected =
            ⟨.outOfRange, .endAfterLength "substring".toList (stop.getD c.length) c.length⟩ := by
  unfold substring
  generalize stop.getD c.length = stop
  by_cases reversed : stop < start
  · have unordered : ¬start ≤ stop := by omega
    simp [reversed, unordered, eq_comm]
  · have ordered : start ≤ stop := by omega
    by_cases before : start < 0
    · have outside : ¬0 ≤ start := by omega
      simp [reversed, ordered, before, outside, eq_comm]
    · have inside : 0 ≤ start := by omega
      by_cases beyond : c.length < stop
      · simp [reversed, ordered, before, inside, beyond, eq_comm]
      · simp [reversed, before, beyond]

theorem locate_eq_error_iff {position : Option Int} {error : Location.NegativePosition} :
    c.locate position = .error error ↔ ∃ offset < 0, position = some offset ∧ error = ⟨offset⟩ := by
  cases position with
  | none =>
    rw [locate, Option.getD_none, Location.ofPosition_of_nonneg _ (Int.natCast_nonneg _)]
    simp
  | some offset =>
    rw [locate, Option.getD_some]
    by_cases negative : offset < 0
    · have refused : Location.ofPosition c.text offset = .error ⟨offset⟩ := by
        rw [Location.ofPosition, Location.lineOffset, Location.checked, if_pos negative]
        rfl
      simp [refused, negative, eq_comm]
    · rw [Location.ofPosition_of_nonneg _ (Int.not_lt.mp negative)]
      simp [negative]

/-- Whatever fails does so under one of the rules, or asks where a negative offset is. -/
theorem refuses_of_perform {request : Request} {failure : Failure}
    (failed : c.perform request = .error failure) :
    (∃ kind rejection, c.Refuses request kind rejection ∧
        failure = .rejected ⟨kind, rejection⟩) ∨
      ∃ offset < 0, request = .location (some offset) ∧ failure = .negativePosition ⟨offset⟩ := by
  cases request with
  | position | length | text | describe | atEnd | current | charAt | peek | behind | rewind
  | next =>
    cases failed
  | location position =>
    right
    obtain ⟨error, stopped, rfl⟩ := mapError_map_eq_error_iff.mp failed
    obtain ⟨offset, negative, rfl, rfl⟩ := locate_eq_error_iff.mp stopped
    exact ⟨offset, negative, rfl, rfl⟩
  | moveBy steps =>
    left
    obtain ⟨rejected, stopped, rfl⟩ := mapError_map_eq_error_iff.mp failed
    obtain ⟨before, rfl⟩ | ⟨beyond, rfl⟩ := seek_eq_error_iff.mp stopped
    · exact ⟨_, _, .moveByBefore before, rfl⟩
    · exact ⟨_, _, .moveByBeyond beyond, rfl⟩
  | moveTo target =>
    left
    obtain ⟨rejected, stopped, rfl⟩ := mapError_map_eq_error_iff.mp failed
    obtain ⟨before, rfl⟩ | ⟨beyond, rfl⟩ := seek_eq_error_iff.mp stopped
    · exact ⟨_, _, .moveToBefore before, rfl⟩
    · exact ⟨_, _, .moveToBeyond beyond, rfl⟩
  | substring start stop =>
    left
    obtain ⟨rejected, stopped, rfl⟩ := mapError_map_eq_error_iff.mp failed
    obtain ⟨reversed, rfl⟩ | ⟨ordered, before, rfl⟩ | ⟨ordered, inside, beyond, rfl⟩ :=
      substring_eq_error_iff.mp stopped
    · exact ⟨_, _, .substringReversed reversed, rfl⟩
    · exact ⟨_, _, .substringBefore ordered before, rfl⟩
    · exact ⟨_, _, .substringBeyond ordered inside beyond, rfl⟩
  | findNext target =>
    left
    obtain ⟨rejected, stopped, rfl⟩ := mapError_map_eq_error_iff.mp failed
    obtain ⟨bad, rfl⟩ := targetCode_eq_error_iff.mp (bind_pure_eq_error_iff.mp stopped)
    exact ⟨_, _, .findNext bad, rfl⟩
  | findNextOf targets =>
    left
    obtain ⟨rejected, stopped, rfl⟩ := mapError_map_eq_error_iff.mp failed
    obtain ⟨refused, bad, rfl⟩ := groupCodes_eq_error_iff.mp (bind_pure_eq_error_iff.mp stopped)
    exact ⟨_, _, .findNextOf bad, rfl⟩
  | consume targets =>
    left
    obtain ⟨rejected, stopped, rfl⟩ := mapError_map_eq_error_iff.mp failed
    obtain ⟨refused, bad, rfl⟩ := groupCodes_eq_error_iff.mp (bind_pure_eq_error_iff.mp stopped)
    exact ⟨_, _, .consume bad, rfl⟩

theorem refuses_of_rejected {request : Request}
    (failed : c.perform request = .error (.rejected rejected)) :
    c.Refuses request rejected.kind rejected.rejection := by
  obtain ⟨_, _, refused, same⟩ | ⟨_, _, _, same⟩ := refuses_of_perform failed
  · cases same
    exact refused
  · cases same

namespace Refuses

variable {request : Request}

theorem perform_eq (refused : c.Refuses request kind rejection) :
    c.perform request = .error (.rejected ⟨kind, rejection⟩) := by
  cases refused with
  | moveByBefore before | moveToBefore before =>
    exact mapError_map_eq_error_iff.mpr ⟨_, seek_eq_error_iff.mpr (.inl ⟨before, rfl⟩), rfl⟩
  | moveByBeyond beyond | moveToBeyond beyond =>
    exact mapError_map_eq_error_iff.mpr ⟨_, seek_eq_error_iff.mpr (.inr ⟨beyond, rfl⟩), rfl⟩
  | substringReversed reversed =>
    have stopped := substring_eq_error_iff.mpr (.inl ⟨reversed, rfl⟩)
    exact mapError_map_eq_error_iff.mpr ⟨_, stopped, rfl⟩
  | substringBefore ordered before =>
    have stopped := substring_eq_error_iff.mpr (.inr (.inl ⟨ordered, before, rfl⟩))
    exact mapError_map_eq_error_iff.mpr ⟨_, stopped, rfl⟩
  | substringBeyond ordered inside beyond =>
    have stopped := substring_eq_error_iff.mpr (.inr (.inr ⟨ordered, inside, beyond, rfl⟩))
    exact mapError_map_eq_error_iff.mpr ⟨_, stopped, rfl⟩
  | findNext bad =>
    exact mapError_map_eq_error_iff.mpr
      ⟨_, bind_pure_eq_error_iff.mpr (targetCode_eq_error_iff.mpr ⟨bad, rfl⟩), rfl⟩
  | findNextOf bad | consume bad =>
    exact mapError_map_eq_error_iff.mpr
      ⟨_, bind_pure_eq_error_iff.mpr (groupCodes_eq_error_iff.mpr ⟨_, bad, rfl⟩), rfl⟩

/-- The kind that is raised is the one that belongs to the code of the diagnostic. -/
theorem kind_eq (refused : c.Refuses request kind rejection) : kind = .ofCode rejection.code := by
  cases refused <;> rfl

theorem operation_eq (refused : c.Refuses request kind rejection) :
    rejection.operation = request.name := by
  cases refused <;> rfl

end Refuses

theorem perform_location_of_neg {offset : Int} (negative : offset < 0) :
    c.perform (.location (some offset)) = .error (.negativePosition ⟨offset⟩) :=
  mapError_map_eq_error_iff.mpr ⟨_, locate_eq_error_iff.mpr ⟨offset, negative, rfl, rfl⟩, rfl⟩

/-- The rules of refusal are all the ways to fail but one, and each tells the kind of the error
and the diagnostic that the error carries, of which the code belongs to the kind. The one that
is no refusal has no diagnostic. -/
theorem perform_eq_error_iff (c : Cursor) (request : Request) (failure : Failure) :
    (c.perform request = .error failure ↔
      (∃ kind rejection, c.Refuses request kind rejection ∧
        failure = .rejected ⟨kind, rejection⟩) ∨
      ∃ offset < 0, request = .location (some offset) ∧ failure = .negativePosition ⟨offset⟩) ∧
    (∀ kind rejection, c.Refuses request kind rejection →
      (Rejected.mk kind rejection).report =
          ⟨kind, rejection.diagnostic.format, some rejection.diagnostic⟩ ∧
        kind = .ofCode rejection.diagnostic.code) ∧
    ∀ error, (Failure.negativePosition error).diagnostic? = none := by
  refine ⟨⟨refuses_of_perform, fun found => ?_⟩, fun kind rejection refused => ?_, fun _ => rfl⟩
  · obtain ⟨kind, rejection, refused, rfl⟩ | ⟨offset, negative, rfl, rfl⟩ := found
    · exact refused.perform_eq
    · exact perform_location_of_neg negative
  · exact ⟨rfl, refused.kind_eq⟩

/-- A range that is reversed and negative at once is refused as reversed, one that is
negative and too long as negative; bytes are no target, though a group may be bytes. -/
theorem perform_eq_error_iff_of_several_faults :
    (ofText ['a', 'b']).perform (.substring (-1) (some (-4))) =
      .error (.rejected ⟨.invalidRange, .startAfterEnd (-1) (-4)⟩) ∧
    (ofText ['a', 'b']).perform (.substring (-1) (some 7)) =
      .error (.rejected ⟨.outOfRange, .startBeforeZero "substring".toList (-1)⟩) ∧
    (ofText ['a', 'b']).perform
        (.consume (.items .list [.text ['a'], .bytes .constant [0x62], .bool true])) =
      .error (.rejected
        ⟨.invalidArgument, .invalidTarget "consume".toList (.bytes .constant [0x62])⟩) ∧
    ErrorKind.invalidArgument =
      .ofCode (Rejection.invalidTarget "consume".toList (.bytes .constant [0x62])).diagnostic.code ∧
    (ofText ['a', 'b']).perform (.location (some (-1))) = .error (.negativePosition ⟨-1⟩) := by
  have visited : (Value.items .list [.text ['a'], .bytes .constant [0x62], .bool true]).elements? =
      some ([.text ['a']] ++ .bytes .constant [0x62] :: [.bool true]) := rfl
  have accepted : ∀ v ∈ [Value.text ['a']], v.IsTarget := by simpa using Value.IsTarget.char 'a'
  have wrong : (ofText ['a', 'b']).Refuses
      (.consume (.items .list [.text ['a'], .bytes .constant [0x62], .bool true]))
      .invalidArgument (.invalidTarget "consume".toList (.bytes .constant [0x62])) :=
    .consume (.member visited accepted nofun)
  obtain ⟨refused, reported, _⟩ := perform_eq_error_iff (ofText ['a', 'b'])
    (.consume (.items .list [.text ['a'], .bytes .constant [0x62], .bool true]))
    (.rejected ⟨.invalidArgument, .invalidTarget "consume".toList (.bytes .constant [0x62])⟩)
  refine ⟨?_, ?_, refused.mpr (.inl ⟨_, _, wrong, rfl⟩), (reported _ _ wrong).2, ?_⟩
  · exact (perform_eq_error_iff _ _ _).1.mpr
      (.inl ⟨_, _, .substringReversed (by decide), rfl⟩)
  · exact (perform_eq_error_iff _ _ _).1.mpr
      (.inl ⟨_, _, .substringBefore (by decide) (by decide), rfl⟩)
  · exact (perform_eq_error_iff _ _ _).1.mpr (.inr ⟨-1, by decide, rfl, rfl⟩)

end Cursor
end TextCursor

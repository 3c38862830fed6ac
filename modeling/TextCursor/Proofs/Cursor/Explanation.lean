import TextCursor.Proofs.Cursor.Refusal

/-! What failures explain. The diagnostic of a refusal tells what was wrong with which request.
To locate a negative offset is not refused: it fails, and there is no diagnostic to tell. -/
namespace TextCursor.Cursor

variable {c : Cursor} {request : Request} {kind : ErrorKind} {rejection : Rejection}

theorem Refuses.explains (refused : c.Refuses request kind rejection) :
    (Failure.rejected ⟨kind, rejection⟩).Explains request :=
  ⟨_, rejection.diagnostic, rfl, rfl, refused.kind_eq, congrArg some refused.operation_eq⟩

theorem not_explains_negativePosition (error : Location.NegativePosition) :
    ¬(Failure.negativePosition error).Explains request := by
  intro explains
  obtain ⟨_, _, same, _⟩ := explains
  cases same

/-- Every failure explains itself but that to locate a negative offset, which has the offset
in its message only. -/
theorem explains_iff (c : Cursor) (request : Request) :
    ((∀ failure, c.perform request = .error failure → failure.Explains request) ↔
      ∀ offset < 0, request ≠ .location (some offset)) ∧
    ∀ offset < 0, c.perform (.location (some offset)) = .error (.negativePosition ⟨offset⟩) ∧
      (Failure.negativePosition ⟨offset⟩).diagnostic? = none ∧
      (Failure.negativePosition ⟨offset⟩).message =
        "Position must be >= 0, got ".toList ++ Text.ofInt offset := by
  refine ⟨⟨?_, ?_⟩, fun offset negative => ⟨perform_location_of_neg negative, rfl, rfl⟩⟩
  · intro explained offset negative same
    subst same
    exact not_explains_negativePosition _ (explained _ (perform_location_of_neg negative))
  · intro inside failure failed
    rcases refuses_of_perform failed with ⟨kind, rejection, refused, rfl⟩ | located
    · exact refused.explains
    · obtain ⟨offset, negative, same, _⟩ := located
      exact absurd same (inside offset negative)

/-- A run over a list with a truth value in it is refused and explained. -/
theorem explains_iff_of_bad_group :
    (ofText ['a', 'b', 'c']).perform (.consume (.items .list [.int 97, .bool true])) =
      .error (.rejected ⟨.invalidArgument, .invalidTarget "consume".toList (.bool true)⟩) ∧
    (Failure.rejected ⟨.invalidArgument, .invalidTarget "consume".toList (.bool true)⟩).Explains
      (.consume (.items .list [.int 97, .bool true])) ∧
    (ofText ['a', 'b', 'c']).perform (.location (some (-1))) = .error (.negativePosition ⟨-1⟩) := by
  have failed : (ofText ['a', 'b', 'c']).perform (.consume (.items .list [.int 97, .bool true])) =
      .error (.rejected ⟨.invalidArgument, .invalidTarget "consume".toList (.bool true)⟩) := rfl
  obtain ⟨explained, located⟩ :=
    explains_iff (ofText ['a', 'b', 'c']) (.consume (.items .list [.int 97, .bool true]))
  exact ⟨failed, explained.mpr nofun _ failed, (located (-1) (by decide)).1⟩

/-- The offset before the first one has no location and no diagnostic says so. -/
theorem not_explains_of_negative_offset :
    create (.text ['a', 'b', 'c']) false = .ok ⟨ofText ['a', 'b', 'c'], [.created 3]⟩ ∧
    (ofText ['a', 'b', 'c']).perform (.location (some (-1))) = .error (.negativePosition ⟨-1⟩) ∧
    (Failure.negativePosition ⟨-1⟩).message = "Position must be >= 0, got -1".toList ∧
    (Failure.negativePosition ⟨-1⟩).diagnostic? = none ∧
    ¬∀ request failure, (ofText ['a', 'b', 'c']).perform request = .error failure →
      failure.Explains request := by
  refine ⟨rfl, rfl, rfl, rfl, fun explained => ?_⟩
  exact not_explains_negativePosition _ (explained (.location (some (-1))) _ rfl)

end TextCursor.Cursor

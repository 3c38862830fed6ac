import TextCursor.Cursor.Action
import TextCursor.Proofs.Cursor.Run

/-! Requests acting by single reads, checks and writes do what requests do as a
whole: none of them writes before all of its checks have been passed. -/
namespace TextCursor.Action

open Cursor

variable {α β : Type}

theorem run_get (next : Cursor → Action β) (c : Cursor) :
    (get >>= next).run.run c = (next c).run.run c := rfl

theorem run_ofResult (result : Except Rejected α) (next : α → Action β) (c : Cursor) :
    (ofResult result >>= next).run.run c =
      match result with
      | .ok a => (next a).run.run c
      | .error rejected => (.error (.rejected rejected), c) := by
  cases result with
  | error rejected => rfl
  | ok a => rfl

theorem run_checkInside (operation : Text) (target : Int) (next : Unit → Action β) (c : Cursor) :
    (checkInside operation target >>= next).run.run c =
      match c.seek operation target with
      | .ok _ => (next ()).run.run c
      | .error rejected => (.error (.rejected rejected), c) := by
  rw [checkInside, bind_assoc, run_get]
  by_cases negative : target < 0
  · rw [seek_of_neg c operation negative, if_pos negative]
    rfl
  · rw [if_neg negative]
    by_cases beyond : c.length < target
    · rw [seek_of_length_lt c operation beyond, if_pos beyond]
      rfl
    · rw [seek_eq_ok_iff.mpr ⟨Int.not_lt.mp negative, Int.not_lt.mp beyond, rfl⟩, if_neg beyond]
      rfl

theorem run_perform (request : Request) (c : Cursor) :
    (perform request).run.run c = c.step request := by
  cases request with
  | position | length | text | describe | atEnd | current | charAt | peek | behind | rewind => rfl
  | findNext target =>
    rw [perform, run_ofResult, step, Cursor.perform, findNext]
    cases targetCode "find_next".toList target with
    | error rejected => rfl
    | ok code => rfl
  | findNextOf targets =>
    rw [perform, run_ofResult, step, Cursor.perform, findNextOf]
    cases groupCodes "find_next_of".toList targets with
    | error rejected => rfl
    | ok codes => rfl
  | consume targets =>
    rw [perform, run_ofResult, step, Cursor.perform, consume]
    cases groupCodes "consume".toList targets with
    | error rejected => rfl
    | ok codes => rfl
  | next form =>
    rw [perform, run_get, step, Cursor.perform, next]
    by_cases ended : c.atEnd
    · rw [if_pos ended, if_pos ended]
      rfl
    · rw [if_neg ended, if_neg ended]
      rfl
  | substring start stop =>
    rw [perform, run_get, run_ofResult, step, Cursor.perform]
    cases c.substring start stop with
    | error rejected => rfl
    | ok s => rfl
  | location position =>
    rw [perform, run_get, step, Cursor.perform]
    cases c.locate position with
    | error error => rfl
    | ok location => rfl
  | moveBy steps =>
    rw [perform, run_get, run_checkInside, step, Cursor.perform, moveBy]
    cases sought : c.seek "move_by".toList (c.position + steps) with
    | error rejected => rfl
    | ok moved =>
      obtain ⟨_, _, rfl⟩ := seek_eq_ok_iff.mp sought
      rfl
  | moveTo target =>
    rw [perform, run_checkInside, step, Cursor.perform, moveTo]
    cases sought : c.seek "move_to".toList target with
    | error rejected => rfl
    | ok moved =>
      obtain ⟨_, _, rfl⟩ := seek_eq_ok_iff.mp sought
      rfl

/-- Acting on requests in turn leaves the trace and the cursor of their run. -/
theorem run_performAll (requests : List Request) (c : Cursor) :
    (performAll requests).run c = (c.trace requests, c.run requests) := by
  induction requests generalizing c with
  | nil => rfl
  | cons request rest ih =>
    have first : (perform request).run.run c = c.step request := run_perform request c
    simp only [performAll, StateT.run_bind, first, trace_cons, run_cons]
    -- The reads that remain are of a known cursor, so the rest of the run can be stated by itself.
    change (do
      let after ← (performAll rest).run (c.step request).2
      pure (⟨(c.step request).1, (c.step request).2.position⟩ :: after.1, after.2) : Id _) = _
    rw [ih]
    rfl

end TextCursor.Action

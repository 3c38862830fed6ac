import TextCursor.Proofs.Cursor.Action
import TextCursor.Proofs.Cursor.Refusal

/-! Requests that a run can do without. A query leaves the cursor as it is, and so
does every request that fails; whichever of them are left out, all others have
the outcomes and lead to the positions that they had. -/
namespace TextCursor.Cursor

theorem step_of_dispensable {c : Cursor} {request : Request}
    (dispensable : request.isQuery ∨ ∃ failure, (c.step request).1 = .error failure) :
    (c.step request).2 = c := by
  cases performed : c.perform request with
  | error failure => rw [step_of_error performed]
  | ok result =>
    obtain ⟨answer, after⟩ := result
    rw [step_of_ok performed] at dispensable ⊢
    obtain query | ⟨failure, failed⟩ := dispensable
    · exact eq_of_perform_query query performed
    · cases failed

/-- The run keeps its trace, less the entries of what is left out, and ends with the same cursor. -/
theorem trace_keep (c : Cursor) (requests : List Request) (kept : Nat → Bool)
    (dispensable : ∀ index request step, requests[index]? = some request →
      (c.trace requests)[index]? = some step → kept index = false →
      request.isQuery ∨ ∃ failure, step.outcome = .error failure) :
    c.trace (keep kept requests) = keep kept (c.trace requests) ∧
    c.run (keep kept requests) = c.run requests := by
  induction requests generalizing c kept with
  | nil => exact ⟨rfl, rfl⟩
  | cons request rest ih =>
    have later := ih (c.step request).2 (fun index => kept (index + 1))
      fun index => dispensable (index + 1)
    rw [trace_cons, keep, keep, run_cons]
    by_cases first : kept 0
    · rw [if_pos first, if_pos first, trace_cons, run_cons, later.1, later.2]
      exact ⟨rfl, rfl⟩
    · have unchanged : (c.step request).2 = c := by
        apply step_of_dispensable
        exact dispensable 0 request _ rfl rfl (eq_false_of_ne_true first)
      rw [if_neg first, if_neg first]
      rw [unchanged] at later ⊢
      exact later

theorem step_consume_refused {targets refused : Value} {valid rest : List Value}
    (visited : targets.elements? = some (valid ++ refused :: rest))
    (accepted : ∀ v ∈ valid, v.code?.isSome) (bad : refused.code? = none) (c : Cursor) :
    c.step (.consume targets) =
      (.error (.rejected ⟨.invalidArgument, .invalidTarget "consume".toList refused⟩), c) := by
  have passed : ∀ v ∈ valid, v.IsTarget :=
    fun v member => v.isTarget_iff.mpr (accepted v member)
  have wrong : ¬refused.IsTarget := by simp [Value.isTarget_iff, bad]
  exact step_of_error (Refuses.consume (.member visited passed wrong)).perform_eq

/-- Requests that fail or only ask leave no trace in a run, even though nothing
undoes what a failing request may have written: left out in any selection, they
change neither the outcomes and positions of the others nor the final cursor. -/
theorem performAll_keep (c : Cursor) (requests : List Request) (kept : Nat → Bool)
    (dispensable : ∀ index request step, requests[index]? = some request →
      ((Action.performAll requests).run c).1[index]? = some step → kept index = false →
      request.isQuery ∨ ∃ failure, step.outcome = .error failure) :
    (Action.performAll requests).run c = (c.trace requests, c.run requests) ∧
    (Action.performAll (keep kept requests)).run c =
      (keep kept (c.trace requests), c.run requests) ∧
    ∀ (targets refused : Value) (valid rest : List Value),
      targets.elements? = some (valid ++ refused :: rest) → (∀ v ∈ valid, v.code?.isSome) →
      refused.code? = none →
      (Action.perform (.consume targets)).run.run c =
        (.error (.rejected ⟨.invalidArgument, .invalidTarget "consume".toList refused⟩), c) := by
  rw [Action.run_performAll] at dispensable ⊢
  obtain ⟨traced, ended⟩ := trace_keep c requests kept dispensable
  refine ⟨rfl, ?_, fun targets refused valid rest visited accepted bad => ?_⟩
  · rw [Action.run_performAll, traced, ended]
  · rw [Action.run_perform]
    exact step_consume_refused visited accepted bad c

/-- A move out of the text, a lookup and a run over a group that ends in a bad
target are left out; the step that they stood before is as it was. -/
theorem performAll_keep_first_and_last :
    (ofText ['a', 'b']).trace [.moveTo 1, .moveBy 7, .peek .char (-1),
      .consume (.items .list [.text ['b'], .int 97, .bool true]), .next .code] =
      [⟨.ok .moved, 1⟩,
        ⟨.error (.rejected ⟨.outOfRange, .endAfterLength "move_by".toList 8 2⟩), 1⟩,
        ⟨.ok (.text ['a']), 1⟩,
        ⟨.error (.rejected ⟨.invalidArgument, .invalidTarget "consume".toList (.bool true)⟩), 1⟩,
        ⟨.ok .missing, 2⟩] ∧
    (Action.performAll [.moveTo 1, .next .code]).run (ofText ['a', 'b']) =
      ([⟨.ok .moved, 1⟩, ⟨.ok .missing, 2⟩], ⟨['a', 'b'], 2, 2⟩) ∧
    (Action.perform (.consume (.items .list [.text ['b'], .int 97, .bool true]))).run.run
        (ofText ['a', 'b']) =
      (.error (.rejected ⟨.invalidArgument, .invalidTarget "consume".toList (.bool true)⟩),
        ofText ['a', 'b']) := by
  have omitted := performAll_keep (ofText ['a', 'b'])
    [.moveTo 1, .moveBy 7, .peek .char (-1),
      .consume (.items .list [.text ['b'], .int 97, .bool true]), .next .code]
    (fun index => index % 4 = 0) ?_
  · refine ⟨rfl, omitted.2.1, ?_⟩
    exact omitted.2.2 _ _ [.text ['b'], .int 97] [] rfl (by simp [Value.code?]) rfl
  · intro index request step requested traced left
    match index with
    | 0 => cases left
    | 1 =>
      cases traced
      exact .inr ⟨_, rfl⟩
    | 2 =>
      cases requested
      exact .inl rfl
    | 3 =>
      cases traced
      exact .inr ⟨_, rfl⟩
    | 4 => cases left
    | index + 5 => cases requested

end TextCursor.Cursor

import TextCursor.Proofs.Cursor.Action
import TextCursor.Proofs.Cursor.Refusal
import Mathlib.Algebra.BigOperators.Group.List.Basic

/-! Chains of moves. A chain leads where the sum of its moves leads, as long as no move on the way
leaves the text, and the opposite moves lead back from there. -/
namespace TextCursor

namespace Action

variable {c middle : Cursor} {request : Request}

theorem run_chain_cons_of_ok {answer : Answer} (taken : c.step request = (.ok answer, middle))
    (rest : List Request) :
    (chain (request :: rest)).run.run c = (chain rest).run.run middle := by
  have performed := (run_perform request c).trans taken
  simp only [chain, ExceptT.run_bind, StateT.run_bind]
  rw [performed]
  rfl

theorem run_chain_cons_of_error {failure : Failure}
    (failed : c.step request = (.error failure, middle)) (rest : List Request) :
    (chain (request :: rest)).run.run c = (.error failure, middle) := by
  have performed := (run_perform request c).trans failed
  simp only [chain, ExceptT.run_bind, StateT.run_bind]
  rw [performed]
  rfl

theorem exists_of_run_chain_cons {after : Cursor} {rest : List Request}
    (taken : (chain (request :: rest)).run.run c = (.ok (), after)) :
    ∃ answer middle, c.step request = (.ok answer, middle) ∧
      (chain rest).run.run middle = (.ok (), after) := by
  cases stepped : c.step request with
  | mk outcome middle =>
    cases outcome with
    | error failure => cases (run_chain_cons_of_error stepped rest).symm.trans taken
    | ok answer => exact ⟨answer, middle, rfl, (run_chain_cons_of_ok stepped rest).symm.trans taken⟩

theorem run_chain_append {first : List Request} (taken : (chain first).run.run c = (.ok (), middle))
    (rest : List Request) :
    (chain (first ++ rest)).run.run c = (chain rest).run.run middle := by
  induction first generalizing c with
  | nil =>
    cases taken
    rfl
  | cons request first ih =>
    obtain ⟨answer, after, stepped, later⟩ := exists_of_run_chain_cons taken
    rw [List.cons_append, run_chain_cons_of_ok stepped, ih later]

/-- A chain that succeeds has made all of its requests, as a run does. -/
theorem run_eq_of_run_chain {requests : List Request}
    (taken : (chain requests).run.run c = (.ok (), middle)) : c.run requests = middle := by
  induction requests generalizing c with
  | nil =>
    cases taken
    rfl
  | cons request rest ih =>
    obtain ⟨answer, after, stepped, later⟩ := exists_of_run_chain_cons taken
    rw [Cursor.run_cons, stepped]
    exact ih later

end Action

namespace Cursor

variable {c : Cursor} {origin steps : Int} {distances : List Int}

theorem WellPlaced.hasOffset (placed : c.WellPlaced) : c.HasOffset c.position :=
  ⟨Int.natCast_nonneg _, Int.ofNat_le.mpr placed.position_le⟩

theorem step_moveBy_of_hasOffset (here : c.HasOffset origin)
    (there : c.HasOffset (origin + steps)) :
    step { c with position := origin.toNat } (.moveBy steps) =
      (.ok .moved, { c with position := (origin + steps).toNat }) := by
  obtain ⟨n, rfl⟩ := Int.eq_ofNat_of_zero_le here.1
  exact step_of_ok (perform_moveBy_of_le (c := { c with position := n }) there.1 there.2)

/-- What cannot be reached is refused in the same words, whichever operation asks for it and from
wherever. -/
theorem exists_seek_eq_error {target : Int} (outside : ¬c.HasOffset target)
    (operation other : Text) :
    ∃ rejected refused, c.seek operation target = .error rejected ∧
      (∀ position, seek { c with position } other target = .error refused) ∧
      rejected.report.kind = .outOfRange ∧
      rejected.diagnostic = { refused.diagnostic with operation := some operation } := by
  by_cases before : target < 0
  · exact ⟨_, _, c.seek_of_neg operation before, fun _ => seek_of_neg _ other before, rfl, rfl⟩
  · have beyond : c.length < target :=
      Int.not_le.mp fun upper => outside ⟨Int.not_lt.mp before, upper⟩
    exact ⟨_, _, c.seek_of_length_lt operation beyond, fun _ => seek_of_length_lt _ other beyond,
      rfl, rfl⟩

theorem exists_perform_moveBy_eq_error (here : c.HasOffset origin)
    (outside : ¬c.HasOffset (origin + steps)) :
    ∃ rejected refused,
      perform { c with position := origin.toNat } (.moveBy steps) = .error (.rejected rejected) ∧
      (∀ position, perform { c with position } (.moveTo (origin + steps)) =
        .error (.rejected refused)) ∧
      rejected.report.kind = .outOfRange ∧
      rejected.diagnostic =
        { refused.diagnostic with operation := some (Request.moveBy steps).name } := by
  obtain ⟨n, rfl⟩ := Int.eq_ofNat_of_zero_le here.1
  obtain ⟨rejected, refused, stopped, elsewhere, kind, alike⟩ :=
    exists_seek_eq_error outside "move_by".toList "move_to".toList
  refine ⟨rejected, refused, ?_, fun position => ?_, kind, alike⟩
  · exact mapError_map_eq_error_iff.mpr ⟨_, stopped, rfl⟩
  · exact mapError_map_eq_error_iff.mpr ⟨_, elsewhere position, rfl⟩

namespace StaysInside

theorem hasOffset (stays : c.StaysInside origin distances) : c.HasOffset origin := by
  have first := stays 0 (Nat.zero_le _)
  rwa [List.take_zero, List.sum_nil, Int.add_zero] at first

theorem tail (stays : c.StaysInside origin (steps :: distances)) :
    c.StaysInside (origin + steps) distances := by
  intro count within
  have later := stays (count + 1) (Nat.succ_le_succ within)
  rwa [List.take_succ_cons, List.sum_cons, ← Int.add_assoc] at later

theorem take {count : Nat}
    (stays : ∀ earlier ≤ count, c.HasOffset (origin + (distances.take earlier).sum)) :
    c.StaysInside origin (distances.take count) := by
  intro earlier _
  rw [List.take_take]
  exact stays _ (Nat.min_le_right _ _)

theorem total (stays : c.StaysInside origin distances) :
    c.HasOffset (origin + distances.sum) := by
  have last := stays distances.length (Nat.le_refl _)
  rwa [List.take_length] at last

end StaysInside

theorem run_chain_moves (stays : c.StaysInside origin distances) :
    (Action.chain (distances.map .moveBy)).run.run { c with position := origin.toNat } =
      (.ok (), { c with position := (origin + distances.sum).toNat }) := by
  induction distances generalizing origin with
  | nil =>
    rw [List.sum_nil, Int.add_zero]
    rfl
  | cons steps distances ih =>
    have moved := step_moveBy_of_hasOffset stays.hasOffset stays.tail.hasOffset
    rw [List.map_cons, Action.run_chain_cons_of_ok moved, ih stays.tail, List.sum_cons,
      Int.add_assoc]

theorem run_chain_moves_back (stays : c.StaysInside origin distances) :
    (Action.chain ((distances.map (- ·)).reverse.map .moveBy)).run.run
        { c with position := (origin + distances.sum).toNat } =
      (.ok (), { c with position := origin.toNat }) := by
  induction distances generalizing origin with
  | nil =>
    rw [List.sum_nil, Int.add_zero]
    rfl
  | cons steps distances ih =>
    have returned : origin + steps + -steps = origin := Int.add_neg_cancel_right origin steps
    have there : c.HasOffset (origin + steps + -steps) := by
      rw [returned]
      exact stays.hasOffset
    have moved := step_moveBy_of_hasOffset stays.tail.hasOffset there
    rw [returned] at moved
    -- The first move is undone last, when the others have been taken back to where it led.
    rw [List.map_cons, List.reverse_cons, List.map_append, List.sum_cons, ← Int.add_assoc,
      Action.run_chain_append (ih stays.tail), List.map_singleton,
      Action.run_chain_cons_of_ok moved]
    rfl

/-- All moves before the one that leaves the text are made, and it is not. -/
theorem exists_run_chain_refused {count : Nat} (short : count < distances.length)
    (stays : c.StaysInside origin (distances.take count))
    (outside : ¬c.HasOffset (origin + (distances.take (count + 1)).sum)) :
    ∃ rejected refused,
      (Action.chain (distances.map .moveBy)).run.run { c with position := origin.toNat } =
        (.error (.rejected rejected),
          { c with position := (origin + (distances.take count).sum).toNat }) ∧
      perform { c with position := (origin + (distances.take count).sum).toNat }
        (.moveBy distances[count]) = .error (.rejected rejected) ∧
      (∀ position, perform { c with position }
          (.moveTo (origin + (distances.take (count + 1)).sum)) = .error (.rejected refused)) ∧
      rejected.report.kind = .outOfRange ∧
      rejected.diagnostic =
        { refused.diagnostic with operation := some (Request.moveBy distances[count]).name } := by
  have split : distances.map Request.moveBy = (distances.take count).map Request.moveBy ++
      Request.moveBy distances[count] :: (distances.drop (count + 1)).map Request.moveBy := by
    rw [← List.map_cons, ← List.map_append, ← List.drop_eq_getElem_cons short,
      List.take_append_drop]
  rw [List.sum_take_succ _ _ short, ← Int.add_assoc] at outside ⊢
  obtain ⟨rejected, refused, stopped, elsewhere, kind, alike⟩ :=
    exists_perform_moveBy_eq_error stays.total outside
  refine ⟨rejected, refused, ?_, stopped, elsewhere, kind, alike⟩
  rw [split, Action.run_chain_append (run_chain_moves stays),
    Action.run_chain_cons_of_error (step_of_error stopped)]

/-- A chain that does not fail has stayed inside, for else there would be a first move to leave. -/
theorem staysInside_of_run_chain (here : c.HasOffset origin)
    (taken : ((Action.chain (distances.map .moveBy)).run.run
      { c with position := origin.toNat }).1 = .ok ()) :
    c.StaysInside origin distances := by
  intro count within
  induction count using Nat.strongRecOn with
  | ind count ih =>
    cases count with
    | zero => rwa [List.take_zero, List.sum_nil, Int.add_zero]
    | succ count =>
      by_contra outside
      have before : c.StaysInside origin (distances.take count) :=
        .take fun earlier below => ih earlier (Nat.lt_succ_of_le below) (by omega)
      obtain ⟨rejected, refused, stopped, _⟩ :=
        exists_run_chain_refused (Nat.lt_of_succ_le within) before outside
      rw [stopped] at taken
      cases taken

/-- Moves add up: a chain of them is carried out just if all places on the way are offsets of the
text, and then it leads where a single move over the sum leads, from where the opposite moves
lead back. Else it stops before the first place that is none, with the error that a move
straight to there would have. -/
theorem moves_of_run {data : Value} {unifyBreaks : Bool} {made : Created}
    (accepted : create data unifyBreaks = .ok made) (requests : List Request)
    (distances : List Int) :
    let start := made.cursor.run requests
    let moves := Action.chain (distances.map .moveBy)
    let movesBack := Action.chain ((distances.map (- ·)).reverse.map .moveBy)
    let reached (count : Nat) : Int := start.position + (distances.take count).sum
    ((moves.run.run start).1 = .ok () ↔
      ∀ count ≤ distances.length, start.HasOffset (reached count)) ∧
    ((∀ count ≤ distances.length, start.HasOffset (reached count)) →
      ∃ after, moves.run.run start = (.ok (), after) ∧
        start.run (distances.map .moveBy) = after ∧
        start.perform (.moveBy distances.sum) = .ok (.moved, after) ∧
        start.perform (.moveTo (start.position + distances.sum)) = .ok (.moved, after) ∧
        movesBack.run.run after = (.ok (), start)) ∧
    ∀ (count : Nat) (short : count < distances.length),
      (∀ earlier ≤ count, start.HasOffset (reached earlier)) →
      ¬start.HasOffset (reached (count + 1)) →
      let stopped := start.run ((distances.take count).map .moveBy)
      ∃ rejected refused,
        moves.run.run start = (.error (.rejected rejected), stopped) ∧
        (stopped.position : Int) = reached count ∧
        stopped.perform (.moveBy distances[count]) = .error (.rejected rejected) ∧
        stopped.perform (.moveTo (reached (count + 1))) = .error (.rejected refused) ∧
        start.perform (.moveTo (reached (count + 1))) = .error (.rejected refused) ∧
        rejected.report.kind = .outOfRange ∧
        rejected.diagnostic =
          { refused.diagnostic with operation := some (Request.moveBy distances[count]).name } := by
  intro start moves movesBack reached
  have here : start.HasOffset start.position := (wellPlaced_of_run accepted requests).hasOffset
  refine ⟨⟨staysInside_of_run_chain here, fun stays => ?_⟩, fun stays => ?_,
    fun count short stays outside => ?_⟩
  · exact congrArg Prod.fst (run_chain_moves (c := start) stays)
  · have there := StaysInside.total stays
    have taken := run_chain_moves (c := start) stays
    exact ⟨_, taken, Action.run_eq_of_run_chain taken, perform_moveBy_of_le there.1 there.2,
      perform_moveTo_of_le there.1 there.2, run_chain_moves_back stays⟩
  · intro stopped
    have begun : start.StaysInside start.position (distances.take count) := .take stays
    have led : stopped = { start with position := (reached count).toNat } :=
      Action.run_eq_of_run_chain (run_chain_moves (c := start) begun)
    obtain ⟨rejected, refused, ended, failed, elsewhere, kind, alike⟩ :=
      exists_run_chain_refused (c := start) short begun outside
    rw [led]
    exact ⟨rejected, refused, ended, Int.toNat_of_nonneg begun.total.1, failed, elsewhere _,
      elsewhere _, kind, alike⟩

/-- From the second of four characters to both ends of the text, which are places like all
others, and to one beyond, after which nothing more is tried. -/
theorem moves_of_run_to_both_ends :
    create (.text ['a', 'b', 'c', 'd']) false =
      .ok ⟨ofText ['a', 'b', 'c', 'd'], [.created 4]⟩ ∧
    ((ofText ['a', 'b', 'c', 'd']).run [.moveTo 1]).perform (.moveBy 1) =
      .ok (.moved, ⟨['a', 'b', 'c', 'd'], 4, 2⟩) ∧
    (Action.chain [.moveBy 3, .moveBy (-4), .moveBy 2]).run.run
        ((ofText ['a', 'b', 'c', 'd']).run [.moveTo 1]) =
      (.ok (), ⟨['a', 'b', 'c', 'd'], 4, 2⟩) ∧
    (Action.chain [.moveBy (-2), .moveBy 4, .moveBy (-3)]).run.run ⟨['a', 'b', 'c', 'd'], 4, 2⟩ =
      (.ok (), (ofText ['a', 'b', 'c', 'd']).run [.moveTo 1]) ∧
    ∃ rejected,
      (Action.chain [.moveBy 3, .moveBy 1, .moveBy (-4)]).run.run
          ((ofText ['a', 'b', 'c', 'd']).run [.moveTo 1]) =
        (.error (.rejected rejected), ⟨['a', 'b', 'c', 'd'], 4, 4⟩) ∧
      rejected.report.kind = .outOfRange ∧
      rejected.diagnostic =
        { (Rejection.endAfterLength "move_to".toList 5 4).diagnostic with
          operation := some "move_by".toList } := by
  have accepted : create (.text ['a', 'b', 'c', 'd']) false =
      .ok ⟨ofText ['a', 'b', 'c', 'd'], [.created 4]⟩ := rfl
  obtain ⟨_, inside, _⟩ := moves_of_run accepted [.moveTo 1] [3, -4, 2]
  obtain ⟨after, led, _, moved, _, back⟩ := inside (by decide)
  cases moved
  obtain ⟨_, _, outside⟩ := moves_of_run accepted [.moveTo 1] [3, 1, -4]
  obtain ⟨rejected, refused, ended, _, _, _, refusal, kind, alike⟩ :=
    outside 1 (by decide) (by decide) (by decide)
  cases refusal
  exact ⟨accepted, rfl, led, back, rejected, ended, kind, alike⟩

end Cursor

end TextCursor

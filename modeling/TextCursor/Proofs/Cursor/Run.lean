import TextCursor.Cursor.Request
import TextCursor.Proofs.Cursor.Creation

/-! Cursors that runs of requests lead to. A request never changes more than the
position, and whatever its outcome it leaves the position inside the text. -/
namespace TextCursor.Cursor

structure WellPlaced (c : Cursor) : Prop where
  length_eq : c.length = c.text.length
  position_le : c.position ≤ c.length

theorem wellPlaced_ofText (s : Text) : (ofText s).WellPlaced := ⟨rfl, Nat.zero_le _⟩

theorem wellPlaced_of_create {data : Value} {unifyBreaks : Bool} {made : Created}
    (accepted : create data unifyBreaks = .ok made) : made.cursor.WellPlaced := by
  obtain ⟨decoded, _, same⟩ := create_eq_ok accepted
  rw [same]
  exact wellPlaced_ofText _

theorem WellPlaced.setPosition {c : Cursor} (placed : c.WellPlaced) {position : Nat}
    (inside : position ≤ c.length) : WellPlaced { c with position } :=
  ⟨placed.length_eq, inside⟩

theorem charAt?_natCast {c : Cursor} (sized : c.length = c.text.length) (index : Nat) :
    c.charAt? index = c.text[index]? := by
  rw [charAt?, Int.toNat_natCast]
  split
  case isTrue => rfl
  case isFalse outside =>
    apply (List.getElem?_eq_none _).symm
    omega

structure Follows (c after : Cursor) : Prop where
  text_eq : after.text = c.text
  length_eq : after.length = c.length
  position_le : c.WellPlaced → after.position ≤ c.length

namespace Follows

theorem refl (c : Cursor) : c.Follows c := ⟨rfl, rfl, fun placed => placed.position_le⟩

theorem wellPlaced {c after : Cursor} (follows : c.Follows after) (placed : c.WellPlaced) :
    after.WellPlaced where
  length_eq := by rw [follows.length_eq, follows.text_eq, placed.length_eq]
  position_le := by
    rw [follows.length_eq]
    exact follows.position_le placed

theorem trans {c middle after : Cursor} (first : c.Follows middle) (second : middle.Follows after) :
    c.Follows after where
  text_eq := second.text_eq.trans first.text_eq
  length_eq := second.length_eq.trans first.length_eq
  position_le placed := by
    rw [← first.length_eq]
    exact second.position_le (first.wellPlaced placed)

end Follows

theorem follows_of_seek {c moved : Cursor} {operation : Text} {target : Int}
    (sought : c.seek operation target = .ok moved) : c.Follows moved := by
  obtain ⟨lower, upper, rfl⟩ := seek_eq_ok_iff.mp sought
  exact ⟨rfl, rfl, fun _ => by dsimp only; omega⟩

theorem follows_next (c : Cursor) : c.Follows c.next.2 := by
  unfold next atEnd
  by_cases ended : c.length ≤ c.position
  · rw [if_pos (decide_eq_true ended)]
    exact .refl c
  · rw [if_neg (by simpa using ended)]
    exact ⟨rfl, rfl, fun _ => by dsimp only; omega⟩

theorem follows_skipWhile (c : Cursor) (wanted : Char → Bool) :
    c.Follows (c.skipWhile wanted) := by
  refine ⟨rfl, rfl, fun placed => ?_⟩
  have run := (List.takeWhile_sublist (l := c.text.drop c.position) wanted).length_le
  have inside := placed.position_le
  rw [List.length_drop, ← placed.length_eq] at run
  simp only [skipWhile]
  omega

theorem consume_eq_ok {c moved : Cursor} {targets : Value}
    (consumed : c.consume targets = .ok moved) :
    ∃ codes, groupCodes "consume".toList targets = .ok codes ∧
      moved = c.skipWhile (isAmong codes) := by
  unfold consume at consumed
  cases read : groupCodes "consume".toList targets with
  | error rejected =>
    rw [read] at consumed
    cases consumed
  | ok codes =>
    rw [read] at consumed
    cases consumed
    exact ⟨codes, rfl, rfl⟩

theorem lift_map_eq_ok_iff {α β : Type} {result : Except Rejected α} {f : α → β} {b : β} :
    perform.lift (result.map f) = .ok b ↔ ∃ a, result = .ok a ∧ f a = b := by
  cases result with
  | error rejected => simp [perform.lift, Except.map, Except.mapError]
  | ok a => simp [perform.lift, Except.map, Except.mapError]

theorem perform_moveTo_of_le {c : Cursor} {target : Int} (lower : 0 ≤ target)
    (upper : target ≤ c.length) :
    c.perform (.moveTo target) = .ok (.moved, { c with position := target.toNat }) :=
  lift_map_eq_ok_iff.mpr ⟨_, seek_eq_ok_iff.mpr ⟨lower, upper, rfl⟩, rfl⟩

theorem perform_moveBy_of_le {c : Cursor} {steps : Int} (lower : 0 ≤ c.position + steps)
    (upper : c.position + steps ≤ c.length) :
    c.perform (.moveBy steps) =
      .ok (.moved, { c with position := (c.position + steps).toNat }) :=
  lift_map_eq_ok_iff.mpr ⟨_, seek_eq_ok_iff.mpr ⟨lower, upper, rfl⟩, rfl⟩

theorem eq_of_perform_query {c after : Cursor} {request : Request} {answer : Answer}
    (query : request.isQuery) (performed : c.perform request = .ok (answer, after)) :
    after = c := by
  cases request with
  | moveBy | moveTo | rewind | next | consume => cases query
  | position | length | text | describe | atEnd | current | charAt | peek | behind =>
    cases performed
    rfl
  | findNext | findNextOf | substring =>
    obtain ⟨found, _, same⟩ := lift_map_eq_ok_iff.mp performed
    cases same
    rfl
  | location position =>
    simp only [perform] at performed
    cases located : c.locate position with
    | error error =>
      rw [located] at performed
      cases performed
    | ok location =>
      rw [located] at performed
      cases performed
      rfl

/-- Only moves, steps and runs lead anywhere; other requests answer about the cursor as it is. -/
theorem follows_of_perform {c after : Cursor} {request : Request} {answer : Answer}
    (performed : c.perform request = .ok (answer, after)) : c.Follows after := by
  cases request with
  | moveBy | moveTo =>
    obtain ⟨moved, sought, same⟩ := lift_map_eq_ok_iff.mp performed
    cases same
    exact follows_of_seek sought
  | rewind =>
    cases performed
    exact ⟨rfl, rfl, fun _ => Nat.zero_le _⟩
  | next =>
    cases performed
    exact follows_next c
  | consume =>
    obtain ⟨moved, consumed, same⟩ := lift_map_eq_ok_iff.mp performed
    obtain ⟨codes, _, rfl⟩ := consume_eq_ok consumed
    cases same
    exact follows_skipWhile c (isAmong codes)
  | _ =>
    rw [eq_of_perform_query rfl performed]
    exact .refl c

theorem step_of_ok {c after : Cursor} {request : Request} {answer : Answer}
    (performed : c.perform request = .ok (answer, after)) :
    c.step request = (.ok answer, after) := by
  rw [step, performed]

theorem step_of_error {c : Cursor} {request : Request} {failure : Failure}
    (performed : c.perform request = .error failure) : c.step request = (.error failure, c) := by
  rw [step, performed]

theorem follows_step (c : Cursor) (request : Request) : c.Follows (c.step request).2 := by
  cases performed : c.perform request with
  | error failure =>
    rw [step_of_error performed]
    exact .refl c
  | ok result =>
    rw [step_of_ok performed]
    exact follows_of_perform performed

theorem run_cons (c : Cursor) (request : Request) (rest : List Request) :
    c.run (request :: rest) = (c.step request).2.run rest := rfl

theorem trace_cons (c : Cursor) (request : Request) (rest : List Request) :
    c.trace (request :: rest) =
      ⟨(c.step request).1, (c.step request).2.position⟩ :: (c.step request).2.trace rest := rfl

theorem follows_run (c : Cursor) (requests : List Request) : c.Follows (c.run requests) := by
  induction requests generalizing c with
  | nil => exact .refl c
  | cons request rest ih =>
    rw [run_cons]
    exact (follows_step c request).trans (ih _)

theorem wellPlaced_of_run {data : Value} {unifyBreaks : Bool} {made : Created}
    (accepted : create data unifyBreaks = .ok made) (requests : List Request) :
    (made.cursor.run requests).WellPlaced :=
  (follows_run made.cursor requests).wellPlaced (wellPlaced_of_create accepted)

/-- Every position that a run reports lies inside the text. -/
theorem position_le_of_mem_trace {c : Cursor} (placed : c.WellPlaced) {requests : List Request}
    {step : Step} (member : step ∈ c.trace requests) : step.position ≤ c.length := by
  induction requests generalizing c with
  | nil => simp [trace] at member
  | cons request rest ih =>
    have follows := follows_step c request
    rw [trace_cons, List.mem_cons] at member
    rcases member with rfl | later
    · exact follows.position_le placed
    · rw [← follows.length_eq]
      exact ih (follows.wellPlaced placed) later

end TextCursor.Cursor

import TextCursor.Proofs.Cursor.Search
import TextCursor.Proofs.Text.Slice
import Mathlib.Data.List.TakeWhile

/-! Runs go as far as they can. Where one ends is settled by the characters alone, so that a
second run over the same group does not move, a wider group is never left earlier, and runs
over two groups by turns end where a single run over both of them ends. -/
namespace TextCursor

theorem Value.exists_isUnion {first second : Value} (valid : ∀ refused, ¬first.RefusedFor refused)
    (valid' : ∀ refused, ¬second.RefusedFor refused) :
    ∃ both : Value, both.IsUnion first second := by
  refine ⟨.items .list (first.singles ++ second.singles), ?_, fun c => ?_⟩
  · intro refused bad
    cases bad with
    | whole _ _ noMembers => cases noMembers
    | member visited _ bad =>
      have member : refused ∈ first.singles ++ second.singles := by
        rw [Option.some.inj visited]
        exact List.mem_append_right _ List.mem_cons_self
      rcases List.mem_append.mp member with inFirst | inSecond
      · exact bad (isTarget_of_mem_singles valid _ inFirst)
      · exact bad (isTarget_of_mem_singles valid' _ inSecond)
  · simp only [covers_iff, singles, elements?, Option.getD_some, List.mem_append, or_and_right,
      exists_or]

namespace Cursor

namespace RunEnds

variable {c : Cursor} {sought wider : Char → Prop} {stop other : Nat}

theorem le_of_subset (narrow : ∀ char, sought char → wider char) (ends : c.RunEnds sought stop)
    (ends' : c.RunEnds wider other) : stop ≤ other := by
  by_contra beyond
  have earlier := Nat.not_le.mp beyond
  rcases ends'.not_sought with whole | ⟨char, read, refused⟩
  · have inside := ends.le_length
    omega
  · apply refused
    apply narrow
    apply ends.sought_before
    exact Text.mem_slice_iff.mpr ⟨other, ends'.position_le, earlier, read⟩

theorem unique (ends : c.RunEnds sought stop) (ends' : c.RunEnds sought other) : stop = other :=
  Nat.le_antisymm (le_of_subset (fun _ => id) ends ends') (le_of_subset (fun _ => id) ends' ends)

theorem congr (same : ∀ char, sought char ↔ wider char) :
    c.RunEnds sought stop ↔ c.RunEnds wider stop := by
  rw [funext fun char => propext (same char)]

theorem advance (ends : c.RunEnds sought stop) {middle : Nat} (lower : c.position ≤ middle)
    (upper : middle ≤ stop) : RunEnds { c with position := middle } sought stop where
  position_le := upper
  le_length := ends.le_length
  sought_before := by
    intro char member
    obtain ⟨index, begun, within, read⟩ := Text.mem_slice_iff.mp member
    exact ends.sought_before char (Text.mem_slice_iff.mpr ⟨index, lower.trans begun, within, read⟩)
  not_sought := ends.not_sought

theorem or_of_settled (still : c.RunEnds sought c.position) (still' : c.RunEnds wider c.position) :
    c.RunEnds (fun char => sought char ∨ wider char) c.position where
  position_le := Nat.le_refl _
  le_length := still.le_length
  sought_before := fun char member => .inl (still.sought_before char member)
  not_sought := by
    rcases still.not_sought with ended | ⟨char, read, refused⟩
    · exact .inl ended
    · rcases still'.not_sought with ended | ⟨char', read', refused'⟩
      · exact .inl ended
      · cases read.symm.trans read'
        exact .inr ⟨char, read, not_or.mpr ⟨refused, refused'⟩⟩

end RunEnds

variable {c : Cursor}

theorem runEnds_skipWhile (placed : c.WellPlaced) {wanted : Char → Bool} {sought : Char → Prop}
    (agree : ∀ char, wanted char ↔ sought char) :
    c.RunEnds sought (c.skipWhile wanted).position where
  position_le := Nat.le_add_right _ _
  le_length := (follows_skipWhile c wanted).position_le placed
  sought_before := by
    intro char member
    have run : c.text.slice c.position (c.skipWhile wanted).position =
        (c.text.drop c.position).takeWhile wanted := by
      simp only [Text.slice, skipWhile, Nat.add_sub_cancel_left]
      exact (List.prefix_iff_eq_take.mp (List.takeWhile_prefix wanted)).symm
    rw [run] at member
    exact (agree char).mp (List.mem_takeWhile_imp member)
  not_sought := by
    have parts := List.takeWhile_append_dropWhile (p := wanted) (l := c.text.drop c.position)
    cases beyond : (c.text.drop c.position).dropWhile wanted with
    | nil =>
      left
      rw [beyond, List.append_nil] at parts
      rw [skipWhile, parts, List.length_drop, ← placed.length_eq]
      exact Nat.add_sub_cancel' placed.position_le
    | cons char rest =>
      right
      refine ⟨char, ?_, fun found => ?_⟩
      · have read : ((c.text.drop c.position).takeWhile wanted ++ char :: rest)[
            ((c.text.drop c.position).takeWhile wanted).length]? = some char := by simp
        rw [← beyond, parts, List.getElem?_drop] at read
        exact read
      · have refused := List.head?_dropWhile_not wanted (c.text.drop c.position)
        rw [beyond] at refused
        exact Bool.eq_false_iff.mp refused ((agree char).mpr found)

theorem perform_consume_of_runEnds {targets : Value}
    (valid : ∀ refused, ¬targets.RefusedFor refused) (placed : c.WellPlaced) {stop : Nat}
    (ends : c.RunEnds targets.Covers stop) :
    c.perform (.consume targets) = .ok (.moved, { c with position := stop }) := by
  obtain ⟨wanted, agree, consumed⟩ := exists_consume valid
  apply lift_map_eq_ok_iff.mpr
  refine ⟨_, consumed c, ?_⟩
  rw [ends.unique (runEnds_skipWhile placed agree)]
  rfl

theorem exists_runEnds {targets : Value} (valid : ∀ refused, ¬targets.RefusedFor refused)
    (placed : c.WellPlaced) : ∃ stop, c.RunEnds targets.Covers stop := by
  obtain ⟨wanted, agree, _⟩ := exists_consume valid
  exact ⟨_, runEnds_skipWhile placed agree⟩

theorem Alternates.unique {first second : Value} {outcome another : Except Failure Cursor}
    (ended : Alternates first second c outcome) (ended' : Alternates first second c another) :
    outcome = another := by
  induction ended generalizing another with
  | stuck failed =>
    cases ended' with
    | stuck failed' =>
      cases failed.symm.trans failed'
      rfl
    | settled taken | moved taken => cases failed.symm.trans taken
  | settled taken still =>
    cases ended' with
    | stuck failed => cases taken.symm.trans failed
    | settled taken' =>
      cases taken.symm.trans taken'
      rfl
    | moved taken' moved =>
      cases taken.symm.trans taken'
      exact absurd still moved
  | moved taken moved _ ih =>
    cases ended' with
    | stuck failed => cases taken.symm.trans failed
    | settled taken' still =>
      cases taken.symm.trans taken'
      exact absurd still moved
    | moved taken' _ rest =>
      cases taken.symm.trans taken'
      exact ih rest

section Turns

variable {first second : Value} (valid : ∀ refused, ¬first.RefusedFor refused)
  (valid' : ∀ refused, ¬second.RefusedFor refused)
include valid valid'

/-- One turn: neither run goes beyond where a run over both groups ends, and if neither moves
then that is where the cursor already is. -/
theorem exists_turn (placed : c.WellPlaced) {stop : Nat}
    (ends : c.RunEnds (fun char => first.Covers char ∨ second.Covers char) stop) :
    ∃ middle after, c.turn first second =
        .ok ({ c with position := middle }, { c with position := after }) ∧
      c.position ≤ middle ∧ middle ≤ after ∧ after ≤ stop ∧
      (middle = c.position ∧ after = middle → stop = c.position) := by
  obtain ⟨middle, ends₁⟩ := exists_runEnds valid placed
  have upper : middle ≤ stop := ends₁.le_of_subset (fun _ => .inl) ends
  have placed' := placed.setPosition ends₁.le_length
  obtain ⟨after, ends₂⟩ := exists_runEnds valid' placed'
  have upper' : after ≤ stop :=
    ends₂.le_of_subset (fun _ => .inr) (ends.advance ends₁.position_le upper)
  refine ⟨middle, after, ?_, ends₁.position_le, ends₂.position_le, upper', ?_⟩
  · rw [turn, perform_consume_of_runEnds valid placed ends₁]
    change perform { c with position := middle } (.consume second) >>= _ = _
    rw [perform_consume_of_runEnds valid' placed' ends₂]
    rfl
  · intro still
    obtain ⟨rfl, rfl⟩ := still
    -- Both runs are made from the same place, and the character there is in neither group.
    exact ends.unique (ends₁.or_of_settled ends₂)

/-- All turns: what is left to run over gets shorter with each turn that moves the cursor. -/
theorem alternates_of_runEnds (placed : c.WellPlaced) {stop : Nat}
    (ends : c.RunEnds (fun char => first.Covers char ∨ second.Covers char) stop) :
    Alternates first second c (.ok { c with position := stop }) := by
  induction left : stop - c.position using Nat.strongRecOn generalizing c with
  | ind left ih =>
    subst left
    obtain ⟨middle, after, taken, begun, ordered, upper, settles⟩ :=
      exists_turn valid valid' placed ends
    by_cases still : middle = c.position ∧ after = middle
    · rw [settles still, ← still.1, ← still.2]
      exact .settled taken still
    · apply Alternates.moved taken still
      have inside := upper.trans ends.le_length
      exact ih (stop - after) (by omega) (placed.setPosition inside)
        (ends.advance (begun.trans ordered) upper) rfl

end Turns

/-- Each run goes as far as it can, and by turns runs over two groups end where a single run over
both of them does. -/
theorem consume_of_run {data : Value} {unifyBreaks : Bool} {made : Created}
    (accepted : create data unifyBreaks = .ok made) (requests : List Request)
    {first second : Value} (valid : ∀ refused, ¬first.RefusedFor refused)
    (valid' : ∀ refused, ¬second.RefusedFor refused) :
    let start := made.cursor.run requests
    ∃ stop other final,
      start.perform (.consume first) = .ok (.moved, { start with position := stop }) ∧
      (∀ index, start.RunEnds first.Covers index ↔ index = stop) ∧
      perform { start with position := stop } (.consume first) =
        .ok (.moved, { start with position := stop }) ∧
      start.perform (.consume second) = .ok (.moved, { start with position := other }) ∧
      ((∀ char, first.Covers char → second.Covers char) → stop ≤ other) ∧
      (∀ outcome, Alternates first second start outcome ↔
        outcome = .ok { start with position := final }) ∧
      (∃ both : Value, both.IsUnion first second) ∧
      ∀ both : Value, both.IsUnion first second →
        start.perform (.consume both) = .ok (.moved, { start with position := final }) := by
  intro start
  have placed : start.WellPlaced := wellPlaced_of_run accepted requests
  obtain ⟨stop, ends⟩ := exists_runEnds valid placed
  obtain ⟨other, ends'⟩ := exists_runEnds valid' placed
  obtain ⟨both, union⟩ := Value.exists_isUnion valid valid'
  obtain ⟨final, ended⟩ := exists_runEnds union.valid placed
  have ended' := (RunEnds.congr union.covers_iff).mp ended
  refine ⟨stop, other, final, ?_, fun index => ?_, ?_, ?_, ?_, fun outcome => ?_, ⟨both, union⟩, ?_⟩
  · exact perform_consume_of_runEnds valid placed ends
  · constructor
    · exact fun ends' => ends'.unique ends
    · rintro rfl
      exact ends
  · exact perform_consume_of_runEnds valid (placed.setPosition ends.le_length)
      (ends.advance ends.position_le (Nat.le_refl stop))
  · exact perform_consume_of_runEnds valid' placed ends'
  · exact fun narrow => ends.le_of_subset narrow ends'
  · have alternates := alternates_of_runEnds valid valid' placed ended'
    constructor
    · exact fun alternates' => alternates'.unique alternates
    · rintro rfl
      exact alternates
  · intro both union
    apply perform_consume_of_runEnds union.valid placed
    exact (RunEnds.congr union.covers_iff).mpr ended'

/-- Of two groups, one with a code of no character, in a text that takes three turns. -/
theorem consume_of_run_by_three_turns :
    create (.text ['x', 'a', 'b', 'b', 'a', 'c']) false =
      .ok ⟨ofText ['x', 'a', 'b', 'b', 'a', 'c'], [.created 6]⟩ ∧
    (∀ refused, ¬(Value.text ['a']).RefusedFor refused) ∧
    (∀ refused, ¬(Value.items .list [.int 98, .int (-1)]).RefusedFor refused) ∧
    ((ofText ['x', 'a', 'b', 'b', 'a', 'c']).run [.moveTo 1]).perform
        (.consume (.text ['a', 'b'])) =
      .ok (.moved, ⟨['x', 'a', 'b', 'b', 'a', 'c'], 6, 5⟩) ∧
    ∀ outcome, Alternates (.text ['a']) (.items .list [.int 98, .int (-1)])
        ((ofText ['x', 'a', 'b', 'b', 'a', 'c']).run [.moveTo 1]) outcome ↔
      outcome = .ok ⟨['x', 'a', 'b', 'b', 'a', 'c'], 6, 5⟩ := by
  have accepted : create (.text ['x', 'a', 'b', 'b', 'a', 'c']) false =
      .ok ⟨ofText ['x', 'a', 'b', 'b', 'a', 'c'], [.created 6]⟩ := rfl
  have valid := Value.not_refusedFor_text ['a']
  have read : memberCodes "consume".toList (.items .list [.int 98, .int (-1)]) = .ok [98, -1] := rfl
  have valid' := (exists_memberCodes_iff _).mp ⟨_, read⟩
  obtain ⟨stop, other, final, _, _, _, _, _, ended, _⟩ :=
    consume_of_run accepted [.moveTo 1] valid valid'
  have turns : Alternates (.text ['a']) (.items .list [.int 98, .int (-1)])
      ((ofText ['x', 'a', 'b', 'b', 'a', 'c']).run [.moveTo 1])
      (.ok ⟨['x', 'a', 'b', 'b', 'a', 'c'], 6, 5⟩) :=
    .moved rfl (by decide) (.moved rfl (by decide) (.settled rfl (by decide)))
  have last := (ended _).mp turns
  exact ⟨accepted, valid, valid', rfl, last ▸ ended⟩

end Cursor
end TextCursor

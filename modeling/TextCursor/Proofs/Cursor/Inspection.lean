import TextCursor.Cursor.Inspection
import TextCursor.Proofs.Cursor.Run

/-! Requests inspected one character at a time answer as they are performed,
and look at no index outside the text. -/
namespace TextCursor.Cursor

/-- The inspection succeeds with that result, and every index it looks at is below the bound. -/
def Reads {α : Type} (bound : Nat) (action : Inspection α) (result : α) : Prop :=
  ∀ seen, ∃ looked, action.run seen = some (result, seen ++ looked) ∧
    ∀ index ∈ looked, 0 ≤ index ∧ index < bound

namespace Reads

variable {α β : Type} {bound : Nat}

theorem pure (result : α) : Reads bound (Pure.pure result) result := by
  intro seen
  exact ⟨[], by simp, by simp⟩

theorem bind {action : Inspection α} {result : α} {after : α → Inspection β} {final : β}
    (first : Reads bound action result) (last : Reads bound (after result) final) :
    Reads bound (action >>= after) final := by
  intro seen
  obtain ⟨looked, ran, inside⟩ := first seen
  obtain ⟨further, ended, within⟩ := last (seen ++ looked)
  refine ⟨looked ++ further, ?_, ?_⟩
  · rw [StateT.run_bind, ran]
    simpa using ended
  · intro index member
    cases List.mem_append.mp member with
    | inl early => exact inside index early
    | inr late => exact within index late

theorem map {action : Inspection α} {result : α} (f : α → β) (read : Reads bound action result) :
    Reads bound (do return f (← action)) (f result) :=
  read.bind (.pure _)

theorem item {c : Cursor} {index : Nat} {char : Char} (found : c.text[index]? = some char)
    (below : index < bound) : Reads bound (c.item index) char := by
  intro seen
  refine ⟨[(index : Int)], ?_, ?_⟩
  · simp [Cursor.item, Text.item?, StateT.run, found]
  · simp [below]

end Reads

variable {c : Cursor}

theorem reads_lookAt (sized : c.length = c.text.length) (index : Int) :
    Reads c.length (c.lookAt index) (c.charAt? index) := by
  unfold lookAt charAt?
  split
  case isTrue inside =>
    obtain ⟨n, rfl⟩ := Int.eq_ofNat_of_zero_le inside.1
    have below : n < c.length := by omega
    have found : c.text[n]? = some c.text[n] := List.getElem?_eq_getElem (sized ▸ below)
    rw [Int.toNat_natCast, found]
    exact (Reads.item found below).map some
  case isFalse => exact .pure none

theorem exists_drop_eq_cons (sized : c.length = c.text.length) {offset : Nat}
    (below : offset < c.length) :
    ∃ char, c.text[offset]? = some char ∧
      c.text.drop offset = char :: c.text.drop (offset + 1) := by
  have bound : offset < c.text.length := sized ▸ below
  exact ⟨c.text[offset], List.getElem?_eq_getElem bound, List.drop_eq_getElem_cons bound⟩

theorem drop_eq_nil (sized : c.length = c.text.length) {offset : Nat}
    (beyond : ¬offset < c.length) : c.text.drop offset = [] :=
  List.drop_eq_nil_of_le (by omega)

theorem reads_scanFrom (sized : c.length = c.text.length) (wanted : Char → Bool) (offset : Nat) :
    Reads c.length (c.scanFrom wanted offset)
      (((c.text.drop offset).findIdx? wanted).map (· + offset)) := by
  induction offset using scanFrom.induct c with
  | case1 offset below ih =>
    obtain ⟨char, found, split⟩ := exists_drop_eq_cons sized below
    rw [scanFrom, if_pos below, split, List.findIdx?_cons]
    apply (Reads.item found below).bind
    by_cases accepted : wanted char
    · rw [if_pos accepted, if_pos accepted, Option.map_some, Nat.zero_add]
      exact .pure (some offset)
    · rw [if_neg accepted, if_neg accepted, Option.map_map]
      simpa [Function.comp_def, Nat.add_assoc, Nat.add_comm 1] using ih
  | case2 offset beyond =>
    rw [scanFrom, if_neg beyond, drop_eq_nil sized beyond]
    exact .pure none

theorem reads_skipFrom (sized : c.length = c.text.length) (wanted : Char → Bool) (offset : Nat) :
    Reads c.length (c.skipFrom wanted offset)
      (offset + ((c.text.drop offset).takeWhile wanted).length) := by
  induction offset using skipFrom.induct c with
  | case1 offset below ih =>
    obtain ⟨char, found, split⟩ := exists_drop_eq_cons sized below
    rw [skipFrom, if_pos below, split]
    apply (Reads.item found below).bind
    by_cases accepted : wanted char
    · rw [if_pos accepted, List.takeWhile_cons_of_pos accepted, List.length_cons,
        show offset + (((c.text.drop (offset + 1)).takeWhile wanted).length + 1) =
          offset + 1 + ((c.text.drop (offset + 1)).takeWhile wanted).length by omega]
      exact ih
    · rw [if_neg accepted, List.takeWhile_cons_of_neg accepted]
      exact .pure offset
  | case2 offset beyond =>
    rw [skipFrom, if_neg beyond, drop_eq_nil sized beyond]
    exact .pure offset

/-- Inspected or performed, a request has the same outcome, and it looks at the text only. -/
theorem reads_inspect (placed : c.WellPlaced) (request : Request) :
    Reads c.length (c.inspect request) (c.perform request) := by
  have sized := placed.length_eq
  cases request with
  | current | charAt | peek | behind => exact (reads_lookAt sized _).map _
  | next form =>
    simp only [inspect, perform, next, atEnd, decide_eq_true_eq]
    split
    case isTrue => exact .pure _
    case isFalse => exact (reads_lookAt sized _).map _
  | findNextOf targets =>
    simp only [inspect, perform, findNextOf]
    cases groupCodes "find_next_of".toList targets with
    | error rejected => exact .pure _
    | ok codes => exact (reads_scanFrom sized (isAmong codes) _).map _
  | consume targets =>
    simp only [inspect, perform, consume]
    cases groupCodes "consume".toList targets with
    | error rejected => exact .pure _
    | ok codes => exact (reads_skipFrom sized (isAmong codes) _).map _
  | _ => exact .pure _

theorem position_of_seek {moved : Cursor} {operation : Text} {target : Int}
    (sought : c.seek operation target = .ok moved) : (moved.position : Int) = target := by
  obtain ⟨lower, _, rfl⟩ := seek_eq_ok_iff.mp sought
  exact Int.toNat_of_nonneg lower

/-- Wherever requests have led a cursor, it holds the text it was created with, it
stands inside, at the very integer a move asked for, and whatever is requested
next looks at indices from zero up to the length only and never fails to find a
character there. -/
theorem run_inside {data : Value} {unifyBreaks : Bool} {made : Created}
    (accepted : create data unifyBreaks = .ok made) (requests : List Request) :
    (∃ decoded, data.decodeText = .ok decoded ∧
      made.cursor.text = if unifyBreaks then decoded.unifyBreaks else decoded) ∧
    made.cursor.length = made.cursor.text.length ∧
    (made.cursor.run requests).text = made.cursor.text ∧
    (made.cursor.run requests).length = made.cursor.length ∧
    (made.cursor.run requests).position ≤ made.cursor.length ∧
    (∀ step ∈ made.cursor.trace requests, step.position ≤ made.cursor.length) ∧
    (∀ steps moved, (made.cursor.run requests).moveBy steps = .ok moved →
      (moved.position : Int) = (made.cursor.run requests).position + steps) ∧
    (∀ target moved, (made.cursor.run requests).moveTo target = .ok moved →
      (moved.position : Int) = target) ∧
    ∀ request, ∃ looked,
      ((made.cursor.run requests).inspect request).run [] =
        some ((made.cursor.run requests).perform request, looked) ∧
      ∀ index ∈ looked, 0 ≤ index ∧ index < made.cursor.length := by
  have placed := wellPlaced_of_create accepted
  have follows := follows_run made.cursor requests
  obtain ⟨decoded, read, same⟩ := create_eq_ok accepted
  refine ⟨⟨decoded, read, by rw [same]; rfl⟩, placed.length_eq, follows.text_eq, follows.length_eq,
    follows.position_le placed, fun _ member => position_le_of_mem_trace placed member,
    fun _ _ => position_of_seek, fun _ _ => position_of_seek, fun request => ?_⟩
  rw [← follows.length_eq]
  exact reads_inspect (follows.wellPlaced placed) request []

/-- A move before the start fails, and the search after it starts where the cursor still is. -/
theorem run_inside_after_failed_move :
    create (.text ['a', '\r', '\n', 'b']) true =
      .ok ⟨ofText ['a', '\n', 'b'], [.unifiedBreaks 4 3, .created 3]⟩ ∧
    ((ofText ['a', '\n', 'b']).run [.moveTo 1, .moveBy (-2)]).position ≤ 3 ∧
    ∃ looked, (((ofText ['a', '\n', 'b']).run [.moveTo 1, .moveBy (-2)]).inspect
        (.findNextOf (.text ['b']))).run [] =
        some (((ofText ['a', '\n', 'b']).run [.moveTo 1, .moveBy (-2)]).perform
          (.findNextOf (.text ['b'])), looked) ∧
      ∀ index ∈ looked, 0 ≤ index ∧ index < 3 := by
  have accepted : create (.text ['a', '\r', '\n', 'b']) true =
      .ok ⟨ofText ['a', '\n', 'b'], [.unifiedBreaks 4 3, .created 3]⟩ := by rfl
  obtain ⟨_, _, _, _, inside, _, _, _, inspected⟩ :=
    run_inside accepted [.moveTo 1, .moveBy (-2)]
  exact ⟨accepted, inside, inspected (.findNextOf (.text ['b']))⟩

end TextCursor.Cursor

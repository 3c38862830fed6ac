import TextCursor.Proofs.Cursor.Run
import TextCursor.Proofs.Text.Slice

/-! Extractions lose nothing. What is cut out between cuts in order makes up, put together, what
is cut out from the first of them to the last, and every part is read where it came from. -/
namespace TextCursor.Cursor

variable {c : Cursor}

theorem perform_substring_of_le {start : Int} {stop : Option Int} (lower : 0 ≤ start)
    (ordered : start ≤ stop.getD c.length) (upper : stop.getD c.length ≤ c.length) :
    c.perform (.substring start stop) =
      .ok (.text (c.text.slice start.toNat (stop.getD c.length).toNat), c) :=
  lift_map_eq_ok_iff.mpr ⟨_, c.substring_of_le lower ordered upper, rfl⟩

theorem le_getLastD_of_pairwise {first : Int} {cuts : List Int}
    (sorted : (first :: cuts).Pairwise (· ≤ ·)) : first ≤ cuts.getLastD first := by
  rcases List.mem_cons.mp (List.getLastD_mem_cons (l := cuts) (a := first)) with same | later
  · exact Int.le_of_eq same.symm
  · exact List.rel_of_pairwise_cons sorted later

/-- The pieces between the cuts join up, each to the next. -/
theorem trace_extractions {first : Int} {cuts : List Int}
    (sorted : (first :: cuts).Pairwise (· ≤ ·))
    (inside : ∀ cut ∈ first :: cuts, 0 ≤ cut ∧ cut ≤ c.length) :
    ∃ pieces : List Text,
      c.trace (Request.extractions (first :: cuts)) =
        pieces.map (fun piece => ⟨.ok (.text piece), c.position⟩) ∧
      pieces.flatten = c.text.slice first.toNat (cuts.getLastD first).toNat := by
  induction cuts generalizing first with
  | nil => exact ⟨[], rfl, (Text.slice_self _ _).symm⟩
  | cons cut cuts ih =>
    obtain ⟨lower, others⟩ := List.forall_mem_cons.mp inside
    obtain ⟨below, ordered⟩ := List.pairwise_cons.mp sorted
    have next : first ≤ cut := below cut List.mem_cons_self
    have last : cut ≤ cuts.getLastD cut := le_getLastD_of_pairwise ordered
    have here : c.step (.substring first (some cut)) =
        (.ok (.text (c.text.slice first.toNat cut.toNat)), c) :=
      step_of_ok (perform_substring_of_le lower.1 next (others cut List.mem_cons_self).2)
    obtain ⟨pieces, traced, joined⟩ := ih ordered others
    refine ⟨c.text.slice first.toNat cut.toNat :: pieces, ?_, ?_⟩
    · rw [Request.extractions, trace_cons, here, traced]
      rfl
    · rw [List.flatten_cons, joined, List.getLastD_cons]
      apply Text.slice_append_slice
      · exact Int.toNat_le_toNat next
      · exact Int.toNat_le_toNat last

theorem perform_charAt_of_getElem? {index : Nat} {char : Char}
    (sized : c.length = c.text.length) (read : c.text[index]? = some char) (form : Form) :
    c.perform (.charAt form index) = .ok (form.answer (some char), c) := by
  rw [perform, charAt?_natCast sized, read]

/-- Cut in order anywhere, the text comes back in pieces that make up the part from the first cut
to the last, and so the whole of it. A piece has the characters that it was cut out of, also
for a cursor that is created from it. -/
theorem partition_of_run {data : Value} {unifyBreaks : Bool} {made : Created}
    (accepted : create data unifyBreaks = .ok made) (requests : List Request) :
    let c := made.cursor.run requests
    (∀ (first : Int) (cuts : List Int), (first :: cuts).Pairwise (· ≤ ·) →
      (∀ cut ∈ first :: cuts, 0 ≤ cut ∧ cut ≤ c.length) →
      ∃ pieces : List Text,
        c.trace (Request.extractions (first :: cuts)) =
          pieces.map (fun piece => ⟨.ok (.text piece), c.position⟩) ∧
        c.perform (.substring first (some (cuts.getLastD first))) =
          .ok (.text pieces.flatten, c) ∧
        (first = 0 → cuts.getLastD first = c.length → pieces.flatten = c.text)) ∧
    (∃ before after, c.perform (.substring 0 (some c.position)) = .ok (.text before, c) ∧
      c.perform (.substring c.position) = .ok (.text after, c) ∧ before ++ after = c.text) ∧
    ∀ (start : Int) (stop : Option Int), 0 ≤ start → start ≤ stop.getD c.length →
      stop.getD c.length ≤ c.length →
      ∃ s fresh, c.perform (.substring start stop) = .ok (.text s, c) ∧
        start + s.length = stop.getD c.length ∧ create (.text s) false = .ok fresh ∧
        ∀ index < s.length, ∃ char, s[index]? = some char ∧ ∀ form,
          c.perform (.charAt form (start + index)) = .ok (form.answer (some char), c) ∧
          fresh.cursor.perform (.charAt form index) =
            .ok (form.answer (some char), fresh.cursor) := by
  intro c
  have placed : c.WellPlaced := wellPlaced_of_run accepted requests
  have sized := placed.length_eq
  refine ⟨fun first cuts sorted inside => ?_, ?_, fun start stop lower ordered upper => ?_⟩
  · obtain ⟨pieces, traced, joined⟩ := trace_extractions sorted inside
    have last := inside _ List.getLastD_mem_cons
    refine ⟨pieces, traced, ?_, fun begun ended => ?_⟩
    · rw [joined]
      exact perform_substring_of_le (inside first List.mem_cons_self).1
        (le_getLastD_of_pairwise sorted) last.2
    · rw [joined, ended, begun, Int.toNat_natCast, sized]
      exact Text.slice_whole c.text
  · have below := placed.position_le
    refine ⟨_, _, perform_substring_of_le (Int.le_refl 0) (Int.natCast_nonneg _)
      (Int.ofNat_le.mpr below), perform_substring_of_le (Int.natCast_nonneg _)
      (Int.ofNat_le.mpr below) (Int.le_refl _), ?_⟩
    simp only [Option.getD_some, Option.getD_none, Int.toNat_natCast, Int.toNat_zero]
    rw [Text.slice_append_slice (Nat.zero_le _) below, sized, Text.slice_whole]
  · refine ⟨_, _, perform_substring_of_le lower ordered upper, ?_, rfl, ?_⟩
    · rw [Text.length_slice (by omega)]
      omega
    · intro index short
      have cut := List.getElem?_eq_getElem short
      have read := (Text.getElem?_slice_of_lt short).symm.trans cut
      have offset : start + index = (start.toNat + index : Nat) := by omega
      refine ⟨_, cut, fun form => ⟨?_, perform_charAt_of_getElem? rfl cut form⟩⟩
      rw [offset]
      exact perform_charAt_of_getElem? sized read form

/-- A cut that is made twice gives an empty piece, and a part without an end goes on to the end
of the text. -/
theorem partition_of_run_at_repeated_cut :
    create (.text ['a', 'b', 'c']) false = .ok ⟨ofText ['a', 'b', 'c'], [.created 3]⟩ ∧
    ([0, 2, 2, 3] : List Int).Pairwise (· ≤ ·) ∧
    (∃ pieces : List Text, pieces.flatten = ['a', 'b', 'c'] ∧
      ((ofText ['a', 'b', 'c']).run [.next .char]).trace
          [.substring 0 (some 2), .substring 2 (some 2), .substring 2 (some 3)] =
        pieces.map fun piece => ⟨.ok (.text piece), 1⟩) ∧
    ((ofText ['a', 'b', 'c']).run [.next .char]).perform (.substring 1) =
      .ok (.text ['b', 'c'], ⟨['a', 'b', 'c'], 3, 1⟩) ∧
    (ofText ['b', 'c']).perform (.charAt .char 1) = .ok (.text ['c'], ofText ['b', 'c']) := by
  have accepted : create (.text ['a', 'b', 'c']) false =
      .ok ⟨ofText ['a', 'b', 'c'], [.created 3]⟩ := rfl
  have sorted : ([0, 2, 2, 3] : List Int).Pairwise (· ≤ ·) := by decide
  obtain ⟨divided, _, parts⟩ := partition_of_run accepted [.next .char]
  obtain ⟨pieces, traced, _, whole⟩ := divided 0 [2, 2, 3] sorted (by decide)
  obtain ⟨s, fresh, performed, _, created, read⟩ := parts 1 none (by decide) (by decide) (by decide)
  cases performed
  cases created
  obtain ⟨char, found, answered⟩ := read 1 (by decide)
  cases found
  exact ⟨accepted, sorted, ⟨pieces, whole rfl rfl, traced⟩, rfl, (answered .char).2⟩

end TextCursor.Cursor

import TextCursor.Proofs.Cursor.Run
import TextCursor.Proofs.Cursor.UnifiedBreaks
import TextCursor.Proofs.Location.Coordinates

/-! Locations in a text whose breaks were unified. What is read up to a cut of the
original is unified to what is read up to an offset of the result, and the
location of that offset tells the breaks and the last line of the original. -/
namespace TextCursor.Cursor

open LineBreak

theorem perform_location_some (c : Cursor) (offset : Nat) :
    c.perform (.location (some offset)) =
      .ok (.location (Location.afterReading (c.text.take offset)), c) := by
  rw [perform, locate, Option.getD_some, Location.ofPosition_of_nonneg _ (Int.natCast_nonneg _)]
  rfl

theorem afterReading_unifyBreaks (s : Text) :
    Location.afterReading s.unifyBreaks =
      ⟨1 + s.unifyBreaks.count '\n',
        1 + (s.reverse.takeWhile fun c => c ≠ '\r' ∧ c ≠ '\n').length⟩ := by
  rw [Location.afterReading_eq, Nat.add_comm 1, Nat.add_comm 1, unifyBreaks_eq_scan,
    takeWhile_reverse_scan]

theorem unifyBreaks_take_prefix {s : Text} {position : Nat}
    (apart : (s.take position).getLast? = some '\r' → (s.drop position).head? ≠ some '\n') :
    Text.unifyBreaks (s.take position) <+: scan '\r' '\n' s := by
  refine ⟨scan '\r' '\n' (s.drop position), ?_⟩
  rw [unifyBreaks_eq_scan, ← scan_append_scan apart, List.take_append_drop]

/-- Anywhere but inside a pair, the text up to a position becomes the start of the
unified text. The location where that start ends, asked for wherever the cursor
stands, is one line further for each break before the position, and one column
further for each character between the last of them and the position. -/
theorem location_of_unified (s : Text) (position : Nat)
    (apart : (s.take position).getLast? = some '\r' → (s.drop position).head? ≠ some '\n') :
    let before : Text := s.take position
    let offset := before.unifyBreaks.length
    ∃ made, create (.text s) true = .ok made ∧
      before.unifyBreaks <+: made.cursor.text ∧
      offset ≤ made.cursor.length ∧
      ∃ breaks,
        breaks + (before.zip before.tail).count ('\r', '\n') =
          before.count '\r' + before.count '\n' ∧
        (pieces '\r' '\n' before).length = 1 + breaks ∧
        ∀ requests, (made.cursor.run requests).perform (.location (some offset)) =
          .ok (.location ⟨1 + breaks,
              1 + (before.reverse.takeWhile fun c => c ≠ '\r' ∧ c ≠ '\n').length⟩,
            made.cursor.run requests) := by
  intro before offset
  have start : before.unifyBreaks <+: scan '\r' '\n' s := unifyBreaks_take_prefix apart
  refine ⟨_, create_of_decodeText rfl, start, start.length_le, before.unifyBreaks.count '\n',
    ?_, ?_, fun requests => ?_⟩
  · rw [unifyBreaks_eq_scan, count_scan (by decide)]
  · rw [← splitOn_scan, Text.length_splitOn, unifyBreaks_eq_scan, Nat.add_comm]
  · have read : ((ofText (scan '\r' '\n' s)).run requests).text.take offset =
        before.unifyBreaks := by
      rw [(follows_run _ requests).text_eq]
      exact (List.prefix_iff_eq_take.mp start).symm
    rw [perform_location_some, read, afterReading_unifyBreaks]

/-- Right after a return that no feed follows, behind a pair and before more text. -/
theorem location_of_unified_after_return :
    (['a', '\r', '\n', '\r'].getLast? = some '\r' → ['b', '\n', 'c'].head? ≠ some '\n') ∧
    create (.text ['a', '\r', '\n', '\r', 'b', '\n', 'c']) true =
      .ok ⟨ofText ['a', '\n', '\n', 'b', '\n', 'c'], [.unifiedBreaks 7 6, .created 6]⟩ ∧
    ((ofText ['a', '\n', '\n', 'b', '\n', 'c']).run [.moveTo 5]).perform (.location (some 3)) =
      .ok (.location ⟨3, 1⟩, ⟨['a', '\n', '\n', 'b', '\n', 'c'], 6, 5⟩) := by
  have apart : ['a', '\r', '\n', '\r'].getLast? = some '\r' →
      ['b', '\n', 'c'].head? ≠ some '\n' := fun _ => by decide
  have accepted : create (.text ['a', '\r', '\n', '\r', 'b', '\n', 'c']) true =
      .ok ⟨ofText ['a', '\n', '\n', 'b', '\n', 'c'], [.unifiedBreaks 7 6, .created 6]⟩ := by rfl
  obtain ⟨made, created, _, _, breaks, counted, _, located⟩ :=
    location_of_unified ['a', '\r', '\n', '\r', 'b', '\n', 'c'] 4 apart
  cases accepted.symm.trans created
  obtain rfl : breaks = 2 := Nat.add_right_cancel (m := 1) counted
  exact ⟨apart, accepted, located [.moveTo 5]⟩

end TextCursor.Cursor

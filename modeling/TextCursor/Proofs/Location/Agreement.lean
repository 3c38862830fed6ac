import TextCursor.Proofs.Cursor.Run
import TextCursor.Proofs.Location.Table

/-! Counting, lookup and reading give the same lines and columns. They differ in
the offsets they take: counting refuses a negative one, lookup moves every offset
into the source, and reading starts at the first character. -/
namespace TextCursor

theorem Cursor.perform_location (c : Cursor) :
    c.perform (.location none) =
      .ok (.location ((LineTable.ofText c.text).locate c.position), c) := by
  have located : c.locate none = .ok ((LineTable.ofText c.text).locate c.position) := by
    rw [Cursor.locate, Option.getD_none, Location.ofPosition_of_nonneg _ (Int.natCast_nonneg _),
      LineTable.locate_ofText]
  rw [Cursor.perform, located]
  rfl

/-- A lookup finds what counting finds at the nearest offset that is not negative,
and both find what reading finds. The table of a text keeps locating its cursor,
wherever a run leads. -/
theorem lookup_agrees_with_counting_and_reading :
    (∀ (source : Text) (position : Int), ∃ line column,
      Location.lineOffset source (max 0 position) = .ok line ∧
      Location.columnOffset source (max 0 position) = .ok column ∧
      (LineTable.ofText source).locate position = ⟨line + 1, column + 1⟩) ∧
    (∀ (source : Text) (position : Nat),
      (LineTable.ofText source).locate position =
        Location.afterReading (source.take position) ∧
      Location.ofPosition source position =
        .ok (Location.afterReading (source.take position))) ∧
    ∀ (c : Cursor) (requests : List Request),
      (c.run requests).perform (.location none) =
        .ok (.location ((LineTable.ofText c.text).locate (c.run requests).position),
          c.run requests) := by
  refine ⟨fun source position => ?_, fun source position => ?_, fun c requests => ?_⟩
  · have nonneg : 0 ≤ max 0 position := Int.le_max_left 0 position
    have offset : (max 0 position).toNat = position.toNat := by omega
    refine ⟨_, _, Location.lineOffset_of_nonneg source nonneg,
      Location.columnOffset_of_nonneg source nonneg, ?_⟩
    rw [offset, LineTable.locate_ofText, Location.afterReading_take]
  · exact ⟨LineTable.locate_ofText source position,
      Location.ofPosition_of_nonneg source (Int.natCast_nonneg position)⟩
  · rw [Cursor.perform_location, (Cursor.follows_run c requests).text_eq]

end TextCursor

import TextCursor.Proofs.Cursor.Creation
import TextCursor.Proofs.Text.EncodedBreak

/-! Cursors that are created with unified line breaks, of a text and of its bytes. -/
namespace TextCursor.Cursor

open LineBreak

theorem unifyBreaks_eq_scan (s : Text) : s.unifyBreaks = scan '\r' '\n' s :=
  unify_eq_scan (by decide) s

theorem create_of_decodeText {data : Value} {decoded : Text}
    (read : data.decodeText = .ok decoded) :
    create data true =
      .ok ⟨ofText (scan '\r' '\n' decoded),
        [.unifiedBreaks decoded.length (scan '\r' '\n' decoded).length,
          .created (scan '\r' '\n' decoded).length]⟩ := by
  rw [create_eq_map, read, ← unifyBreaks_eq_scan]
  rfl

theorem exists_create_iff (data : Value) (unifyBreaks : Bool) (cursor : Cursor) :
    (∃ log, create data unifyBreaks = .ok ⟨cursor, log⟩) ↔
      ∃ decoded, data.decodeText = .ok decoded ∧
        cursor = ofText (if unifyBreaks then decoded.unifyBreaks else decoded) := by
  constructor
  · intro made
    obtain ⟨log, accepted⟩ := made
    exact create_eq_ok accepted
  · intro made
    obtain ⟨decoded, read, rfl⟩ := made
    rw [create_eq_map, read]
    cases unifyBreaks with
    | false => exact ⟨_, rfl⟩
    | true => exact ⟨_, rfl⟩

theorem exists_create_bytes_iff (kind : BytesKind) (bytes : List UInt8) :
    (∃ made, create (.bytes kind bytes) true = .ok made) ↔ Utf8.WellFormed bytes := by
  rw [Utf8.wellFormed_iff]
  constructor
  · intro created
    obtain ⟨made, accepted⟩ := created
    obtain ⟨decoded, read, _⟩ := create_eq_ok accepted
    exact ⟨decoded, (decodeText_bytes_eq_ok_iff kind bytes decoded).mp read⟩
  · intro encoded
    obtain ⟨s, spelled⟩ := encoded
    exact ⟨_, create_of_decodeText ((decodeText_bytes_eq_ok_iff kind bytes s).mpr spelled)⟩

/-- Two replacements over the whole text do what a single scan does: no carriage
return is left, the lines are the pieces between the breaks, and each pair costs
one character, as the two lengths in the log tell. -/
theorem create_unified (s : Text) :
    ∃ made, create (.text s) true = .ok made ∧
      made.cursor.text = replaceAll ['\r'] ['\n'] (replaceAll ['\r', '\n'] ['\n'] s) ∧
      made.cursor.text = scan '\r' '\n' s ∧
      '\r' ∉ made.cursor.text ∧
      made.cursor.text.splitOn '\n' = pieces '\r' '\n' s ∧
      made.cursor.length = made.cursor.text.length ∧
      made.cursor.length + (s.zip s.tail).count ('\r', '\n') = s.length ∧
      made.log.map LogEntry.message =
        ["DEBUG Normalized line endings: ".toList ++ Text.ofNat s.length ++ " -> ".toList ++
            Text.ofNat made.cursor.length ++ " characters".toList,
          "DEBUG StringWalker created: length=".toList ++ Text.ofNat made.cursor.length] ∧
      ∀ kind, create (.bytes kind (Utf8.encode s)) true = .ok made := by
  have distinct : '\r' ≠ '\n' := by decide
  refine ⟨_, create_of_decodeText rfl, ?_, rfl, notMem_scan distinct s, splitOn_scan s, rfl,
    length_scan distinct s, rfl, fun kind => ?_⟩
  · rw [← unify_eq_replaceAll distinct, unify_eq_scan distinct]
    rfl
  · exact create_of_decodeText ((decodeText_bytes_eq_ok_iff kind _ s).mpr rfl)

/-- Bytes are accepted and read alike whether their breaks are unified after the
decoding or, byte by byte, before it: the bytes of a break are never part of
another character, and only well-formed bytes become well formed. -/
theorem create_bytes_unified (kind kind' : BytesKind) (bytes : List UInt8) :
    let unified := replaceAll [0x0d] [0x0a] (replaceAll [0x0d, 0x0a] [0x0a] bytes)
    (∀ cursor, (∃ log, create (.bytes kind bytes) true = .ok ⟨cursor, log⟩) ↔
      ∃ log, create (.bytes kind' unified) false = .ok ⟨cursor, log⟩) ∧
    ((∃ made, create (.bytes kind bytes) true = .ok made) ↔ Utf8.WellFormed bytes) ∧
    (Utf8.WellFormed unified ↔ Utf8.WellFormed bytes) ∧
    ∀ c, (0x0d ∈ String.utf8EncodeChar c ↔ c = '\r') ∧
      (0x0a ∈ String.utf8EncodeChar c ↔ c = '\n') := by
  intro unified
  have scanned : unified = scan 0x0d 0x0a bytes := by
    rw [← unify_eq_scan (by decide), unify_eq_replaceAll (by decide)]
  refine ⟨fun cursor => ?_, exists_create_bytes_iff kind bytes,
    scanned ▸ Utf8.wellFormed_scan_iff bytes,
    fun c => ⟨Utf8.return_mem_encodeChar_iff c, Utf8.feed_mem_encodeChar_iff c⟩⟩
  simp only [exists_create_iff, decodeText_bytes_eq_ok_iff, if_true, Bool.false_eq_true, if_false,
    unifyBreaks_eq_scan, scanned, Utf8.scan_eq_encode_iff]
  constructor
  · intro unifiedAfter
    obtain ⟨original, spelled, rfl⟩ := unifiedAfter
    exact ⟨_, ⟨original, spelled, rfl⟩, rfl⟩
  · intro unifiedBefore
    obtain ⟨_, ⟨original, spelled, rfl⟩, rfl⟩ := unifiedBefore
    exact ⟨original, spelled, rfl⟩

end TextCursor.Cursor

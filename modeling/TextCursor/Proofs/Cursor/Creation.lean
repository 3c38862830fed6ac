import TextCursor.Cursor.Basic
import TextCursor.Proofs.Text.Malformed

/-! What a cursor is created from. Bytes are taken if they are well-formed UTF-8,
and no two of them give the same cursor; the error for all others tells where they
first go wrong. -/
namespace TextCursor.Cursor

theorem create_eq_map (data : Value) (unifyBreaks : Bool) :
    create data unifyBreaks = data.decodeText.map fun decoded =>
      if unifyBreaks then
        ⟨ofText decoded.unifyBreaks, [.unifiedBreaks decoded.length decoded.unifyBreaks.length,
          .created decoded.unifyBreaks.length]⟩
      else ⟨ofText decoded, [.created decoded.length]⟩ := by
  unfold create
  cases data.decodeText with
  | error error => rfl
  | ok decoded => cases unifyBreaks <;> rfl

theorem create_eq_ok {data : Value} {unifyBreaks : Bool} {made : Created}
    (accepted : create data unifyBreaks = .ok made) :
    ∃ decoded, data.decodeText = .ok decoded ∧
      made.cursor = ofText (if unifyBreaks then decoded.unifyBreaks else decoded) := by
  rw [create_eq_map] at accepted
  cases read : data.decodeText with
  | error error =>
    rw [read] at accepted
    cases accepted
  | ok decoded =>
    rw [read] at accepted
    refine ⟨decoded, rfl, ?_⟩
    cases unifyBreaks <;> cases accepted <;> rfl

theorem decodeText_bytes_eq_ok_iff (kind : BytesKind) (bytes : List UInt8) (s : Text) :
    (Value.bytes kind bytes).decodeText = .ok s ↔ bytes = Utf8.encode s := by
  rw [← Utf8.decode_eq_ok_iff, Value.decodeText]
  cases Utf8.decode bytes with
  | error malformed => simp [Except.mapError]
  | ok decoded => simp [Except.mapError]

theorem create_encode (kind : BytesKind) (s : Text) :
    create (.bytes kind (Utf8.encode s)) false = .ok ⟨ofText s, [.created s.length]⟩ := by
  rw [create_eq_map, (decodeText_bytes_eq_ok_iff kind _ s).mpr rfl]
  rfl

theorem encode_text_of_create {kind : BytesKind} {bytes : List UInt8} {made : Created}
    (accepted : create (.bytes kind bytes) false = .ok made) :
    Utf8.encode made.cursor.text = bytes := by
  obtain ⟨decoded, read, same⟩ := create_eq_ok accepted
  rw [same, (decodeText_bytes_eq_ok_iff kind bytes decoded).mp read]
  rfl

/-- Creation from bytes undoes the encoding of a text and accepts nothing else. -/
theorem create_bytes_iff_wellFormed :
    (∀ kind s, ∃ made, create (.bytes kind (Utf8.encode s)) false = .ok made ∧
      made.cursor.text = s ∧ made.cursor.length = s.length) ∧
    (∀ kind bytes made, create (.bytes kind bytes) false = .ok made →
      Utf8.encode made.cursor.text = bytes) ∧
    (∀ kind bytes, (∃ made, create (.bytes kind bytes) false = .ok made) ↔
      Utf8.WellFormed bytes) ∧
    ∀ kind bytes made kind' bytes' made', create (.bytes kind bytes) false = .ok made →
      create (.bytes kind' bytes') false = .ok made' →
      made.cursor.text = made'.cursor.text → bytes = bytes' := by
  refine ⟨fun kind s => ⟨_, create_encode kind s, rfl, rfl⟩,
    fun _ _ _ accepted => encode_text_of_create accepted, fun kind bytes => ?_, ?_⟩
  · rw [Utf8.wellFormed_iff]
    constructor
    · intro ⟨made, accepted⟩
      exact ⟨made.cursor.text, (encode_text_of_create accepted).symm⟩
    · intro ⟨s, spelled⟩
      rw [spelled]
      exact ⟨_, create_encode kind s⟩
  · intro kind bytes made kind' bytes' made' accepted accepted' same
    rw [← encode_text_of_create accepted, ← encode_text_of_create accepted', same]

/-- One character of each length: no other bytes give these four. -/
theorem create_bytes_of_each_length :
    Utf8.WellFormed [0x41, 0xc3, 0xa9, 0xe2, 0x82, 0xac, 0xf4, 0x8f, 0xbf, 0xbf] ∧
    Utf8.encode (ofText ['A']).text = [0x41] ∧
    [0x41, 0xc3, 0xa9, 0xe2, 0x82, 0xac, 0xf4, 0x8f, 0xbf, 0xbf] =
      Utf8.encode ['A', 'é', '€', Char.ofNat 0x10ffff] := by
  obtain ⟨made, encoded, formed, same⟩ := create_bytes_iff_wellFormed
  have accepted :
      create (.bytes .view [0x41, 0xc3, 0xa9, 0xe2, 0x82, 0xac, 0xf4, 0x8f, 0xbf, 0xbf]) false =
        .ok ⟨ofText ['A', 'é', '€', Char.ofNat 0x10ffff], [.created 4]⟩ := rfl
  refine ⟨(formed .view _).mp ⟨_, accepted⟩, encoded .buffer [0x41] ⟨ofText ['A'], _⟩ rfl, ?_⟩
  obtain ⟨other, accepted', text, _⟩ := made .constant ['A', 'é', '€', Char.ofNat 0x10ffff]
  exact same _ _ _ _ _ _ accepted accepted' text.symm

theorem create_bytes_eq_malformed_iff (kind : BytesKind) (bytes : List UInt8)
    (unifyBreaks : Bool) (error : CreationError) :
    create (.bytes kind bytes) unifyBreaks = .error error ↔
      ∃ m, error = .malformed m ∧ Utf8.decode bytes = .error m := by
  rw [create_eq_map, Value.decodeText]
  cases Utf8.decode bytes with
  | error malformed => simp [Except.mapError, Except.map, eq_comm]
  | ok decoded => simp [Except.mapError, Except.map]

/-- The error describes the bytes, as no other does, and its message has the offsets of the
first and of the last byte at fault. -/
theorem create_bytes_eq_error_iff (kind : BytesKind) (bytes : List UInt8) (unifyBreaks : Bool)
    (error : CreationError) :
    (create (.bytes kind bytes) unifyBreaks = .error error ↔
      ∃ m : Utf8.Malformed, error = .malformed m ∧ m.Describes bytes) ∧
    ∀ m, (CreationError.malformed m).message =
      "'utf-8' codec can't decode ".toList ++
        (if m.stop = m.start + 1 then
          "byte 0x".toList ++ Text.hex 2 m.lead.toNat ++ " in position ".toList ++
            Nat.toDigits 10 m.start
        else
          "bytes in position ".toList ++ Nat.toDigits 10 m.start ++
            '-' :: Nat.toDigits 10 (m.stop - 1)) ++
        ": ".toList ++ m.reason.message := by
  constructor
  · simp only [create_bytes_eq_malformed_iff, Utf8.decode_eq_error_iff]
  · intro m
    have single : m.count = 1 ↔ m.stop = m.start + 1 := by
      rw [Utf8.Malformed.stop]
      omega
    rw [← if_congr single rfl rfl]
    rfl

/-- A letter breaks off a character of four bytes after the second, and these two are at fault. -/
theorem create_bytes_eq_error_iff_of_broken_sequence :
    create (.bytes .buffer [0x41, 0xf0, 0x90, 0x41]) true =
      .error (.malformed ⟨1, 2, 0xf0, .invalidContinuation⟩) ∧
    (⟨1, 2, 0xf0, .invalidContinuation⟩ : Utf8.Malformed).Describes [0x41, 0xf0, 0x90, 0x41] ∧
    (CreationError.malformed ⟨1, 2, 0xf0, .invalidContinuation⟩).message =
      "'utf-8' codec can't decode bytes in position 1-2: invalid continuation byte".toList := by
  have refused : create (.bytes .buffer [0x41, 0xf0, 0x90, 0x41]) true =
      .error (.malformed ⟨1, 2, 0xf0, .invalidContinuation⟩) := rfl
  obtain ⟨described, message⟩ := create_bytes_eq_error_iff .buffer [0x41, 0xf0, 0x90, 0x41] true
    (.malformed ⟨1, 2, 0xf0, .invalidContinuation⟩)
  obtain ⟨m, same, describes⟩ := described.mp refused
  cases same
  exact ⟨refused, describes, message _⟩

end TextCursor.Cursor

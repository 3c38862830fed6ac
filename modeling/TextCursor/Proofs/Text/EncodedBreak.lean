import TextCursor.Proofs.Text.LineBreak
import TextCursor.Proofs.Text.Utf8

/-! Line breaks of a text and of its bytes. The bytes of both breaks occur in the
encodings of these two characters only, so that breaks can be unified before the
decoding or after it. -/
namespace TextCursor.Utf8

open LineBreak

theorem encode_injective {s t : Text} (same : encode s = encode t) : s = t := by
  have decoded := (decode_eq_ok_iff (encode s) t).mpr same
  rw [(decode_eq_ok_iff (encode s) s).mpr rfl] at decoded
  exact Except.ok.inj decoded

theorem Spells.eq_singleton {bytes : List UInt8} {code : Nat} (spelled : Spells bytes code)
    {b : UInt8} (member : b ∈ bytes) (ascii : b.toNat < 0x80) : bytes = [b] ∧ code = b.toNat := by
  cases spelled with
  | one a lead =>
    obtain rfl := List.mem_singleton.mp member
    exact ⟨rfl, rfl⟩
  | two | three | four =>
    simp only [List.mem_cons, List.not_mem_nil, or_false] at member
    rcases member with rfl | rfl | rfl | rfl <;> omega

theorem encodeChar_of_mem {b : UInt8} {c : Char} (member : b ∈ String.utf8EncodeChar c)
    (ascii : b.toNat < 0x80) : String.utf8EncodeChar c = [b] :=
  ((spells_encodeChar c).eq_singleton member ascii).1

theorem mem_encodeChar_iff {b : UInt8} {c d : Char} (alone : String.utf8EncodeChar d = [b])
    (ascii : b.toNat < 0x80) : b ∈ String.utf8EncodeChar c ↔ c = d := by
  constructor
  · intro member
    have same : encode [c] = encode [d] := by
      simp only [encode, List.flatMap_singleton]
      rw [encodeChar_of_mem member ascii, alone]
    exact List.singleton_inj.mp (encode_injective same)
  · intro same
    rw [same, alone]
    exact List.mem_singleton_self b

theorem return_mem_encodeChar_iff (c : Char) : 0x0d ∈ String.utf8EncodeChar c ↔ c = '\r' :=
  mem_encodeChar_iff rfl (by decide)

theorem feed_mem_encodeChar_iff (c : Char) : 0x0a ∈ String.utf8EncodeChar c ↔ c = '\n' :=
  mem_encodeChar_iff rfl (by decide)

theorem encode_return (s : Text) : encode ('\r' :: s) = 0x0d :: encode s := rfl

theorem encode_feed (s : Text) : encode ('\n' :: s) = 0x0a :: encode s := rfl

theorem exists_cons_of_encode {a : UInt8} {bytes : List UInt8} {s : Text}
    (encoded : a :: bytes = encode s) :
    ∃ c tail rest, s = c :: rest ∧ String.utf8EncodeChar c = a :: tail ∧
      bytes = tail ++ encode rest := by
  cases s with
  | nil => cases encoded
  | cons c rest =>
    rw [encode_cons] at encoded
    cases spelled : String.utf8EncodeChar c with
    | nil => exact absurd spelled String.utf8EncodeChar_ne_nil
    | cons b tail =>
      rw [spelled] at encoded
      cases encoded
      exact ⟨c, tail, rest, rfl, spelled, rfl⟩

theorem exists_feed_of_encode {bytes : List UInt8} {s : Text}
    (encoded : 0x0a :: bytes = encode s) :
    ∃ rest, s = '\n' :: rest ∧ bytes = encode rest := by
  obtain ⟨c, tail, rest, rfl, spelled, rfl⟩ := exists_cons_of_encode encoded
  have feed : c = '\n' := (feed_mem_encodeChar_iff c).mp (spelled ▸ List.mem_cons_self)
  rw [feed] at spelled ⊢
  cases spelled
  exact ⟨rest, rfl, rfl⟩

theorem scan_encode (s : Text) : scan 0x0d 0x0a (encode s) = encode (scan '\r' '\n' s) := by
  induction s using reading '\r' '\n' with
  | nil => rfl
  | pair rest ih => rw [encode_return, encode_feed, scan_pair, scan_pair, encode_feed, ih]
  | lone rest single ih =>
    have unpaired : (encode rest).head? ≠ some 0x0a := by
      intro paired
      obtain ⟨bytes, begun⟩ := List.head?_eq_some_iff.mp paired
      obtain ⟨later, rfl, _⟩ := exists_feed_of_encode begun.symm
      exact single rfl
    rw [encode_return, scan_lone unpaired, scan_lone single, encode_feed, ih]
  | other c rest plain ih =>
    have absent := mt (return_mem_encodeChar_iff c).mp plain
    rw [encode_cons, scan_append absent, scan_cons plain, encode_cons, ih]

/-- Between the characters of a text a line feed is a character of its own. -/
theorem exists_feed_of_append {bytes tail : List UInt8} {s : Text} (inside : 0x0a ∉ tail)
    (encoded : 0x0a :: bytes = tail ++ encode s) :
    tail = [] ∧ ∃ rest, s = '\n' :: rest ∧ bytes = encode rest := by
  cases tail with
  | nil => exact ⟨rfl, exists_feed_of_encode encoded⟩
  | cons b tail =>
    cases encoded
    exact absurd List.mem_cons_self inside

/-- Bytes that are an encoding once their breaks are unified were one before. -/
theorem exists_encode_of_scan (bytes tail : List UInt8) (s : Text) (inside : 0x0a ∉ tail)
    (scanned : scan 0x0d 0x0a bytes = tail ++ encode s) :
    ∃ original, bytes = tail ++ encode original := by
  -- One byte at a time the induction comes to stand within a character, before its `tail`.
  induction bytes using reading (0x0d : UInt8) 0x0a generalizing tail s with
  | nil =>
    obtain ⟨rfl, _⟩ := List.append_eq_nil_iff.mp scanned.symm
    exact ⟨[], rfl⟩
  | pair rest ih =>
    rw [scan_pair] at scanned
    obtain ⟨rfl, later, rfl, follows⟩ := exists_feed_of_append inside scanned
    obtain ⟨original, rfl⟩ := ih [] later List.not_mem_nil follows
    exact ⟨'\r' :: '\n' :: original, rfl⟩
  | lone rest single ih =>
    rw [scan_lone single] at scanned
    obtain ⟨rfl, later, rfl, follows⟩ := exists_feed_of_append inside scanned
    obtain ⟨original, rfl⟩ := ih [] later List.not_mem_nil follows
    exact ⟨'\r' :: original, rfl⟩
  | other a rest plain ih =>
    rw [scan_cons plain] at scanned
    cases tail with
    | nil =>
      obtain ⟨c, tail, later, rfl, spelled, follows⟩ := exists_cons_of_encode scanned
      have inner : 0x0a ∉ tail := by
        intro member
        have single := encodeChar_of_mem (spelled ▸ List.mem_cons_of_mem a member) (by decide)
        rw [spelled] at single
        cases single
        cases member
      obtain ⟨original, rfl⟩ := ih tail later inner follows
      exact ⟨c :: original, by rw [encode_cons, spelled]; rfl⟩
    | cons b tail =>
      rw [List.cons_append] at scanned
      obtain ⟨rfl, follows⟩ := List.cons.inj scanned
      obtain ⟨original, rfl⟩ := ih tail s (mt (List.mem_cons_of_mem a) inside) follows
      exact ⟨original, rfl⟩

/-- The unified bytes encode a text just if the bytes encode one that is unified to it. -/
theorem scan_eq_encode_iff (bytes : List UInt8) (s : Text) :
    scan 0x0d 0x0a bytes = encode s ↔
      ∃ original, bytes = encode original ∧ scan '\r' '\n' original = s := by
  constructor
  · intro scanned
    obtain ⟨original, rfl⟩ := exists_encode_of_scan bytes [] s List.not_mem_nil scanned
    rw [List.nil_append, scan_encode] at scanned
    exact ⟨original, rfl, encode_injective scanned⟩
  · intro spelled
    obtain ⟨original, rfl, rfl⟩ := spelled
    exact scan_encode original

theorem wellFormed_scan_iff (bytes : List UInt8) :
    WellFormed (scan 0x0d 0x0a bytes) ↔ WellFormed bytes := by
  simp only [wellFormed_iff, scan_eq_encode_iff]
  constructor
  · intro encoded
    obtain ⟨_, original, spelled, _⟩ := encoded
    exact ⟨original, spelled⟩
  · intro encoded
    obtain ⟨original, spelled⟩ := encoded
    exact ⟨_, original, spelled, rfl⟩

end TextCursor.Utf8

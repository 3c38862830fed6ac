import TextCursor.Text.WellFormed
import Mathlib.Data.List.Basic

/-! Strict UTF-8 from both sides. Decoding accepts exactly what is composed of the
sequences of characters, and these are the encodings of texts. -/
namespace TextCursor.Utf8

theorem Spells.cast {bytes : List UInt8} {code expected : Nat} (spelled : Spells bytes code)
    (same : code = expected) : Spells bytes expected := same ▸ spelled

theorem toNat_ofNat {code : Nat} (valid : code.isValidChar) : (Char.ofNat code).toNat = code := by
  rw [Char.ofNat, dif_pos valid]
  rfl

theorem isValidChar_toNat (c : Char) : c.toNat.isValidChar := c.valid

theorem spells_encodeChar (c : Char) : Spells (String.utf8EncodeChar c) c.toNat := by
  have valid : c.toNat < 0x110000 := by
    have := isValidChar_toNat c
    simp only [Nat.isValidChar] at this
    omega
  have code : c.val.toNat = c.toNat := rfl
  unfold String.utf8EncodeChar
  simp only [code]
  split_ifs with single double triple
  · refine (Spells.one _ ?_).cast ?_ <;> simp only [UInt8.toNat_ofNat'] <;> omega
  · refine (Spells.two _ _ ?_ ?_).cast ?_ <;> simp only [UInt8.toNat_ofNat'] <;> omega
  · refine (Spells.three _ _ _ ?_ ?_ ?_).cast ?_ <;> simp only [UInt8.toNat_ofNat'] <;> omega
  · refine (Spells.four _ _ _ _ ?_ ?_ ?_ ?_).cast ?_ <;> simp only [UInt8.toNat_ofNat'] <;> omega

theorem length_encodeChar (c : Char) :
    (String.utf8EncodeChar c).length =
      if c.toNat < 0x80 then 1 else if c.toNat < 0x800 then 2 else if c.toNat < 0x10000 then 3
      else 4 := by
  have code : c.val.toNat = c.toNat := rfl
  unfold String.utf8EncodeChar
  simp only [code]
  split_ifs <;> first | rfl | omega

theorem length_encodeChar_le {bytes : List UInt8} {c : Char} (spelled : Spells bytes c.toNat) :
    (String.utf8EncodeChar c).length ≤ bytes.length := by
  rw [length_encodeChar]
  generalize c.toNat = code at spelled
  cases spelled <;> simp only [List.length_cons, List.length_nil] <;> split_ifs <;> omega

/-- Spellings of one code differ in their lengths. -/
theorem Spells.eq_of_length {bytes other : List UInt8} {code : Nat} (spelled : Spells bytes code)
    (again : Spells other code) (same : bytes.length = other.length) : bytes = other := by
  generalize equal : code = expected at again
  cases spelled with
  | one =>
    cases again with
    | one => rw [UInt8.toNat_inj.mp equal]
    | two | three | four => simp at same
  | two a b =>
    cases again with
    | two a' b' =>
      have first : a.toNat = a'.toNat := by omega
      have second : b.toNat = b'.toNat := by omega
      rw [UInt8.toNat_inj.mp first, UInt8.toNat_inj.mp second]
    | one | three | four => simp at same
  | three a b c =>
    cases again with
    | three a' b' c' =>
      have first : a.toNat = a'.toNat := by omega
      have second : b.toNat = b'.toNat := by omega
      have third : c.toNat = c'.toNat := by omega
      rw [UInt8.toNat_inj.mp first, UInt8.toNat_inj.mp second, UInt8.toNat_inj.mp third]
    | one | two | four => simp at same
  | four a b c d =>
    cases again with
    | four a' b' c' d' =>
      have first : a.toNat = a'.toNat := by omega
      have second : b.toNat = b'.toNat := by omega
      have third : c.toNat = c'.toNat := by omega
      have fourth : d.toNat = d'.toNat := by omega
      rw [UInt8.toNat_inj.mp first, UInt8.toNat_inj.mp second, UInt8.toNat_inj.mp third,
        UInt8.toNat_inj.mp fourth]
    | one | two | three => simp at same

/-- A spelling no longer than the encoding is the encoding. -/
theorem Spells.eq_encodeChar {bytes : List UInt8} {code : Nat} (spelled : Spells bytes code)
    (valid : code.isValidChar)
    (shortest : bytes.length ≤ (String.utf8EncodeChar (Char.ofNat code)).length) :
    bytes = String.utf8EncodeChar (Char.ofNat code) := by
  have encoded := spells_encodeChar (Char.ofNat code)
  rw [toNat_ofNat valid] at encoded
  refine spelled.eq_of_length encoded (Nat.le_antisymm shortest ?_)
  exact length_encodeChar_le ((toNat_ofNat valid).symm ▸ spelled)

theorem isSequence_iff (bytes : List UInt8) :
    IsSequence bytes ↔ ∃ c, bytes = String.utf8EncodeChar c := by
  constructor
  · rintro ⟨code, spelled, shortest, valid⟩
    have encoded := spells_encodeChar (Char.ofNat code)
    rw [toNat_ofNat valid] at encoded
    exact ⟨Char.ofNat code, spelled.eq_encodeChar valid (shortest _ encoded)⟩
  · rintro ⟨c, rfl⟩
    exact ⟨c.toNat, spells_encodeChar c, fun _ => length_encodeChar_le, isValidChar_toNat c⟩

theorem encode_cons (c : Char) (s : Text) :
    encode (c :: s) = String.utf8EncodeChar c ++ encode s := List.flatMap_cons

theorem wellFormed_iff (bytes : List UInt8) : WellFormed bytes ↔ ∃ s, bytes = encode s := by
  constructor
  · intro formed
    induction formed with
    | nil => exact ⟨[], rfl⟩
    | append head tail ih =>
      obtain ⟨c, rfl⟩ := (isSequence_iff _).mp head
      obtain ⟨s, rfl⟩ := ih
      exact ⟨c :: s, (encode_cons c s).symm⟩
  · rintro ⟨s, rfl⟩
    induction s with
    | nil => exact .nil
    | cons c s ih =>
      rw [encode_cons]
      exact .append ((isSequence_iff _).mpr ⟨c, rfl⟩) ih

theorem isLead_iff (b : UInt8) : isLead b = true ↔ 0xc2 ≤ b.toNat ∧ b.toNat ≤ 0xf4 := by
  simp [isLead, UInt8.le_iff_toNat_le]

theorem isTail_iff (b : UInt8) : isTail b = true ↔ 0x80 ≤ b.toNat ∧ b.toNat < 0xc0 := by
  simp only [isTail, UInt8.le_iff_toNat_le, Bool.and_eq_true, decide_eq_true_eq, UInt8.reduceToNat]
  omega

theorem tailBits_eq (b : UInt8) : tailBits b = b.toNat - 0x80 := rfl

theorem isSecond_iff (lead b : UInt8) :
    isSecond lead b = true ↔
      (0x80 ≤ b.toNat ∧ b.toNat < 0xc0) ∧
      (lead.toNat = 0xe0 → 0xa0 ≤ b.toNat) ∧ (lead.toNat = 0xed → b.toNat < 0xa0) ∧
      (lead.toNat = 0xf0 → 0x90 ≤ b.toNat) ∧ (lead.toNat = 0xf4 → b.toNat < 0x90) := by
  have literal (n : UInt8) : lead = n ↔ lead.toNat = n.toNat := UInt8.toNat_inj.symm
  unfold isSecond
  simp only [literal, UInt8.reduceToNat]
  split_ifs <;>
    simp only [isTail_iff, UInt8.le_iff_toNat_le, Bool.and_eq_true, decide_eq_true_eq,
      UInt8.reduceToNat] <;> omega

/-- The first bytes of a character are unfinished until they are all of them. -/
theorem classify_take_encodeChar (c : Char) {count : Nat} (begun : 0 < count)
    (inside : count ≤ (String.utf8EncodeChar c).length) :
    classify ((String.utf8EncodeChar c).take count) =
      if count = (String.utf8EncodeChar c).length then .complete c else .unfinished := by
  have spelled := spells_encodeChar c
  have length := length_encodeChar c
  have valid := isValidChar_toNat c
  have character := Char.ofNat_toNat c
  simp only [Nat.isValidChar] at valid
  generalize String.utf8EncodeChar c = bytes at *
  generalize c.toNat = code at *
  subst character
  have literal (n : UInt8) (a : UInt8) : a ≤ n ↔ a.toNat ≤ n.toNat := UInt8.le_iff_toNat_le
  cases spelled with
  | one a lead =>
    have single : a ≤ 0x7f := by simp [literal]; omega
    simp only [List.length_singleton] at inside ⊢
    obtain rfl : count = 1 := by omega
    simp [classify, single]
  | two a b lead second =>
    simp only [List.length_cons, List.length_nil] at inside length ⊢
    have leads : isLead a = true := (isLead_iff a).mpr (by split_ifs at length <;> omega)
    have follows : isSecond a b = true := (isSecond_iff a b).mpr (by omega)
    have above : ¬a ≤ 0x7f := by simp [literal]; omega
    have last : a ≤ 0xdf := by simp [literal]; omega
    obtain rfl | rfl : count = 1 ∨ count = 2 := by omega
    · simp [classify, above, leads]
    · simp [classify, leads, follows, last, tailBits_eq]
  | three a b c lead second third =>
    simp only [List.length_cons, List.length_nil] at inside length ⊢
    have leads : isLead a = true := (isLead_iff a).mpr (by omega)
    have follows : isSecond a b = true :=
      (isSecond_iff a b).mpr (by split_ifs at length <;> omega)
    have ends : isTail c = true := (isTail_iff c).mpr third
    have above : ¬a ≤ 0x7f := by simp [literal]; omega
    have beyond : ¬a ≤ 0xdf := by simp [literal]; omega
    have first : 0xe0 ≤ a := by simp [literal]; omega
    have last : a ≤ 0xef := by simp [literal]; omega
    obtain rfl | rfl | rfl : count = 1 ∨ count = 2 ∨ count = 3 := by omega
    · simp [classify, above, leads]
    · simp [classify, leads, follows, beyond]
    · simp [classify, leads, follows, ends, first, last, tailBits_eq]
  | four a b c d lead second third fourth =>
    simp only [List.length_cons, List.length_nil] at inside length ⊢
    have leads : isLead a = true := (isLead_iff a).mpr (by omega)
    have follows : isSecond a b = true :=
      (isSecond_iff a b).mpr (by split_ifs at length <;> omega)
    have continues : isTail c = true := (isTail_iff c).mpr third
    have ends : isTail d = true := (isTail_iff d).mpr fourth
    have above : ¬a ≤ 0x7f := by simp [literal]; omega
    have beyond : ¬a ≤ 0xdf := by simp [literal]; omega
    have past : ¬a ≤ 0xef := by simp [literal]; omega
    have first : 0xf0 ≤ a := by simp [literal]; omega
    have early : 0xe0 ≤ a := by simp [literal]; omega
    obtain rfl | rfl | rfl | rfl : count = 1 ∨ count = 2 ∨ count = 3 ∨ count = 4 := by omega
    · simp [classify, above, leads]
    · simp [classify, leads, follows, beyond]
    · simp [classify, leads, follows, continues, early, past]
    · simp [classify, leads, follows, continues, ends, first, tailBits_eq]

theorem eq_encodeChar_of_classify {bytes : List UInt8} {c : Char}
    (read : classify bytes = .complete c) : bytes = String.utf8EncodeChar c := by
  have literal (n : UInt8) (a : UInt8) : a ≤ n ↔ a.toNat ≤ n.toNat := UInt8.le_iff_toNat_le
  have complete {code : Nat} (spelled : Spells bytes code) (valid : code.isValidChar)
      (shortest : bytes.length ≤
        if code < 0x80 then 1 else if code < 0x800 then 2 else if code < 0x10000 then 3 else 4) :
      bytes = String.utf8EncodeChar (Char.ofNat code) := by
    apply spelled.eq_encodeChar valid
    rwa [length_encodeChar, toNat_ofNat valid]
  unfold classify at read
  split at read
  · rename_i a
    split_ifs at read with single
    obtain rfl := Sequence.complete.inj read
    simp only [literal, UInt8.reduceToNat] at single
    refine complete (.one a (by omega)) (Or.inl (by omega)) ?_
    simp only [List.length_cons, List.length_nil]
    split_ifs <;> omega
  · rename_i a b
    split_ifs at read with refused last
    simp only [tailBits_eq] at read
    obtain rfl := Sequence.complete.inj read
    simp only [Bool.not_eq_true', Bool.not_eq_false, Bool.and_eq_true, isLead_iff,
      isSecond_iff] at refused
    simp only [literal, UInt8.reduceToNat] at last
    refine complete (.two a b (by omega) (by omega)) (Or.inl (by omega)) ?_
    simp only [List.length_cons, List.length_nil]
    split_ifs <;> omega
  · rename_i a b c
    split_ifs at read with refused last
    simp only [tailBits_eq] at read
    obtain rfl := Sequence.complete.inj read
    simp only [Bool.not_eq_true', Bool.not_eq_false, Bool.and_eq_true, decide_eq_true_eq,
      isLead_iff, isSecond_iff, isTail_iff, literal, UInt8.reduceToNat] at refused last
    have valid : ((a.toNat - 0xe0) * 0x1000 + (b.toNat - 0x80) * 0x40 +
        (c.toNat - 0x80)).isValidChar := by
      simp only [Nat.isValidChar]
      omega
    refine complete (.three a b c (by omega) (by omega) (by omega)) valid ?_
    simp only [List.length_cons, List.length_nil]
    split_ifs <;> omega
  · rename_i a b c d
    split_ifs at read with accepted
    simp only [tailBits_eq] at read
    obtain rfl := Sequence.complete.inj read
    simp only [Bool.and_eq_true, decide_eq_true_eq, isLead_iff, isSecond_iff, isTail_iff, literal,
      UInt8.reduceToNat] at accepted
    have valid : ((a.toNat - 0xf0) * 0x40000 + (b.toNat - 0x80) * 0x1000 +
        (c.toNat - 0x80) * 0x40 + (d.toNat - 0x80)).isValidChar := by
      simp only [Nat.isValidChar]
      omega
    refine complete (.four a b c d (by omega) (by omega) (by omega) (by omega)) valid ?_
    simp only [List.length_cons, List.length_nil]
    split_ifs <;> omega
  · cases read

/-- What has been decoded is the encoding of the result, from the first gathered byte on. -/
theorem eq_encode_of_decodeFrom {start : Nat} {gathered bytes : List UInt8} {s : Text}
    (decoded : decodeFrom start gathered bytes = .ok s) : gathered ++ bytes = encode s := by
  fun_induction decodeFrom start gathered bytes generalizing s with
  | case1 => cases decoded; rfl
  | case2 => cases decoded
  | case3 start gathered byte rest c complete ih =>
    cases read : decodeFrom (start + gathered.length + 1) [] rest with
    | error malformed =>
      rw [read] at decoded
      cases decoded
    | ok tail =>
      rw [read] at decoded
      cases decoded
      have following := ih read
      rw [List.nil_append] at following
      rw [List.append_cons, eq_encodeChar_of_classify complete, following, encode_cons]
  | case4 start gathered byte rest unfinished ih =>
    rw [List.append_cons]
    exact ih decoded
  | case5 | case6 => cases decoded

/-- A character whose first bytes have been gathered is completed by the missing ones, and
reading goes on behind it. -/
theorem decodeFrom_missing {c : Char} {gathered missing : List UInt8}
    (whole : String.utf8EncodeChar c = gathered ++ missing) (begun : missing ≠ [])
    (bytes : List UInt8) (start : Nat) :
    decodeFrom start gathered (missing ++ bytes) = do
      return c :: (← decodeFrom (start + (String.utf8EncodeChar c).length) [] bytes) := by
  induction missing generalizing gathered with
  | nil => contradiction
  | cons byte missing ih =>
    have taken : (String.utf8EncodeChar c).take (gathered.length + 1) = gathered ++ [byte] := by
      rw [whole, List.append_cons, List.take_left' (by simp)]
    have size := congrArg List.length whole
    simp only [List.length_append, List.length_cons] at size
    have classified := classify_take_encodeChar c (Nat.succ_pos gathered.length) (by omega)
    rw [Nat.succ_eq_add_one, taken] at classified
    cases missing with
    | nil =>
      rw [if_pos (by simpa using size.symm)] at classified
      rw [List.length_nil, Nat.zero_add] at size
      simp only [List.singleton_append, decodeFrom, classified, size, Nat.add_assoc]
    | cons next missing =>
      rw [if_neg (by simp only [List.length_cons] at size; omega)] at classified
      simp only [List.cons_append, decodeFrom, classified]
      exact ih (by rw [whole, List.append_cons]) (List.cons_ne_nil _ _)

theorem decodeFrom_encode_append (s : Text) (start : Nat) (bytes : List UInt8) :
    decodeFrom start [] (encode s ++ bytes) = do
      return s ++ (← decodeFrom (start + (encode s).length) [] bytes) := by
  induction s generalizing start with
  | nil =>
    change decodeFrom start [] bytes = do return [] ++ (← decodeFrom start [] bytes)
    cases decodeFrom start [] bytes with
    | error malformed => rfl
    | ok s => rfl
  | cons c s ih =>
    rw [encode_cons, List.append_assoc, List.length_append, ← Nat.add_assoc,
      decodeFrom_missing (List.nil_append _).symm String.utf8EncodeChar_ne_nil, ih]
    cases decodeFrom (start + (String.utf8EncodeChar c).length + (encode s).length) [] bytes with
    | error malformed => rfl
    | ok later => rfl

theorem decodeFrom_encode (s : Text) (start : Nat) : decodeFrom start [] (encode s) = .ok s := by
  have read := decodeFrom_encode_append s start []
  rw [List.append_nil] at read
  rw [read]
  exact congrArg Except.ok (List.append_nil s)

theorem decode_eq_ok_iff (bytes : List UInt8) (s : Text) :
    decode bytes = .ok s ↔ bytes = encode s := by
  constructor
  · intro decoded
    exact eq_encode_of_decodeFrom decoded
  · rintro rfl
    exact decodeFrom_encode s 0

end TextCursor.Utf8

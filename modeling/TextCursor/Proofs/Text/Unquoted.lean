import TextCursor.Proofs.Text.Spelling

/-! Reading undoes quoting. A literal is read one spelling after another, and each gives the
character that it spells, whatever follows it. -/
namespace TextCursor.Text

theorem unescaped_of_octal : ∀ digit ∈ "01234567".toList,
    namedEscape? digit = none ∧ codeWidth? digit = none := by
  simp [namedEscape?, codeWidth?, apostrophe, doubleQuote]

theorem octalDigit?_eq_none_of_named {letter c : Char} (named : namedEscape? letter = some c) :
    octalDigit? letter = none := by
  apply List.idxOf?_eq_none_iff.mpr
  intro digit
  cases named.symm.trans (unescaped_of_octal letter digit).1

theorem octalDigit?_eq_none_of_coded {letter : Char} {width : Nat}
    (coded : codeWidth? letter = some width) : octalDigit? letter = none := by
  apply List.idxOf?_eq_none_iff.mpr
  intro digit
  cases coded.symm.trans (unescaped_of_octal letter digit).2

theorem codeWidth?_ne_zero (letter : Char) : codeWidth? letter ≠ some 0 := by
  grind [codeWidth?]

section Bodies

variable {mark c : Char} {spelled : Text}

theorem unquoteBody_backslash (closes : IsMark mark) {letter : Char}
    (notOctal : octalDigit? letter = none) (rest : Text) :
    unquoteBody mark .plain ('\\' :: letter :: rest) =
      unquoteBody mark .escape (letter :: rest) := by
  have escapes : goesOnOctal (letter :: rest) = false := by simp [goesOnOctal, notOctal]
  rw [unquoteBody, if_neg closes.ne_backslash.symm, if_pos rfl, escapes]
  rfl

theorem unquoteBody_hex (width left value n : Nat) (small : n < 16 ^ width) (rest : Text) :
    unquoteBody mark (.code (left + width) value) (hex width n ++ rest) =
      unquoteBody mark (.code left (value * 16 ^ width + n)) rest := by
  induction width generalizing left n rest with
  | zero =>
    obtain rfl : n = 0 := by simpa using small
    simp [hex]
  | succ width ih =>
    rw [Nat.pow_succ] at small
    have value_eq : (value * 16 ^ width + n / 16) * 16 + n % 16 = value * 16 ^ (width + 1) + n := by
      rw [Nat.pow_succ, ← Nat.mul_assoc]
      omega
    have digit := hexDigit?_digitChar (n % 16) (Nat.mod_lt n (by decide))
    rw [hex, List.append_assoc, ← Nat.add_assoc, Nat.add_right_comm, ih _ _ (by omega),
      List.singleton_append]
    simp only [unquoteBody, digit, value_eq]

/-- The last digit completes the character, which every code within range has. -/
theorem unquoteBody_code {width : Nat} (small : c.toNat < 16 ^ (width + 1)) (rest : Text) :
    unquoteBody mark (.code width 0) (hex (width + 1) c.toNat ++ rest) =
      (unquoteBody mark .plain rest).map (c :: ·) := by
  have digit := hexDigit?_digitChar (c.toNat % 16) (Nat.mod_lt c.toNat (by decide))
  have higher : c.toNat / 16 < 16 ^ width := by
    rw [Nat.pow_succ] at small
    omega
  have read := @unquoteBody_hex mark width 0 0 (c.toNat / 16) higher
  rw [Nat.zero_add] at read
  have value_eq : (0 * 16 ^ width + c.toNat / 16) * 16 + c.toNat % 16 = c.toNat := by omega
  have valid : c.toNat.isValidChar := c.valid
  rw [hex, List.append_assoc, read, List.singleton_append]
  simp only [unquoteBody, digit, value_eq, if_pos valid, Char.ofNat_toNat]

theorem unquoteBody_spelling (closes : IsMark mark) (spells : IsSpelling mark c spelled)
    (rest : Text) : unquoteBody mark .plain (spelled ++ rest) =
      (unquoteBody mark .plain rest).map (c :: ·) := by
  cases spells with
  | plain unguarded unbroken =>
    have noBreak : ¬(c = '\n' ∨ c = '\r') := not_or.mpr unbroken
    rw [List.singleton_append, unquoteBody, if_neg unguarded.1, if_neg unguarded.2, if_neg noBreak]
  | @named letter named =>
    have escaped := unquoteBody_backslash closes (octalDigit?_eq_none_of_named named) rest
    refine escaped.trans ?_
    rw [unquoteBody, named]
  | @code letter width unnamed coded small =>
    have escaped := unquoteBody_backslash closes (octalDigit?_eq_none_of_coded coded)
      (hex width c.toNat ++ rest)
    refine escaped.trans ?_
    rw [unquoteBody, unnamed, coded]
    cases width with
    | zero => exact absurd coded (codeWidth?_ne_zero letter)
    | succ width => exact unquoteBody_code small rest

theorem unquoteBody_flatMap (closes : IsMark mark) {spell : Char → Text} {s : Text}
    (spells : ∀ c ∈ s, IsSpelling mark c (spell c)) :
    unquoteBody mark .plain (s.flatMap spell ++ [mark]) = some s := by
  induction s with
  | nil =>
    rw [List.flatMap_nil, List.nil_append, unquoteBody, if_pos rfl]
    rfl
  | cons c s ih =>
    obtain ⟨first, others⟩ := List.forall_mem_cons.mp spells
    rw [List.flatMap_cons, List.append_assoc, unquoteBody_spelling closes first, ih others]
    rfl

end Bodies

theorem unquote?_quote (s : Text) : unquote? s.quote = some s := by
  have closes := isMark_quotationMark s
  have isMark : s.quotationMark = apostrophe ∨ s.quotationMark = doubleQuote := closes
  rw [quote, List.cons_append, unquote?, if_pos isMark]
  exact unquoteBody_flatMap closes (isSpelling_of_mem closes fun _ => rfl)

end TextCursor.Text

import TextCursor.Text.Numeral

/-! Digits read back: a hexadecimal digit as its value, and a decimal numeral as
the shorter numeral before its last digit. A numeral tells its number, also where
another text goes before it or after it. -/
namespace TextCursor.Text

theorem hexDigit?_digitChar : ∀ digit < 16, hexDigit? (Nat.digitChar digit) = some digit := by
  decide

theorem ofNat_of_lt {n : Nat} (small : n < 10) : ofNat n = [Nat.digitChar n] :=
  Nat.toDigits_of_lt_base small

theorem ofNat_of_le {n : Nat} (large : 10 ≤ n) :
    ofNat n = ofNat (n / 10) ++ [Nat.digitChar (n % 10)] :=
  Nat.toDigits_of_base_le (by decide) large

theorem ofNat_injective : Function.Injective ofNat := by
  intro n m same
  have read := congrArg (Nat.ofDigitChars 10 · 0) same
  simpa [ofNat, Nat.ofDigitChars_ten_toDigits] using read

theorem isDigit_of_mem_ofNat {n : Nat} {c : Char} (member : c ∈ ofNat n) : c.isDigit :=
  Nat.isDigit_of_mem_toDigits (by decide) (by decide) member

def isNumeric (c : Char) : Bool := c = '-' || c.isDigit

theorem isNumeric_of_mem_ofInt {n : Int} {c : Char} (member : c ∈ ofInt n) : isNumeric c := by
  cases n with
  | ofNat n => simp [isNumeric, isDigit_of_mem_ofNat member]
  | negSucc n =>
    rcases List.mem_cons.mp member with rfl | digit
    · rfl
    · simp [isNumeric, isDigit_of_mem_ofNat digit]

theorem ofInt_ne_nil (n : Int) : ofInt n ≠ [] := by
  cases n with
  | ofNat n => exact Nat.toDigits_ne_nil
  | negSucc n => exact List.cons_ne_nil _ _

theorem ofNat_ne_negative {n m : Nat} : ofNat n ≠ '-' :: ofNat m := by
  intro same
  have digit : '-' ∈ ofNat n := same ▸ List.mem_cons_self
  exact absurd (isDigit_of_mem_ofNat digit) (by decide)

theorem ofInt_injective : Function.Injective ofInt := by
  intro n m same
  cases n with
  | ofNat n =>
    cases m with
    | ofNat m => exact congrArg Int.ofNat (ofNat_injective same)
    | negSucc m => exact absurd same ofNat_ne_negative
  | negSucc n =>
    cases m with
    | ofNat m => exact absurd same.symm ofNat_ne_negative
    | negSucc m =>
      have equal := ofNat_injective (List.cons.inj same).2
      exact congrArg Int.negSucc (Nat.succ.inj equal)

theorem takeWhile_ofInt_append (n : Int) {rest : Text} (ends : ∀ c ∈ rest.head?, ¬isNumeric c) :
    (ofInt n ++ rest).takeWhile isNumeric = ofInt n := by
  rw [List.takeWhile_append_of_pos fun c member => isNumeric_of_mem_ofInt member]
  cases rest with
  | nil => simp
  | cons c rest => rw [List.takeWhile_cons_of_neg (ends c rfl), List.append_nil]

/-- A numeral can be told from what follows it, if that goes on with no character of numerals. -/
theorem ofInt_append_inj {n m : Int} {x y : Text} (ends : ∀ c ∈ x.head?, ¬isNumeric c)
    (ends' : ∀ c ∈ y.head?, ¬isNumeric c) (same : ofInt n ++ x = ofInt m ++ y) : n = m ∧ x = y := by
  have numeral := congrArg (List.takeWhile isNumeric) same
  rw [takeWhile_ofInt_append n ends, takeWhile_ofInt_append m ends'] at numeral
  rw [numeral] at same
  exact ⟨ofInt_injective numeral, List.append_cancel_left same⟩

theorem append_cons_inj_of_last {c : Char} {s t x y : Text} (free : c ∉ x) (free' : c ∉ y)
    (same : s ++ c :: x = t ++ c :: y) : s = t ∧ x = y := by
  induction s generalizing t with
  | nil =>
    cases t with
    | nil => exact ⟨rfl, (List.cons.inj same).2⟩
    | cons d t =>
      rw [(List.cons.inj same).2] at free
      simp at free
  | cons d s ih =>
    cases t with
    | nil =>
      rw [← (List.cons.inj same).2] at free'
      simp at free'
    | cons e t =>
      obtain ⟨rfl, rest⟩ := List.cons.inj same
      obtain ⟨rfl, rfl⟩ := ih rest
      exact ⟨rfl, rfl⟩

/-- So can one that ends a text, from the blank before it on. -/
theorem append_ofInt_inj {n m : Int} {s t : Text}
    (same : s ++ ' ' :: ofInt n = t ++ ' ' :: ofInt m) : s = t ∧ n = m := by
  have blank (n : Int) : ' ' ∉ ofInt n := fun member =>
    absurd (isNumeric_of_mem_ofInt member) (by decide)
  obtain ⟨before, numeral⟩ := append_cons_inj_of_last (blank n) (blank m) same
  exact ⟨before, ofInt_injective numeral⟩

end TextCursor.Text

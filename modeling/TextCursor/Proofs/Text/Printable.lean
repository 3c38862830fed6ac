import TextCursor.Text.Quoted

/-! Texts of which every character can be shown. Numerals are such texts, and so is
every quoted literal, whatever it quotes: an escape is written in ASCII. -/
namespace TextCursor.Text

@[simp] theorem isShown_nil : IsShown [] := nofun

@[simp] theorem isShown_cons {c : Char} {s : Text} :
    IsShown (c :: s) ↔ isPrintable c ∧ s.IsShown :=
  List.forall_mem_cons

@[simp] theorem isShown_append {s t : Text} : IsShown (s ++ t) ↔ s.IsShown ∧ t.IsShown :=
  List.forall_mem_append

theorem IsShown.take {s : Text} (shown : s.IsShown) (n : Nat) : IsShown (s.take n) :=
  fun c member => shown c (List.mem_of_mem_take member)

theorem IsShown.drop {s : Text} (shown : s.IsShown) (n : Nat) : IsShown (s.drop n) :=
  fun c member => shown c (List.mem_of_mem_drop member)

theorem IsShown.feed_notMem {s : Text} (shown : s.IsShown) : '\n' ∉ s := by
  intro member
  exact absurd (shown '\n' member) (by decide)

theorem isShown_flatMap {α : Type} {items : List α} {f : α → Text}
    (shown : ∀ a ∈ items, (f a).IsShown) : IsShown (items.flatMap f) := by
  intro c member
  obtain ⟨a, inside, member⟩ := List.mem_flatMap.mp member
  exact shown a inside c member

theorem mem_of_mem_intercalate {c : Char} {separator : Text} {parts : List Text}
    (member : c ∈ List.intercalate separator parts) : c ∈ separator ∨ ∃ part ∈ parts, c ∈ part := by
  induction parts with
  | nil => cases member
  | cons part parts ih =>
    by_cases last : parts = []
    · subst last
      rw [List.intercalate_singleton] at member
      exact .inr ⟨part, List.mem_cons_self, member⟩
    · rw [List.intercalate_cons_of_ne_nil last, List.mem_append, List.mem_append] at member
      rcases member with (here | between) | later
      · exact .inr ⟨part, List.mem_cons_self, here⟩
      · exact .inl between
      · exact (ih later).imp_right fun ⟨other, inside, member⟩ =>
          ⟨other, List.mem_cons_of_mem part inside, member⟩

theorem isShown_intercalate {separator : Text} {parts : List Text} (between : separator.IsShown)
    (shown : ∀ part ∈ parts, part.IsShown) : IsShown (List.intercalate separator parts) := by
  intro c member
  obtain separating | ⟨part, inside, member⟩ := mem_of_mem_intercalate member
  · exact between c separating
  · exact shown part inside c member

/-- Between the controls and the delete character no code is left out. -/
theorem isPrintable_of_ascii {c : Char} (lower : 0x20 ≤ c.toNat) (upper : c.toNat < 0x7f) :
    isPrintable c := by
  have outside : ∀ rest, isOutside c.toNat ((0x0, 0x1f) :: (0x7f, 0xa0) :: rest) = true := by
    intro rest
    simp [isOutside]
    omega
  exact outside _

theorem isShown_ofNat (n : Nat) : (ofNat n).IsShown := by
  intro c member
  have digit : c.isDigit := Nat.isDigit_of_mem_toDigits (by decide) (by decide) member
  obtain ⟨lower, upper⟩ := Char.isDigit_iff_toNat.mp digit
  exact isPrintable_of_ascii (Nat.le_trans (by decide) lower) (Nat.lt_of_le_of_lt upper (by decide))

theorem isShown_ofInt (n : Int) : (ofInt n).IsShown := by
  cases n with
  | ofNat n => exact isShown_ofNat n
  | negSucc n => exact isShown_cons.mpr ⟨by decide, isShown_ofNat (n + 1)⟩

theorem isPrintable_digitChar : ∀ digit < 16, isPrintable (Nat.digitChar digit) := by
  decide

theorem isShown_hex (width n : Nat) : (hex width n).IsShown := by
  induction width generalizing n with
  | zero => exact isShown_nil
  | succ width ih =>
    have digit := isPrintable_digitChar (n % 16) (Nat.mod_lt n (by decide))
    simp [hex, ih, digit]

theorem isShown_escapeCode (n : Nat) : (escapeCode n).IsShown := by
  have signs : isPrintable '\\' ∧ isPrintable 'x' ∧ isPrintable 'u' ∧ isPrintable 'U' := by decide
  unfold escapeCode
  split
  · simp [signs, isShown_hex]
  split
  · simp [signs, isShown_hex]
  · simp [signs, isShown_hex]

section Escapes

variable {guarded : Char} {shown : Char → Bool}

theorem isShown_escapeChar (visible : isPrintable guarded)
    (covered : ∀ c, shown c → isPrintable c) (c : Char) :
    (escapeChar guarded shown c).IsShown := by
  have backslash : isPrintable '\\' := by decide
  unfold escapeChar
  split
  case isTrue special =>
    rcases special with rfl | rfl
    · simp [backslash, visible]
    · simp [backslash]
  split
  · decide
  split
  · decide
  split
  · decide
  split
  case isTrue plain => simp [covered c plain]
  case isFalse => exact isShown_escapeCode c.toNat

theorem isShown_escape (visible : isPrintable guarded) (covered : ∀ c, shown c → isPrintable c)
    (s : Text) : (escape guarded shown s).IsShown :=
  isShown_flatMap fun c _ => isShown_escapeChar visible covered c

end Escapes

theorem isPrintable_quotationMark (s : Text) : isPrintable s.quotationMark := by
  unfold quotationMark
  split <;> decide

theorem isPrintable_of_isPrintableAscii (c : Char) (ascii : isPrintableAscii c) :
    isPrintable c := by
  simp only [isPrintableAscii, Bool.and_eq_true, decide_eq_true_eq] at ascii
  exact isPrintable_of_ascii ascii.1 ascii.2

theorem isShown_quote (s : Text) : s.quote.IsShown := by
  have mark := isPrintable_quotationMark s
  simp [quote, mark, isShown_escape mark fun _ visible => visible]

theorem isShown_quoteBytes (data : List UInt8) : (quoteBytes data).IsShown := by
  have mark := isPrintable_quotationMark (ofBytes data)
  have sign : isPrintable 'b' := by decide
  simp [quoteBytes, mark, sign, isShown_escape mark isPrintable_of_isPrintableAscii]

theorem isShown_quoteByteBuffer (data : List UInt8) : (quoteByteBuffer data).IsShown := by
  have mark := isPrintable_quotationMark (ofBytes data)
  have name : IsShown "bytearray(b".toList := by decide
  have visible : isPrintable apostrophe := by decide
  have body := isShown_escape visible isPrintable_of_isPrintableAscii (ofBytes data)
  have closing : IsShown [quotationMark (ofBytes data), ')'] := isShown_cons.mpr ⟨mark, by decide⟩
  exact isShown_append.mpr ⟨isShown_append.mpr ⟨name, isShown_cons.mpr ⟨mark, body⟩⟩, closing⟩

end TextCursor.Text

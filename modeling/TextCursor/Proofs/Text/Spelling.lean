import TextCursor.Proofs.Text.Numeral
import TextCursor.Proofs.Text.Utf8
import TextCursor.Text.Unquoted
import Mathlib.Algebra.Group.Nat.Defs
import Mathlib.Data.List.Basic

/-! Spellings of characters in literals. A spelling tells its character and where it ends, and
none begins with the mark that closes the literal, so that a literal tells the whole text. -/
namespace TextCursor.Text

/-- In a literal that is closed by the mark: the character itself, or a backslash and either one
letter or the digits of the code. -/
inductive IsSpelling (mark c : Char) : Text → Prop
  | plain (unguarded : c ≠ mark ∧ c ≠ '\\') (unbroken : c ≠ '\n' ∧ c ≠ '\r') : IsSpelling mark c [c]
  | named {letter : Char} (named : namedEscape? letter = some c) : IsSpelling mark c ['\\', letter]
  | code {letter : Char} {width : Nat} (unnamed : namedEscape? letter = none)
      (coded : codeWidth? letter = some width) (small : c.toNat < 16 ^ width) :
      IsSpelling mark c ('\\' :: letter :: hex width c.toNat)

theorem hex_inj {width n m : Nat} (small : n < 16 ^ width) (small' : m < 16 ^ width)
    (same : hex width n = hex width m) : n = m := by
  induction width generalizing n m with
  | zero => rw [Nat.lt_one_iff.mp small, Nat.lt_one_iff.mp small']
  | succ width ih =>
    rw [Nat.pow_succ] at small small'
    obtain ⟨higher, last⟩ := List.append_inj' same rfl
    have quotients := ih (by omega) (by omega) higher
    have digits := congrArg hexDigit? (List.cons.inj last).1
    rw [hexDigit?_digitChar _ (Nat.mod_lt n (by decide)),
      hexDigit?_digitChar _ (Nat.mod_lt m (by decide)), Option.some.injEq] at digits
    omega

namespace IsSpelling

variable {mark c d : Char} {s t x y : Text}

theorem append_inj (first : IsSpelling mark c s) (second : IsSpelling mark d t)
    (same : s ++ x = t ++ y) : c = d ∧ x = y := by
  cases first with
  | plain unguarded =>
    cases second with
    | plain => exact List.cons.inj same
    | named | code => exact absurd (List.cons.inj same).1 unguarded.2
  | named named =>
    cases second with
    | plain unguarded => exact absurd (List.cons.inj same).1.symm unguarded.2
    | named named' =>
      obtain ⟨rfl, rest⟩ := List.cons.inj (List.cons.inj same).2
      exact ⟨Option.some.inj (named.symm.trans named'), rest⟩
    | code unnamed =>
      obtain ⟨rfl, _⟩ := List.cons.inj (List.cons.inj same).2
      cases named.symm.trans unnamed
  | code unnamed coded small =>
    cases second with
    | plain unguarded => exact absurd (List.cons.inj same).1.symm unguarded.2
    | named named =>
      obtain ⟨rfl, _⟩ := List.cons.inj (List.cons.inj same).2
      cases named.symm.trans unnamed
    | code _ coded' small' =>
      obtain ⟨rfl, rest⟩ := List.cons.inj (List.cons.inj same).2
      cases coded.symm.trans coded'
      obtain ⟨digits, rfl⟩ := List.append_inj rest (by rw [length_hex, length_hex])
      exact ⟨Char.toNat_inj.mp (hex_inj small small' digits), rfl⟩

theorem append_ne_cons (spelled : IsSpelling mark c s) (unlike : mark ≠ '\\') :
    s ++ x ≠ mark :: y := by
  intro same
  cases spelled with
  | plain unguarded => exact unguarded.1 (List.cons.inj same).1
  | named | code => exact unlike (List.cons.inj same).1.symm

end IsSpelling

theorem isSpelling_escapeCode (mark c : Char) : IsSpelling mark c (escapeCode c.toNat) := by
  have valid : c.toNat.isValidChar := c.valid
  simp only [Nat.isValidChar] at valid
  unfold escapeCode
  split
  · exact .code rfl rfl (by omega)
  split
  · exact .code rfl rfl (by omega)
  · exact .code rfl rfl (by omega)

def IsMark (c : Char) : Prop := c = apostrophe ∨ c = doubleQuote

theorem IsMark.ne_backslash {mark : Char} (isMark : IsMark mark) : mark ≠ '\\' := by
  rcases isMark with rfl | rfl <;> decide

theorem isMark_quotationMark (s : Text) : IsMark s.quotationMark := by
  unfold quotationMark
  split
  · exact .inr rfl
  · exact .inl rfl

section Escapes

variable {guarded mark : Char} {shown : Char → Bool} {s t x y : Text}

theorem isSpelling_escapeChar (guards : IsMark guarded) {c : Char}
    (safe : c = mark → guarded = mark) : IsSpelling mark c (escapeChar guarded shown c) := by
  unfold escapeChar
  split
  case isTrue special =>
    apply IsSpelling.named
    rw [namedEscape?, if_pos]
    rcases special with rfl | rfl
    · exact .inr guards
    · exact .inl rfl
  case isFalse ordinary =>
    obtain ⟨unguarded, unescaped⟩ := not_or.mp ordinary
    split
    case isTrue tab => exact tab ▸ .named rfl
    split
    case isTrue feed => exact feed ▸ .named rfl
    case isFalse noFeed =>
      split
      case isTrue carriage => exact carriage ▸ .named rfl
      case isFalse noReturn =>
        split
        case isTrue =>
          have unclosed : c ≠ mark := fun same => unguarded (same.trans (safe same).symm)
          exact .plain ⟨unclosed, unescaped⟩ ⟨noFeed, noReturn⟩
        case isFalse => exact isSpelling_escapeCode mark c

theorem isSpelling_of_mem (guards : IsMark guarded) (safe : mark ∈ s → guarded = mark) :
    ∀ c ∈ s, IsSpelling mark c (escapeChar guarded shown c) :=
  fun _ member => isSpelling_escapeChar guards fun same => safe (same ▸ member)

end Escapes

section Bodies

variable {mark : Char} {spell spell' : Char → Text} {s t x y : Text}

/-- What is spelled up to the mark tells the text. -/
theorem flatMap_append_inj (closes : IsMark mark) (spelled : ∀ c ∈ s, IsSpelling mark c (spell c))
    (spelled' : ∀ c ∈ t, IsSpelling mark c (spell' c))
    (same : s.flatMap spell ++ mark :: x = t.flatMap spell' ++ mark :: y) : s = t ∧ x = y := by
  induction s generalizing t with
  | nil =>
    cases t with
    | nil => exact ⟨rfl, (List.cons.inj same).2⟩
    | cons d t =>
      rw [List.flatMap_cons, List.append_assoc] at same
      have first := spelled' d List.mem_cons_self
      exact absurd same.symm (first.append_ne_cons closes.ne_backslash)
  | cons c s ih =>
    have first := spelled c List.mem_cons_self
    rw [List.flatMap_cons, List.append_assoc] at same
    cases t with
    | nil => exact absurd same (first.append_ne_cons closes.ne_backslash)
    | cons d t =>
      rw [List.flatMap_cons, List.append_assoc] at same
      obtain ⟨_, others⟩ := List.forall_mem_cons.mp spelled
      obtain ⟨first', others'⟩ := List.forall_mem_cons.mp spelled'
      obtain ⟨rfl, rest⟩ := first.append_inj first' same
      obtain ⟨rfl, rfl⟩ := ih others others' rest
      exact ⟨rfl, rfl⟩

end Bodies

theorem quote_append_inj {s t x y : Text} (same : s.quote ++ x = t.quote ++ y) : s = t ∧ x = y := by
  simp only [quote, List.cons_append, List.append_assoc, List.nil_append] at same
  obtain ⟨mark, body⟩ := List.cons.inj same
  rw [← mark] at body
  have closes := isMark_quotationMark s
  exact flatMap_append_inj closes (isSpelling_of_mem closes fun _ => rfl)
    (isSpelling_of_mem closes fun _ => rfl) body

theorem ofBytes_injective : Function.Injective ofBytes := by
  apply List.map_injective_iff.mpr
  intro a b same
  have code (byte : UInt8) : (Char.ofNat byte.toNat).toNat = byte.toNat :=
    Utf8.toNat_ofNat (.inl (Nat.lt_trans byte.toNat_lt (by decide)))
  have equal := congrArg Char.toNat same
  rw [code, code] at equal
  exact UInt8.toNat_inj.mp equal

theorem quoteBytes_append_inj {data other : List UInt8} {x y : Text}
    (same : quoteBytes data ++ x = quoteBytes other ++ y) : data = other ∧ x = y := by
  simp only [quoteBytes, List.cons_append, List.append_assoc, List.nil_append] at same
  obtain ⟨mark, body⟩ := List.cons.inj (List.cons.inj same).2
  rw [← mark] at body
  have closes := isMark_quotationMark (ofBytes data)
  obtain ⟨equal, rest⟩ := flatMap_append_inj closes (isSpelling_of_mem closes fun _ => rfl)
    (isSpelling_of_mem closes fun _ => rfl) body
  exact ⟨ofBytes_injective equal, rest⟩

/-- The double quote encloses only what it does not occur in. -/
theorem eq_quotationMark_of_mem {s : Text} (member : s.quotationMark ∈ s) :
    apostrophe = s.quotationMark := by
  unfold quotationMark at member ⊢
  split
  case isTrue enclosed =>
    rw [if_pos enclosed] at member
    simp [member] at enclosed
  case isFalse => rfl

theorem isSpelling_of_mem_byteBuffer (data : List UInt8) :
    ∀ c ∈ ofBytes data,
      IsSpelling (ofBytes data).quotationMark c (escapeChar apostrophe isPrintableAscii c) :=
  isSpelling_of_mem (.inl rfl) eq_quotationMark_of_mem

theorem quoteByteBuffer_append_inj {data other : List UInt8} {x y : Text}
    (same : quoteByteBuffer data ++ x = quoteByteBuffer other ++ y) : data = other ∧ x = y := by
  unfold quoteByteBuffer at same
  generalize "bytearray(b".toList = name at same
  simp only [List.append_assoc, List.cons_append, List.nil_append] at same
  obtain ⟨mark, body⟩ := List.cons.inj (List.append_cancel_left same)
  have spelled := isSpelling_of_mem_byteBuffer data
  have spelled' := isSpelling_of_mem_byteBuffer other
  rw [← mark] at body spelled'
  obtain ⟨equal, rest⟩ := flatMap_append_inj (isMark_quotationMark (ofBytes data)) spelled spelled'
    body
  exact ⟨ofBytes_injective equal, (List.cons.inj rest).2⟩

end TextCursor.Text

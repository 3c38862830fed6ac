import TextCursor.Proofs.Text.Printable
import TextCursor.Value.Literal

/-! Literals of values can be shown whole. However deep a value is nested, no part
of its literal is anything but a numeral, a quoted literal or fixed ASCII. -/
namespace TextCursor

open Text

namespace Decimal

theorem isShown_zeros (count : Int) : (zeros count).IsShown := by
  intro c member
  rw [List.eq_of_mem_replicate member]
  decide

theorem isShown_positional {digits : Text} (shown : digits.IsShown) (point : Int) :
    (positional digits point).IsShown := by
  have marks : isPrintable '0' ∧ isPrintable '.' := by decide
  unfold positional
  split
  · simp [marks, isShown_zeros, shown]
  split
  · simp [marks, isShown_zeros, shown]
  · simp [marks, shown.take, shown.drop]

theorem isShown_scientific {digits : Text} (shown : digits.IsShown) (exponent : Int) :
    (scientific digits exponent).IsShown := by
  have fraction : IsShown (if (digits.drop 1).isEmpty then [] else '.' :: digits.drop 1) := by
    split
    · exact isShown_nil
    · exact isShown_cons.mpr ⟨by decide, shown.drop 1⟩
  have sign : isPrintable (if exponent < 0 then '-' else '+') := by
    split <;> decide
  have letter : isPrintable 'e' := by decide
  simp only [scientific, isShown_append, isShown_cons]
  exact ⟨⟨⟨shown.take 1, fraction⟩, letter, sign, isShown_zeros _⟩, isShown_ofNat _⟩

theorem isShown_literal (d : Decimal) : d.literal.IsShown := by
  unfold literal
  split
  · exact isShown_positional (isShown_ofNat d.digits) d.point
  · exact isShown_scientific (isShown_ofNat d.digits) (d.point - 1)

end Decimal

namespace Binary

theorem isShown_signed (negative : Bool) {s : Text} (shown : s.IsShown) :
    (signed negative s).IsShown := by
  cases negative with
  | false => exact shown
  | true => exact isShown_cons.mpr ⟨by decide, shown⟩

theorem isShown_literal (number : Binary) : number.literal.IsShown := by
  cases number with
  | notANumber => decide
  | infinite negative => exact isShown_signed negative (by decide)
  | finite negative m =>
    apply isShown_signed
    unfold Magnitude.literal
    split
    · decide
    · exact Decimal.isShown_literal _

end Binary

theorem isShown_commaSeparated {parts : List Text} (shown : ∀ part ∈ parts, part.IsShown) :
    (commaSeparated parts).IsShown :=
  isShown_intercalate (by decide) shown

theorem isShown_braced {body : Text} (shown : body.IsShown) : (braced body).IsShown := by
  have braces : isPrintable '\x7b' ∧ isPrintable '\x7d' := by decide
  simp [braced, braces, shown]

theorem ItemsKind.isShown_enclose (kind : ItemsKind) {parts : List Text}
    (shown : ∀ part ∈ parts, part.IsShown) : (kind.enclose parts).IsShown := by
  have separated := isShown_commaSeparated shown
  have marks : isPrintable '[' ∧ isPrintable ']' ∧ isPrintable '(' ∧ isPrintable ')' ∧
      isPrintable ',' := by decide
  unfold enclose
  split
  case h_1 => simp [marks, separated]
  case h_2 part => simp [marks, shown part List.mem_cons_self]
  case h_3 => simp [marks, separated]
  case h_4 => decide
  case h_5 => exact isShown_braced separated

theorem BytesKind.isShown_literal (kind : BytesKind) (data : List UInt8) :
    (kind.literal data).IsShown := by
  cases kind with
  | constant => exact isShown_quoteBytes data
  | buffer => exact isShown_quoteByteBuffer data
  | view =>
    have fixed : IsShown "<memory>".toList := by decide
    exact fixed

namespace Value

mutual

theorem isShown_literal : ∀ v : Value, v.literal.IsShown
  | .text s => isShown_quote s
  | .int n => isShown_ofInt n
  | .bool true => by decide
  | .bool false => by decide
  | .null => by decide
  | .float number => number.isShown_literal
  | .bytes kind data => kind.isShown_literal data
  | .items kind elements => kind.isShown_enclose (isShown_literals elements)
  | .mapping entries => isShown_braced (isShown_commaSeparated (isShown_entryLiterals entries))

theorem isShown_literals : ∀ vs : List Value, ∀ part ∈ literals vs, part.IsShown
  | [] => nofun
  | v :: rest => List.forall_mem_cons.mpr ⟨isShown_literal v, isShown_literals rest⟩

theorem isShown_entryLiterals :
    ∀ entries : List (Value × Value), ∀ part ∈ entryLiterals entries, part.IsShown
  | [] => nofun
  | (k, v) :: rest => by
    have colon : IsShown ": ".toList := by decide
    have entry := isShown_append.mpr
      ⟨isShown_append.mpr ⟨isShown_literal k, colon⟩, isShown_literal v⟩
    rw [entryLiterals]
    exact List.forall_mem_cons.mpr ⟨entry, isShown_entryLiterals rest⟩

end

end Value

end TextCursor

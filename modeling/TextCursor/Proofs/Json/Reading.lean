import TextCursor.Json.Reader
import TextCursor.Proofs.Text.Numeral
import Mathlib.Algebra.Group.Nat.Defs

/-! The reader undoes the writer. A piece of text moves the lexing machine from
one state to another and completes some tokens; the pieces an object is written
of are followed through one after another. -/
namespace TextCursor.Json

inductive Lexes : Lexing → Text → List Token → Lexing → Prop where
  | nil {state : Lexing} : Lexes state [] [] state
  | cons {state next after : Lexing} {c : Char} {rest : Text} {tokens more : List Token} :
      lexChar state c = some (tokens, next) → Lexes next rest more after →
      Lexes state (c :: rest) (tokens ++ more) after

namespace Lexes

variable {state next middle after : Lexing} {c : Char} {s t : Text} {tokens more : List Token}

theorem shift (moved : lexChar state c = some ([], next)) (read : Lexes next s tokens after) :
    Lexes state (c :: s) tokens after :=
  .cons moved read

theorem single (moved : lexChar state c = some (tokens, after)) :
    Lexes state [c] tokens after := by
  have read := Lexes.cons moved .nil
  rwa [List.append_nil] at read

theorem append (first : Lexes state s tokens middle) (last : Lexes middle t more after) :
    Lexes state (s ++ t) (tokens ++ more) after := by
  induction first with
  | nil => exact last
  | cons moved _ ih =>
    rw [List.cons_append, List.append_assoc]
    exact .cons moved (ih last)

theorem lex_eq (read : Lexes state s tokens after) :
    lex state s = (lexEnd after).map (tokens ++ ·) := by
  induction read with
  | @nil state => cases ended : lexEnd state <;> simp [lex, ended]
  | @cons state next after c rest tokens more moved _ ih =>
    simp only [lex, moved, ih, Option.bind_eq_bind, Option.bind_some]
    cases lexEnd after <;> simp

end Lexes

section Strings

variable {reversed : Text}

theorem lexes_hex (width left value n : Nat) (small : n < 16 ^ width) :
    Lexes (.code reversed (left + width) value) (Text.hex width n) []
      (.code reversed left (value * 16 ^ width + n)) := by
  induction width generalizing left n with
  | zero =>
    obtain rfl : n = 0 := by simpa using small
    simpa [Text.hex] using Lexes.nil
  | succ width ih =>
    rw [Nat.pow_succ] at small
    have read := ih (left + 1) (n / 16) (by omega)
    rw [show left + 1 + width = left + (width + 1) by omega] at read
    refine read.append (.single ?_)
    have value_eq : (value * 16 ^ width + n / 16) * 16 + n % 16 = value * 16 ^ (width + 1) + n := by
      rw [Nat.pow_succ, ← Nat.mul_assoc]
      omega
    simp only [lexChar, Text.hexDigit?_digitChar _ (Nat.mod_lt n (by decide : 0 < 16)), value_eq]

-- The last digit ends the code, so it is not among those that `lexes_hex` reads.
theorem lexes_code (c : Char) (small : c.toNat < 0x20) :
    Lexes (.string reversed) ('\\' :: 'u' :: Text.hex 4 c.toNat) [] (.string (c :: reversed)) := by
  have first : Lexes (.code reversed (0 + 3) 0) (Text.hex 3 (c.toNat / 16)) []
      (.code reversed 0 (0 * 16 ^ 3 + c.toNat / 16)) :=
    lexes_hex 3 0 0 (c.toNat / 16) (by omega)
  have last : lexChar (.code reversed 0 (0 * 16 ^ 3 + c.toNat / 16))
      (Nat.digitChar (c.toNat % 16)) = some ([], .string (c :: reversed)) := by
    have value_eq : (0 * 16 ^ 3 + c.toNat / 16) * 16 + c.toNat % 16 = c.toNat := by omega
    have valid : c.toNat.isValidChar := c.valid
    simp only [lexChar, Text.hexDigit?_digitChar _ (Nat.mod_lt c.toNat (by decide : 0 < 16)),
      value_eq, if_pos valid, Char.ofNat_toNat]
  exact .shift rfl (.shift rfl (first.append (.single last)))

theorem lexes_named {letter c : Char} (named : namedEscape? letter = some c)
    (isLetter : letter ≠ 'u') :
    Lexes (.string reversed) ['\\', letter] [] (.string (c :: reversed)) := by
  refine .shift rfl (.single ?_)
  simp only [lexChar, if_neg isLetter, named, Option.map_some]

/-- Whatever the character, a string goes on behind it. -/
theorem lexes_escapeChar (c : Char) :
    Lexes (.string reversed) (escapeChar c) [] (.string (c :: reversed)) := by
  unfold escapeChar
  split
  case isTrue special =>
    cases special with
    | inl quote => subst quote; exact lexes_named rfl (by decide)
    | inr backslash => subst backslash; exact lexes_named rfl (by decide)
  case isFalse plain =>
    split
    case isTrue same => subst same; exact lexes_named rfl (by decide)
    split
    case isTrue same => subst same; exact lexes_named rfl (by decide)
    split
    case isTrue same => subst same; exact lexes_named rfl (by decide)
    split
    case isTrue same => subst same; exact lexes_named rfl (by decide)
    split
    case isTrue same => subst same; exact lexes_named rfl (by decide)
    split
    case isTrue small => exact lexes_code c small
    case isFalse large =>
      obtain ⟨noQuote, noBackslash⟩ := not_or.mp plain
      apply Lexes.single
      simp only [lexChar, if_neg noQuote, if_neg noBackslash, if_neg large]

theorem lexes_body (s : Text) :
    Lexes (.string reversed) (s.flatMap escapeChar) [] (.string (s.reverse ++ reversed)) := by
  induction s generalizing reversed with
  | nil => exact .nil
  | cons c s ih =>
    rw [List.flatMap_cons, List.reverse_cons, List.append_assoc]
    exact (lexes_escapeChar c).append ih

theorem lexes_string (s : Text) : Lexes .between (string s) [.scalar (.text s)] .between := by
  have closed : lexChar (.string (s.reverse ++ [])) '\x22' =
      some ([.scalar (.text s)], .between) := by
    simp [lexChar]
  exact .shift rfl ((lexes_body s).append (.single closed))

end Strings

section Numbers

theorem decimalDigit?_digitChar :
    ∀ digit < 10, decimalDigit? (Nat.digitChar digit) = some digit := by
  decide

theorem lexes_ofNat {start : Lexing} {negative : Bool}
    (starts : ∀ digit < 10, lexChar start (Nat.digitChar digit) =
      some ([], firstDigit negative digit)) (n : Nat) :
    Lexes start (Text.ofNat n) [] (firstDigit negative n) := by
  induction n using Nat.strongRecOn with
  | ind n ih =>
    cases Nat.lt_or_ge n 10 with
    | inl small =>
      rw [Text.ofNat_of_lt small]
      exact .single (starts n small)
    | inr large =>
      -- All digits but the last are a shorter numeral, and that one is not zero.
      rw [Text.ofNat_of_le large]
      refine (ih (n / 10) (by omega)).append (.single ?_)
      have nonzero : n / 10 ≠ 0 := by omega
      have digit := decimalDigit?_digitChar (n % 10) (Nat.mod_lt n (by decide))
      simp only [firstDigit, if_neg nonzero, lexChar, digit]
      rw [show n / 10 * 10 + n % 10 = n by omega, if_neg (by omega)]

def pending : Int → Lexing
  | .ofNat n => firstDigit false n
  | .negSucc n => firstDigit true (n + 1)

theorem lexes_ofInt (n : Int) : Lexes .between (Text.ofInt n) [] (pending n) := by
  cases n with
  | ofNat n =>
    apply lexes_ofNat
    decide
  | negSucc n =>
    have sign : lexChar .between '-' = some ([], .minus) := rfl
    refine .shift sign (lexes_ofNat ?_ (n + 1))
    decide

theorem lexChar_firstDigit {c : Char} (negative : Bool) (n : Nat) (ends : decimalDigit? c = none) :
    lexChar (firstDigit negative n) c =
      (lexBetween c).map fun (tokens, after) => (signed negative n :: tokens, after) := by
  by_cases zero : n = 0
  · subst zero
    simp [firstDigit, lexChar, ends]
  · simp only [firstDigit, if_neg zero, lexChar, ends]

theorem lexChar_pending {c : Char} (n : Int) (ends : decimalDigit? c = none) :
    lexChar (pending n) c =
      (lexBetween c).map fun (tokens, after) => (.scalar (.number n) :: tokens, after) := by
  cases n with
  | ofNat n => exact lexChar_firstDigit false n ends
  | negSucc n =>
    exact lexChar_firstDigit true (n + 1) ends

end Numbers

/-- A value is complete once a character follows that no number goes on with. -/
theorem lexes_render (value : Scalar) {c : Char} {tokens : List Token} {after : Lexing}
    (ends : decimalDigit? c = none) (next : lexBetween c = some (tokens, after)) :
    Lexes .between (value.render ++ [c]) (.scalar value :: tokens) after := by
  cases value with
  | text s => exact (lexes_string s).append (.single next)
  | number n =>
    refine (lexes_ofInt n).append (.single ?_)
    rw [lexChar_pending n ends, next, Option.map_some]

theorem lexes_member (name : Text) (value : Scalar) {c : Char} {token : Token}
    (ends : decimalDigit? c = none) (next : lexBetween c = some ([token], .between)) :
    Lexes .between (member name value ++ [c])
      [.scalar (.text name), .colon, .scalar value, token] .between := by
  have colon : lexChar .between ':' = some ([.colon], .between) := rfl
  have separator : Lexes .between ": ".toList [.colon] .between := .cons colon (.single rfl)
  have read := ((lexes_string name).append separator).append (lexes_render value ends next)
  rwa [← List.append_assoc] at read

def memberTokens : List (Text × Scalar) → List Token
  | [] => [.closing]
  | [(name, value)] => [.scalar (.text name), .colon, .scalar value, .closing]
  | (name, value) :: rest =>
    [.scalar (.text name), .colon, .scalar value, .comma] ++ memberTokens rest

theorem memberTokens_cons (name : Text) (value : Scalar) {rest : List (Text × Scalar)}
    (several : rest ≠ []) :
    memberTokens ((name, value) :: rest) =
      [.scalar (.text name), .colon, .scalar value, .comma] ++ memberTokens rest := by
  cases rest with
  | nil => contradiction
  | cons => rfl

theorem lexes_members (members : List (Text × Scalar)) :
    Lexes .between
      (List.intercalate ", ".toList (members.map fun (name, value) => member name value) ++
        ['\x7d'])
      (memberTokens members) .between := by
  induction members with
  | nil => exact .single rfl
  | cons first rest ih =>
    obtain ⟨name, value⟩ := first
    cases rest with
    | nil => simpa [memberTokens] using lexes_member name value rfl rfl
    | cons second rest =>
      have blank : Lexes .between [' '] [] .between := .single rfl
      have read := ((lexes_member name value (c := ',') rfl rfl).append blank).append ih
      rw [memberTokens_cons name value (List.cons_ne_nil second rest)]
      simpa [List.intercalate_cons_cons] using read

theorem members?_memberTokens {members : List (Text × Scalar)} (nonempty : members ≠ []) :
    members? (memberTokens members) = some members := by
  induction members with
  | nil => contradiction
  | cons first rest ih =>
    obtain ⟨name, value⟩ := first
    cases rest with
    | nil => rfl
    | cons second rest =>
      have several := List.cons_ne_nil second rest
      rw [memberTokens_cons name value several]
      simp only [List.cons_append, List.nil_append, members?, ih several, Option.map_some]

/-- Reading an object gives back the members it was written with, in their order. -/
theorem readObject?_object (members : List (Text × Scalar)) :
    readObject? (object members) = some members := by
  have brace : lexChar .between '\x7b' = some ([.opening], .between) := rfl
  have read : Lexes .between (object members) (.opening :: memberTokens members) .between :=
    .cons brace (lexes_members members)
  have tokens : lex .between (object members) = some (.opening :: memberTokens members) := by
    simp [read.lex_eq, lexEnd]
  cases members with
  | nil => rfl
  | cons first rest =>
    have accepted := members?_memberTokens (List.cons_ne_nil first rest)
    have opened : ∃ name more, memberTokens (first :: rest) = .scalar (.text name) :: more := by
      cases rest <;> exact ⟨_, _, rfl⟩
    obtain ⟨name, more, opened⟩ := opened
    rw [opened] at tokens accepted
    simp only [readObject?, tokens]
    exact accepted

end TextCursor.Json

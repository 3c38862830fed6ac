import TextCursor.Text.Quoted

/-! Reading of quoted literals, one character at a time. Every spelling of a
character is accepted, not only the one that quoting chooses, but for spellings
by the name of the character. A backslash before a line feed stands for nothing,
and one that escapes nothing for itself. After the closing mark nothing may come. -/
namespace TextCursor.Text

/-- What the next character of a literal belongs to; of a code, `left` digits
follow the next one, or up to so many if they are octal. -/
inductive Unquoting where
  | plain
  | escape
  | code (left value : Nat)
  | octal (left value : Nat)
  deriving DecidableEq

def namedEscape? (c : Char) : Option Char :=
  if c = '\\' ∨ c = apostrophe ∨ c = doubleQuote then some c
  else if c = 'a' then some '\x07'
  else if c = 'b' then some '\x08'
  else if c = 't' then some '\t'
  else if c = 'n' then some '\n'
  else if c = 'v' then some '\x0b'
  else if c = 'f' then some '\x0c'
  else if c = 'r' then some '\r'
  else none

def codeWidth? (c : Char) : Option Nat :=
  if c = 'x' then some 2 else if c = 'u' then some 4 else if c = 'U' then some 8 else none

def octalDigit? (c : Char) : Option Nat := "01234567".toList.idxOf? c

def goesOnOctal (rest : Text) : Bool := rest.head?.any fun c => (octalDigit? c).isSome

def unquoteBody (mark : Char) : Unquoting → Text → Option Text
  | _, [] => none
  | .plain, c :: rest =>
    if c = mark then if rest.isEmpty then some [] else none
    else if c = '\\' then
      unquoteBody mark (if goesOnOctal rest then .octal 2 0 else .escape) rest
    else if c = '\n' ∨ c = '\r' then none
    else (unquoteBody mark .plain rest).map (c :: ·)
  | .escape, c :: rest =>
    match namedEscape? c, codeWidth? c with
    | some char, _ => (unquoteBody mark .plain rest).map (char :: ·)
    | none, some width => unquoteBody mark (.code (width - 1) 0) rest
    | none, none =>
      if c = '\n' then unquoteBody mark .plain rest
      else if c = 'N' ∨ c = '\r' then none
      else (unquoteBody mark .plain rest).map fun s => '\\' :: c :: s
  | .code left value, c :: rest =>
    match hexDigit? c, left with
    | none, _ => none
    | some digit, left + 1 => unquoteBody mark (.code left (value * 16 + digit)) rest
    | some digit, 0 =>
      if (value * 16 + digit).isValidChar then
        (unquoteBody mark .plain rest).map (Char.ofNat (value * 16 + digit) :: ·)
      else none
  | .octal left value, c :: rest =>
    match octalDigit? c with
    | none => none
    | some digit =>
      if 0 < left ∧ goesOnOctal rest then
        unquoteBody mark (.octal (left - 1) (value * 8 + digit)) rest
      else (unquoteBody mark .plain rest).map (Char.ofNat (value * 8 + digit) :: ·)

def unquote? : Text → Option Text
  | [] => none
  | mark :: body =>
    if mark = apostrophe ∨ mark = doubleQuote then unquoteBody mark .plain body else none

end TextCursor.Text

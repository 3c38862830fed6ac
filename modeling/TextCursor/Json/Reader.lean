import TextCursor.Json.Object

/-! Reading of a flat JSON object. Characters are turned into tokens by a
machine that sees one at a time, and tokens into members. Blanks may stand
between tokens; a code that is no character is refused. -/
namespace TextCursor.Json

inductive Token where
  | opening
  | closing
  | comma
  | colon
  | scalar (value : Scalar)
  deriving DecidableEq

/-- Where the machine stands. The characters of a string are kept last first; of
a code, `left` digits follow the next one. -/
inductive Lexing where
  | between
  | string (reversed : Text)
  | escape (reversed : Text)
  | code (reversed : Text) (left value : Nat)
  | minus
  | zero (negative : Bool)
  | digits (negative : Bool) (value : Nat)
  deriving DecidableEq

def decimalDigit? (c : Char) : Option Nat :=
  if '0' ≤ c ∧ c ≤ '9' then some (c.toNat - '0'.toNat) else none

def signed (negative : Bool) (value : Nat) : Token :=
  .scalar (.number (if negative then -(value : Int) else value))

def isBlank (c : Char) : Bool := c = ' ' || c = '\t' || c = '\n' || c = '\r'

def firstDigit (negative : Bool) (digit : Nat) : Lexing :=
  if digit = 0 then .zero negative else .digits negative digit

def lexBetween (c : Char) : Option (List Token × Lexing) :=
  if isBlank c then some ([], .between)
  else if c = '\x7b' then some ([.opening], .between)
  else if c = '\x7d' then some ([.closing], .between)
  else if c = ',' then some ([.comma], .between)
  else if c = ':' then some ([.colon], .between)
  else if c = '\x22' then some ([], .string [])
  else if c = '-' then some ([], .minus)
  else (decimalDigit? c).map fun digit => ([], firstDigit false digit)

def namedEscape? (c : Char) : Option Char :=
  if c = '\x22' ∨ c = '\\' ∨ c = '/' then some c
  else if c = 'b' then some '\x08'
  else if c = 'f' then some '\x0c'
  else if c = 'n' then some '\n'
  else if c = 'r' then some '\r'
  else if c = 't' then some '\t'
  else none

def lexChar (state : Lexing) (c : Char) : Option (List Token × Lexing) :=
  match state with
  | .between => lexBetween c
  | .string reversed =>
    if c = '\x22' then some ([.scalar (.text reversed.reverse)], .between)
    else if c = '\\' then some ([], .escape reversed)
    else if c.toNat < 0x20 then none
    else some ([], .string (c :: reversed))
  | .escape reversed =>
    if c = 'u' then some ([], .code reversed 3 0)
    else (namedEscape? c).map fun char => ([], .string (char :: reversed))
  | .code reversed left value =>
    match Text.hexDigit? c, left with
    | none, _ => none
    | some digit, left + 1 => some ([], .code reversed left (value * 16 + digit))
    | some digit, 0 =>
      if (value * 16 + digit).isValidChar then
        some ([], .string (Char.ofNat (value * 16 + digit) :: reversed))
      else none
  | .minus => (decimalDigit? c).map fun digit => ([], firstDigit true digit)
  | .zero negative =>
    if (decimalDigit? c).isSome then none
    else (lexBetween c).map fun (tokens, after) => (signed negative 0 :: tokens, after)
  | .digits negative value =>
    match decimalDigit? c with
    | some digit => some ([], .digits negative (value * 10 + digit))
    | none => (lexBetween c).map fun (tokens, after) => (signed negative value :: tokens, after)

def lexEnd : Lexing → Option (List Token)
  | .between => some []
  | .zero negative => some [signed negative 0]
  | .digits negative value => some [signed negative value]
  | _ => none

def lex (state : Lexing) : Text → Option (List Token)
  | [] => lexEnd state
  | c :: rest => do
    let (tokens, after) ← lexChar state c
    return tokens ++ (← lex after rest)

def members? : List Token → Option (List (Text × Scalar))
  | [.scalar (.text name), .colon, .scalar value, .closing] => some [(name, value)]
  | .scalar (.text name) :: .colon :: .scalar value :: .comma :: rest =>
    (members? rest).map ((name, value) :: ·)
  | _ => none

def readObject? (s : Text) : Option (List (Text × Scalar)) :=
  match lex .between s with
  | some [.opening, .closing] => some []
  | some (.opening :: rest) => members? rest
  | _ => none

end TextCursor.Json

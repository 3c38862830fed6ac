import TextCursor.Binary.Basic
import TextCursor.Text.Numeral

/-! Decimal texts of binary numbers. Reading takes the nearest number; writing
takes the fewest digits that are read as the same number. -/
namespace TextCursor

structure Decimal where
  digits : Nat
  exponent : Int
  deriving DecidableEq

namespace Decimal

def ratio (d : Decimal) : Ratio := Ratio.scale ⟨d.digits, 1⟩ 10 d.exponent

def point (d : Decimal) : Int := (Text.ofNat d.digits).length + d.exponent

def toBinary (d : Decimal) (negative : Bool) : Binary :=
  -- What is far out of range on either side is not computed.
  if d.digits = 0 ∨ d.point < -400 then .finite negative .zero
  else if 400 < d.point then .infinite negative
  else
    match Magnitude.nearest? d.ratio with
    | some m => .finite negative m
    | none => .infinite negative

def zeros (count : Int) : Text := List.replicate count.toNat '0'

def positional (digits : Text) (point : Int) : Text :=
  if point ≤ 0 then '0' :: '.' :: zeros (-point) ++ digits
  else if digits.length ≤ point then digits ++ zeros (point - digits.length) ++ ['.', '0']
  else digits.take point.toNat ++ '.' :: digits.drop point.toNat

def scientific (digits : Text) (exponent : Int) : Text :=
  let fraction := digits.drop 1
  let size := Text.ofNat exponent.natAbs
  digits.take 1 ++ (if fraction.isEmpty then [] else '.' :: fraction) ++
    'e' :: (if exponent < 0 then '-' else '+') :: zeros (2 - size.length) ++ size

def literal (d : Decimal) : Text :=
  let digits := Text.ofNat d.digits
  if -4 < d.point ∧ d.point ≤ 16 then positional digits d.point
  else scientific digits (d.point - 1)

end Decimal

def Ratio.decimalOrder (r : Ratio) : Int :=
  if r.denominator ≤ r.numerator then (Text.ofNat r.floor).length
  else 1 - ((Text.ofNat ((r.denominator - 1) / r.numerator)).length : Int)

namespace Magnitude

/-- The decimal of `count` digits that is read as this magnitude, if there is
one. Only the two next to it can be, and the nearer one is tried first. -/
def decimalOf? (m : Magnitude) (count : Nat) : Option Decimal :=
  let exponent := m.ratio.decimalOrder - count
  let scaled := m.ratio.scale 10 (-exponent)
  let nearer : Decimal := ⟨scaled.round, exponent⟩
  let farther : Decimal := ⟨2 * scaled.floor + 1 - scaled.round, exponent⟩
  [nearer, farther].find? fun d => nearest? d.ratio = some m

def exactDecimal (m : Magnitude) : Decimal :=
  ⟨m.mantissa * Nat.pow 2 m.exponent.toNat * Nat.pow 5 (-m.exponent).toNat, min m.exponent 0⟩

/-- The shortest decimal that is read as a positive magnitude; seventeen digits are enough. -/
def shortest (m : Magnitude) : Decimal :=
  let found := (List.range 17).findSome? fun more => m.decimalOf? (more + 1)
  let d := found.getD m.exactDecimal
  if d.digits % 10 = 0 then ⟨d.digits / 10, d.exponent + 1⟩ else d

def literal (m : Magnitude) : Text :=
  if m.mantissa = 0 then ['0', '.', '0'] else m.shortest.literal

end Magnitude

namespace Binary

def signed (negative : Bool) (s : Text) : Text := if negative then '-' :: s else s

def literal : Binary → Text
  | .notANumber => "nan".toList
  | .infinite negative => signed negative "inf".toList
  | .finite negative m => signed negative m.literal

def splitSign : Text → Bool × Text
  | '-' :: rest => (true, rest)
  | '+' :: rest => (false, rest)
  | rest => (false, rest)

def exponent? : Text → Option Int
  | [] => some 0
  | mark :: rest =>
    let (negative, digits) := splitSign rest
    if mark.toLower = 'e' ∧ digits ≠ [] ∧ digits.all Char.isDigit then
      let size : Int := Nat.ofDigitChars 10 digits 0
      some (if negative then -size else size)
    else none

def decimal? (s : Text) : Option Decimal :=
  let (whole, rest) := s.span Char.isDigit
  let (fraction, rest) :=
    match rest with
    | '.' :: rest => rest.span Char.isDigit
    | _ => ([], rest)
  let digits := whole ++ fraction
  if digits.isEmpty then none
  else (exponent? rest).map fun exponent =>
    ⟨Nat.ofDigitChars 10 digits 0, exponent - fraction.length⟩

def ofText? (s : Text) : Option Binary :=
  let (negative, unsigned) := splitSign s
  let word := unsigned.map Char.toLower
  if word = "nan".toList then some .notANumber
  else if word = "inf".toList ∨ word = "infinity".toList then some (.infinite negative)
  else (decimal? unsigned).map fun d => d.toBinary negative

end Binary

end TextCursor

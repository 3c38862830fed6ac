/-! Binary floating-point numbers of 53 significant bits, and the one nearest to
a fraction. All arithmetic is exact on natural numbers. -/
namespace TextCursor

structure Ratio where
  numerator : Nat
  denominator : Nat
  deriving DecidableEq

namespace Ratio

def scale (r : Ratio) (base : Nat) (exponent : Int) : Ratio :=
  ⟨r.numerator * base.pow exponent.toNat, r.denominator * base.pow (-exponent).toNat⟩

def floor (r : Ratio) : Nat := r.numerator / r.denominator

/-- The nearest natural number, and the even one of two that are as near. -/
def round (r : Ratio) : Nat :=
  let rest := 2 * (r.numerator % r.denominator)
  if rest < r.denominator ∨ (rest = r.denominator ∧ r.floor % 2 = 0) then r.floor
  else r.floor + 1

def binaryOrder (r : Ratio) : Int :=
  let guess : Int := r.numerator.log2 - r.denominator.log2
  if 1 ≤ (r.scale 2 (-guess)).floor then guess else guess - 1

end Ratio

structure Magnitude where
  mantissa : Nat
  exponent : Int
  deriving DecidableEq

namespace Magnitude

def leastExponent : Int := -1074
def greatestExponent : Int := 971

def zero : Magnitude := ⟨0, leastExponent⟩

def ratio (m : Magnitude) : Ratio := Ratio.scale ⟨m.mantissa, 1⟩ 2 m.exponent

/-- A mantissa that rounding has carried to 54 bits gives its last bit to the exponent. -/
def carried (mantissa : Nat) (exponent : Int) : Magnitude :=
  if mantissa = Nat.pow 2 53 then ⟨Nat.pow 2 52, exponent + 1⟩ else ⟨mantissa, exponent⟩

def nearest? (r : Ratio) : Option Magnitude :=
  if r.numerator = 0 then some zero
  else
    let exponent := max (r.binaryOrder - 52) leastExponent
    let m := carried (r.scale 2 (-exponent)).round exponent
    if m.exponent ≤ greatestExponent then some m else none

end Magnitude

inductive Binary where
  | notANumber
  | infinite (negative : Bool)
  | finite (negative : Bool) (magnitude : Magnitude)
  deriving DecidableEq

def Binary.toInt? : Binary → Option Int
  | .finite negative m =>
    let r := m.ratio
    if r.numerator % r.denominator = 0 then some (if negative then -(r.floor : Int) else r.floor)
    else none
  | _ => none

end TextCursor

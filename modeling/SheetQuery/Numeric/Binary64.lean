/-!
# Binary64 numbers

Every finite 64-bit binary floating-point number is a whole multiple of 2^-1074, so a number is kept
as its sign and its magnitude in that unit. Comparison is then comparison of integers, and rounding
a ratio of integers is one integer division with a half-to-even rule.

* `Number`: the finite numbers, with both zeros;
* `Binary64`: the numbers, the two infinities and "not a number";
* `Binary64.ofRatio`, `ofInt?`, `ofDecimal`: rounding to 53 significant bits.
-/

namespace SheetQuery

/-- A finite binary64 number: sign and magnitude in units of 2^-1074. -/
structure Number where
  negative : Bool
  units : Nat
deriving DecidableEq, Repr

/-- A binary64 value. -/
inductive Binary64 where
  | finite (number : Number)
  | infinite (negative : Bool)
  | nan
deriving DecidableEq, Repr

/-- The quotient rounded to the nearest integer, a half to the even one. -/
def roundDiv (num den : Nat) : Nat :=
  let quotient := num / den
  let twice := 2 * (num % den)
  if den < twice || (twice == den && quotient % 2 == 1) then quotient + 1 else quotient

namespace Number

/-- How many units make one. -/
def unitsPerOne : Nat := Nat.pow 2 1074

/-- The number as a signed count of units; both zeros count as none. -/
def signed (x : Number) : Int := if x.negative then -(x.units : Int) else x.units

instance : LT Number := ⟨fun x y => x.signed < y.signed⟩
instance : LE Number := ⟨fun x y => x.signed ≤ y.signed⟩
instance (x y : Number) : Decidable (x < y) := inferInstanceAs (Decidable (x.signed < y.signed))
instance (x y : Number) : Decidable (x ≤ y) := inferInstanceAs (Decidable (x.signed ≤ y.signed))

/-- The smaller of two numbers, the first of equals. -/
def min (x y : Number) : Number := if y < x then y else x

/-- The larger of two numbers, the first of equals. -/
def max (x y : Number) : Number := if x < y then y else x

/-- Is the number whole? -/
def isWhole (x : Number) : Bool := x.units % unitsPerOne == 0

/-- The whole part of the magnitude, with the sign. -/
def toInt (x : Number) : Int :=
  let whole : Int := (x.units / unitsPerOne : Nat)
  if x.negative then -whole else whole

end Number

namespace Binary64

/-- The finite number, if it is one. -/
def finite? : Binary64 → Option Number
  | finite x => some x
  | _ => none

/-- The number of low bits of a magnitude that lie below its 53 significant ones. -/
def surplusBits (units : Nat) : Nat := units.log2 + 1 - 53

/-- The magnitudes from here on round to infinity. -/
def overflowUnits : Nat := Nat.pow 2 2098

/-- The binary64 value nearest to `num / den`, a tie to the even significand. -/
def ofRatio (negative : Bool) (num den : Nat) : Binary64 :=
  let scaled := num * Number.unitsPerOne
  let grain := Nat.pow 2 (surplusBits (scaled / den))
  let units := roundDiv scaled (den * grain) * grain
  if units < overflowUnits then finite ⟨negative, units⟩ else infinite negative

/-- The number nearest to an integer, unless the integer is beyond the finite range. -/
def ofInt? (n : Int) : Option Number := (ofRatio (n < 0) n.natAbs 1).finite?

/-- The binary64 value nearest to `digits * 10 ^ exponent`. Far outside the range of the format the
answer is known without computing the power. -/
def ofDecimal (negative : Bool) (digits : Nat) (exponent : Int) : Binary64 :=
  if digits == 0 || exponent + (digits.log2 + 1 : Nat) < -400 then finite ⟨negative, 0⟩
  else if 400 < exponent then infinite negative
  else if 0 ≤ exponent then ofRatio negative (digits * Nat.pow 10 exponent.toNat) 1
  else ofRatio negative digits (Nat.pow 10 (-exponent).toNat)

end Binary64

end SheetQuery

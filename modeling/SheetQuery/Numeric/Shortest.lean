import SheetQuery.Numeric.Binary64

/-!
# Shortest decimal text

The decimal digits of a number are the fewest that still round to it; among as many digits, the
nearest, and of two equally near the even one. `render` then lays them out: positional between
10^-4 and 10^16, always with a point, and in exponent form outside.
-/

namespace SheetQuery

/-- A positive decimal `digits * 10 ^ exponent`. -/
structure Decimal where
  digits : Nat
  exponent : Int
deriving DecidableEq, Repr

/-- The decimal digits of a natural number, as text. -/
def digitChars (n : Nat) : List Char := Nat.toDigits 10 n

/-- An integer in decimal, as text. -/
def intChars (n : Int) : List Char :=
  if n < 0 then '-' :: digitChars n.natAbs else digitChars n.natAbs

namespace Decimal

/-- Moves trailing zeros of the digits into the exponent, at most `fuel` of them. -/
def strip : (fuel : Nat) → Decimal → Decimal
  | 0, d => d
  | fuel + 1, d =>
    if d.digits != 0 && d.digits % 10 == 0 then strip fuel ⟨d.digits / 10, d.exponent + 1⟩ else d

end Decimal

namespace Number

/-- Is the magnitude below `10 ^ k`? -/
def belowPower (units : Nat) (k : Int) : Bool :=
  units * Nat.pow 10 (-k).toNat < Nat.pow 10 k.toNat * unitsPerOne

/-- The least `k` with the magnitude below `10 ^ k`, found next to an estimate from the binary
length. -/
def decimalLength (units : Nat) : Int :=
  let estimate := ((units.log2 : Int) - 1074) * 30103 / 100000
  if belowPower units estimate then estimate
  else if belowPower units (estimate + 1) then estimate + 1
  else estimate + 2

/-- The decimal with `count` digits that rounds to the magnitude and is nearest to it, if there is
one. A decimal rounds to the magnitude if it lies within half the distance to the next number above
or below, and exactly on that half if the significand is even. -/
def withDigits? (units count : Nat) : Option Decimal :=
  let surplus := Binary64.surplusBits units
  let even := units / Nat.pow 2 surplus % 2 == 0
  let exponent := decimalLength units - count
  -- in quarters of a unit, so that both half distances are whole
  let widen := Nat.pow 10 (-exponent).toNat
  let value := 4 * units * widen
  let above := 2 * Nat.pow 2 surplus * widen
  let below := if surplus != 0 && units == Nat.pow 2 units.log2 then Nat.pow 2 surplus * widen
    else above
  let step := 4 * unitsPerOne * Nat.pow 10 exponent.toNat
  let low := value / step
  let lowGap := value % step
  let highGap := step - lowGap
  let lowFits := low != 0 && (lowGap < below || (even && lowGap == below))
  let highFits := highGap < above || (even && highGap == above)
  if lowFits && (!highFits || lowGap < highGap || (lowGap == highGap && low % 2 == 0)) then
    some ⟨low, exponent⟩
  else if highFits then some ⟨low + 1, exponent⟩
  else none

/-- The shortest decimal of a positive magnitude. Seventeen digits always suffice. -/
def shortest (units : Nat) : Decimal :=
  let found := ((List.range 17).findSome? fun i => withDigits? units (i + 1)).getD ⟨0, 0⟩
  found.strip 17

/-- The text of the number: a point or an exponent is always there, so that it never reads as an
integer. -/
def render (x : Number) : List Char :=
  let body :=
    if x.units == 0 then ['0', '.', '0']
    else
      let decimal := shortest x.units
      let digits := digitChars decimal.digits
      let point := (digits.length : Int) + decimal.exponent
      if point ≤ -4 || 16 < point then
        let fraction := if digits.length ≤ 1 then digits else digits.take 1 ++ '.' :: digits.drop 1
        let power := (point - 1).natAbs
        fraction ++ ['e', if point - 1 < 0 then '-' else '+']
          ++ (if power < 10 then '0' :: digitChars power else digitChars power)
      else if point ≤ 0 then ['0', '.'] ++ List.replicate (-point).toNat '0' ++ digits
      else if digits.length ≤ point.toNat then
        digits ++ List.replicate (point.toNat - digits.length) '0' ++ ['.', '0']
      else digits.take point.toNat ++ '.' :: digits.drop point.toNat
  if x.negative then '-' :: body else body

end Number

/-- The text of a binary64 value. -/
def Binary64.render : Binary64 → List Char
  | .finite x => x.render
  | .infinite false => ['i', 'n', 'f']
  | .infinite true => ['-', 'i', 'n', 'f']
  | .nan => ['n', 'a', 'n']

end SheetQuery

/-!
# ImportMaps — numbers in double precision

A double-precision number that is not negative is a whole `significand` times a
power of two. The significand has at most 53 bits and the exponent is at least
-1074; the sign is kept elsewhere.

Every operation is exact arithmetic on whole numbers followed by one rounding
(`Binary.ofRatio?`): to the nearest such number, and on a tie to the one with an
even significand. A result of 2^1024 or more has no double.
-/

namespace ImportMaps.Decimal

def twoTo (n : Nat) : Nat := Nat.pow 2 n

def tenTo (n : Nat) : Nat := Nat.pow 10 n

/-- The number `significand · 2 ^ exponent`. -/
structure Binary where
  significand : Nat
  exponent : Int
  deriving DecidableEq, Repr

namespace Binary

/-- Zero, with the least exponent. -/
def zero : Binary := ⟨0, -1074⟩

/-- A quotient rounded to the nearest whole number, to the even one on a tie. -/
def roundDiv (num den : Nat) : Nat :=
  let quotient := num / den
  let twice := 2 * (num % den)
  if den < twice || (twice = den && quotient % 2 = 1) then quotient + 1 else quotient

/-- The exponent of the greatest power of two that is at most `num / den`. -/
def binaryOrder (num den : Nat) : Int :=
  let guess : Int := (num.log2 : Int) - (den.log2 : Int)
  let reached :=
    if 0 ≤ guess then den * twoTo guess.toNat ≤ num else den ≤ num * twoTo (-guess).toNat
  if reached then guess else guess - 1

/-- The double nearest to `num / den`, if there is one. -/
def ofRatio? (num den : Nat) : Option Binary :=
  if num = 0 then
    some zero
  else
    -- Fifty-three bits from the leading one on, unless the least exponent cuts some off.
    let exponent := max (binaryOrder num den - 52) (-1074)
    let significand :=
      if 0 ≤ exponent then roundDiv num (den * twoTo exponent.toNat)
      else roundDiv (num * twoTo (-exponent).toNat) den
    -- Rounding up may carry into one bit more.
    let rounded : Binary :=
      if significand = twoTo 53 then ⟨twoTo 52, exponent + 1⟩ else ⟨significand, exponent⟩
    if 971 < rounded.exponent then none else some rounded

/-- The numerator of a double written as a fraction. -/
def num (b : Binary) : Nat :=
  b.significand * twoTo b.exponent.toNat

/-- The denominator of a double written as a fraction. -/
def den (b : Binary) : Nat :=
  twoTo (-b.exponent).toNat

def mul? (a b : Binary) : Option Binary :=
  ofRatio? (a.num * b.num) (a.den * b.den)

def div? (a b : Binary) : Option Binary :=
  ofRatio? (a.num * b.den) (a.den * b.num)

/-- The double nearest to a power of ten. -/
def powerOfTen? (n : Nat) : Option Binary :=
  ofRatio? (tenTo n) 1

/-- A double scaled by a power of ten. One rounded multiplication or division
does it while the power has a double of its own; a number scaled further down is
divided by 10^308 first. There is no result when it grows too large. -/
def scale? (b : Binary) (power : Int) : Option Binary :=
  if power < -308 then
    if b.significand = 0 then
      some b
    else do
      let b ← b.div? (← powerOfTen? 308)
      scale? b (power + 308)
  else if power < 0 then do
    b.div? (← powerOfTen? (-power).toNat)
  else if power ≤ 308 then do
    b.mul? (← powerOfTen? power.toNat)
  else if b.significand = 0 then
    some b
  else
    none
  termination_by (-power).toNat

end Binary

end ImportMaps.Decimal

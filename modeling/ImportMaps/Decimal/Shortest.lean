import ImportMaps.Decimal.Binary

/-!
# ImportMaps — the shortest decimal of a double

A double stands for all reals that round to it. Its decimal text has the fewest
digits with which a decimal lies in that interval; of two such decimals the
nearer one is taken, and on a tie the one whose last digit is even.

For each number of digits only the two neighbours of the double on the decimal
grid need a look: when any point of the grid lies in the interval, one of these
does.

The digits are then laid out: positionally, with at least one digit after the
point, while the leading digit stands for 10^-5 to 10^15, and with a signed
exponent beyond that.
-/

namespace ImportMaps.Decimal

/-- The decimal `coefficient · 10 ^ power`. -/
structure Scaled where
  coefficient : Nat
  power : Int
  deriving DecidableEq, Repr

namespace Binary

/-- The exponent of the greatest power of ten that is at most `num / den`. -/
def decimalOrder (num den : Nat) : Int :=
  let reaches (e : Int) : Bool :=
    if 0 ≤ e then den * tenTo e.toNat ≤ num else den ≤ num * tenTo (-e).toNat
  let guess := (binaryOrder num den * 30103).fdiv 100000
  if reaches (guess + 1) then guess + 1 else if reaches guess then guess else guess - 1

/-- Whether `coefficient · 10 ^ power` rounds to the double. The interval lies
between the midpoints to the two neighbouring doubles; below a power of two the
lower neighbour is only half as far away. The ends belong to it when the
significand is even. -/
def holds (b : Binary) (coefficient : Nat) (power : Int) : Bool :=
  -- How far down the interval reaches, in quarters of a unit in the last place.
  let below := if b.significand = twoTo 52 && -1074 < b.exponent then 1 else 2
  -- Both ends and the decimal over one denominator.
  let unit := twoTo (b.exponent - 2).toNat * tenTo (-power).toNat
  let value := coefficient * tenTo power.toNat * twoTo (2 - b.exponent).toNat
  let low := (4 * b.significand - below) * unit
  let high := (4 * b.significand + 2) * unit
  if b.significand % 2 = 0 then low ≤ value && value ≤ high else low < value && value < high

/-- The shortest decimal when at least `digits` digits are needed, trying at most
`tries` lengths. -/
def shortestFrom (b : Binary) (order : Int) (digits : Nat) : (tries : Nat) → Scaled
  | 0 => ⟨b.num, 0⟩
  | tries + 1 =>
    let power := order - digits + 1
    let num := b.num * tenTo (-power).toNat
    let den := b.den * tenTo power.toNat
    let low := num / den
    let twice := 2 * (num % den)
    let preferHigh := den < twice || (twice = den && low % 2 = 1)
    match b.holds low power, b.holds (low + 1) power with
    | true, true => ⟨if preferHigh then low + 1 else low, power⟩
    | true, false => ⟨low, power⟩
    | false, true => ⟨low + 1, power⟩
    | false, false => shortestFrom b order (digits + 1) tries

/-- The shortest decimal of a double other than zero. Seventeen digits always
suffice. -/
def shortest (b : Binary) : Scaled :=
  shortestFrom b (decimalOrder b.num b.den) 1 17

end Binary

/-! ## Layout -/

def significantDigits (n : Nat) : List Char :=
  ((Nat.toDigits 10 n).reverse.dropWhile (· == '0')).reverse

/-- The text of a decimal whose leading digit stands for `10 ^ order`. -/
def layout (digits : List Char) (order : Int) : List Char :=
  if -5 ≤ order && order < 0 then
    '0' :: '.' :: List.replicate ((-order).toNat - 1) '0' ++ digits
  else if 0 ≤ order && order ≤ 15 then
    let whole := order.toNat + 1
    let fraction := digits.drop whole
    digits.take whole ++ List.replicate (whole - digits.length) '0' ++
      '.' :: (if fraction.isEmpty then ['0'] else fraction)
  else
    let sign := if order < 0 then '-' else '+'
    digits.take 1 ++ (if digits.length ≤ 1 then [] else '.' :: digits.drop 1) ++
      'e' :: sign :: Nat.toDigits 10 order.natAbs

def Binary.text (b : Binary) : List Char :=
  if b.significand = 0 then
    ['0', '.', '0']
  else
    let s := b.shortest
    let order := s.power + ((Nat.toDigits 10 s.coefficient).length : Int) - 1
    layout (significantDigits s.coefficient) order

end ImportMaps.Decimal

/-!
# Finite binary fractions

The finite numbers of the 64 bit binary format, as a sign, a natural number below `2 ^ 53` and a
power of two. `nearest?` rounds a quotient to them, and products, quotients and decimals are
rounded by it; `shortest` goes back to a decimal with as few digits as round to the same number,
and `text` lays these digits out.
-/

namespace RegistrySession

/-- The number `± mantissa * 2 ^ exponent`. Every finite number has exactly one form in which the
mantissa is below `2 ^ 53` and either reaches `2 ^ 52` or goes with the least exponent. -/
structure Double where
  negative : Bool
  mantissa : Nat
  exponent : Int
  deriving DecidableEq, Inhabited

namespace Double

/-- `2 ^ 53`, which every mantissa is below. -/
def mantissaBound : Nat := 9007199254740992

/-- `2 ^ 52`, the least mantissa of 53 binary digits. -/
def leastNormal : Nat := 4503599627370496

def leastExponent : Int := -1074

def greatestExponent : Int := 971

def zero (negative : Bool) : Double := ⟨negative, 0, leastExponent⟩

/-- The numerator and the denominator of `digits * base ^ power`. -/
def ratio (digits base : Nat) (power : Int) : Nat × Nat :=
  match power with
  | .ofNat n => (digits * Nat.pow base n, 1)
  | .negSucc n => (digits, Nat.pow base (n + 1))

/-- A quotient rounded to the nearest natural number, a half to the even neighbour. -/
def roundDiv (numerator denominator : Nat) : Nat :=
  let floor := numerator / denominator
  let twice := 2 * (numerator % denominator)
  if twice < denominator then floor
  else if denominator < twice then floor + 1
  else floor + floor % 2

/-- A positive quotient over `2 ^ power`. -/
def scaled (numerator denominator : Nat) (power : Int) : Nat × Nat :=
  match power with
  | .ofNat n => (numerator, denominator * Nat.pow 2 n)
  | .negSucc n => (numerator * Nat.pow 2 (n + 1), denominator)

/-- The exponent at which a positive quotient has 53 binary digits, or the least one. -/
def exponentFor (numerator denominator : Nat) : Int :=
  let guess := max (Int.ofNat numerator.log2 - Int.ofNat denominator.log2 - 53) leastExponent
  let (n, d) := scaled numerator denominator guess
  if n / d < mantissaBound then guess else guess + 1

/-- The nearest number to `± numerator / denominator`, or nothing where that is beyond the
greatest. -/
def nearest? (negative : Bool) (numerator denominator : Nat) : Option Double :=
  if numerator = 0 then some (zero negative)
  else
    let exponent := exponentFor numerator denominator
    let (n, d) := scaled numerator denominator exponent
    let rounded := roundDiv n d
    let (mantissa, exponent) :=
      if rounded = mantissaBound then (leastNormal, exponent + 1) else (rounded, exponent)
    if greatestExponent < exponent then none else some ⟨negative, mantissa, exponent⟩

/-- The nearest number to `± digits * 10 ^ power`, or nothing where that is beyond the greatest.
The first two tests only keep the powers of ten small. -/
def ofDecimal? (negative : Bool) (digits : Nat) (power : Int) : Option Double :=
  let magnitude := power + Int.ofNat (Nat.toDigits 10 digits).length
  if digits = 0 ∨ magnitude < -330 then some (zero negative)
  else if 310 < magnitude then none
  else
    let (numerator, denominator) := ratio digits 10 power
    nearest? negative numerator denominator

def times? (x y : Double) : Option Double :=
  let (xn, xd) := ratio x.mantissa 2 x.exponent
  let (yn, yd) := ratio y.mantissa 2 y.exponent
  nearest? (x.negative != y.negative) (xn * yn) (xd * yd)

/-- The quotient, rounded. Nothing is over zero. -/
def over? (x y : Double) : Option Double :=
  let (xn, xd) := ratio x.mantissa 2 x.exponent
  let (yn, yd) := ratio y.mantissa 2 y.exponent
  if yn = 0 then none else nearest? (x.negative != y.negative) (xn * yd) (xd * yn)

/-- The greatest power of ten that rounds to a number of the format. -/
def greatestTen : Nat := 308

/-- The number times `10 ^ power`, rounded at each step: a power of ten within the format is
multiplied by or divided by at once, a number to be divided by more is first divided by the
greatest of them. Nothing where a step is beyond the greatest number, and no number but zero is
multiplied by a power of ten outside the format. -/
def shift? (x : Double) (power : Int) : Option Double :=
  if power.natAbs ≤ greatestTen then do
    let ten ← ofDecimal? false 1 power.natAbs
    if power < 0 then x.over? ten else x.times? ten
  else if x.mantissa = 0 then some x
  else if 0 < power then none
  else do
    let ten ← ofDecimal? false 1 greatestTen
    (← x.over? ten).shift? (power + greatestTen)
termination_by power.natAbs
decreasing_by simp only [greatestTen] at *; omega

/-- Four times the value and four times the two ends of the interval that rounds to it, over one
denominator. Below a power of two the lower neighbour is half as far away. -/
structure Interval where
  lower : Nat
  value : Nat
  upper : Nat
  denominator : Nat
  closed : Bool

def interval (x : Double) : Interval :=
  let below := if x.mantissa = leastNormal ∧ leastExponent < x.exponent then 1 else 2
  let (unit, denominator) := ratio 1 2 x.exponent
  { lower := (4 * x.mantissa - below) * unit
    value := 4 * x.mantissa * unit
    upper := (4 * x.mantissa + 2) * unit
    denominator := 4 * denominator
    closed := x.mantissa % 2 = 0 }

def Interval.contains (i : Interval) (digits : Nat) (power : Int) : Bool :=
  let (n, d) := ratio digits 10 power
  let point := n * i.denominator
  if i.closed then i.lower * d ≤ point && point ≤ i.upper * d
  else i.lower * d < point && point < i.upper * d

/-- The better of the two neighbours of the value on the grid `10 ^ power`, if one of them lies in
the interval. -/
def Interval.onGrid? (i : Interval) (power : Int) : Option Nat :=
  let (n, d) := match power with
    | .ofNat p => (i.value, i.denominator * Nat.pow 10 p)
    | .negSucc p => (i.value * Nat.pow 10 (p + 1), i.denominator)
  let floor := n / d
  let nearest := roundDiv n d
  let other := if nearest = floor then floor + 1 else floor
  if i.contains nearest power then some nearest
  else if i.contains other power then some other
  else none

/-- The number of digits before the point, or minus the number of zeros behind it. -/
def pointOf (numerator denominator : Nat) : Int :=
  if denominator ≤ numerator then Int.ofNat (Nat.toDigits 10 (numerator / denominator)).length
  else 1 - Int.ofNat (Nat.toDigits 10 ((denominator - 1) / numerator)).length

/-- The fewest digits, up to 17, that read back as the number, as `digits * 10 ^ power`. -/
def shortest (x : Double) : Nat × Int :=
  let i := x.interval
  let point := pointOf i.value i.denominator
  let found := (List.range 17).findSome? fun n =>
    let power := point - Int.ofNat (n + 1)
    (i.onGrid? power).map fun digits => (digits, power)
  found.getD (0, 0)

/-- The digits without the zeros at their end, which go into the power of ten. -/
def trim : List Char → Int → List Char × Int
  | digits, power =>
    let kept := (digits.reverse.dropWhile (· = '0')).reverse
    (kept, power + Int.ofNat (digits.length - kept.length))

/-- Positional with a point if the power of ten of the first digit is from -5 to 15, and beyond with
an exponent, which always has a sign. -/
def layOut (digits : List Char) (power : Int) : List Char :=
  let count := Int.ofNat digits.length
  let point := count + power
  if 0 ≤ power ∧ point ≤ 16 then digits ++ List.replicate power.toNat '0' ++ ['.', '0']
  else if 0 < point ∧ point ≤ 16 then
    digits.take point.toNat ++ '.' :: digits.drop point.toNat
  else if -5 < point ∧ point ≤ 0 then
    '0' :: '.' :: List.replicate (-point).toNat '0' ++ digits
  else
    let lead := if digits.length ≤ 1 then digits else digits.take 1 ++ '.' :: digits.drop 1
    lead ++ 'e' :: (if 0 < point then '+' else '-') :: Nat.toDigits 10 (point - 1).natAbs

def text (x : Double) : List Char :=
  let sign := if x.negative then ['-'] else []
  if x.mantissa = 0 then sign ++ ['0', '.', '0']
  else
    let (digits, power) := x.shortest
    let (digits, power) := trim (Nat.toDigits 10 digits) power
    sign ++ layOut digits power

end Double

end RegistrySession

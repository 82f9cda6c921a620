import SystemSketch.Text.Digits

/-!
# Numbers of double precision

A number with a fraction is held with 53 binary digits, between the least and the greatest power
of two that 64 bits admit; everything else is rounded to the nearest such number, a tie to the
one whose last digit is even. Numbers that are too large become infinite.

## Main definitions

* `Double` — the numbers.
* `Double.ofRatio` — the number nearest to a ratio.
* `Double.ofDecimal` — the number nearest to a decimal fraction.
* `Double.lt`, `Double.same` — the order of numbers.
* `Double.add`, `Double.mul` — sums and products.
-/

namespace SystemSketch

/-- A number of double precision, or an integer of any size in their order. -/
inductive Double where
  /-- `mantissa` times two to the power of `exponent`. -/
  | finite (mantissa exponent : Int)
  | infinite (negative : Bool)
  /-- What is no number. -/
  | undefined
  deriving DecidableEq

namespace Double

/-- The number zero. -/
def zero : Double := finite 0 0

/-- An integer, which is not rounded. -/
def ofInt (n : Int) : Double := finite n 0

/-- How many binary digits a mantissa has. -/
def precision : Nat := 53

/-- The least exponent. -/
def leastExponent : Int := -1074

/-- The power of two that is too large. -/
def bound : Nat := Nat.pow 2 1024

/-- The quotient of two numbers, rounded to an integer, a tie to the even one. -/
def roundedQuotient (n d : Nat) : Nat :=
  let q := n / d
  let twice := 2 * (n % d)
  if d < twice || (twice == d && q % 2 == 1) then q + 1 else q

/-- The ratio of two numbers with `exponent` taken out, as a ratio of integers. -/
def scaled (n d : Nat) (exponent : Int) : Nat × Nat :=
  if 0 ≤ exponent then (n, d * Nat.pow 2 exponent.toNat)
  else (n * Nat.pow 2 (-exponent).toNat, d)

/-- The exponent that leaves a ratio a mantissa of full precision. -/
def exponentOf (n d : Nat) : Int :=
  let exponent : Int := (Nat.log2 n : Int) - Nat.log2 d - precision
  let (m, d) := scaled n d exponent
  max leastExponent (if d * Nat.pow 2 precision ≤ m then exponent + 1 else exponent)

/-- The number nearest to the ratio of two numbers. -/
def ofRatio (negative : Bool) (n d : Nat) : Double :=
  if n == 0 then zero
  else
    let exponent := exponentOf n d
    let (m, d) := scaled n d exponent
    let q := roundedQuotient m d
    if 0 ≤ exponent && bound ≤ q * Nat.pow 2 exponent.toNat then infinite negative
    else finite (if negative then -(q : Int) else q) exponent

/-- The number nearest to an integer times a power of two. -/
def ofBinary (mantissa exponent : Int) : Double :=
  let n := mantissa.natAbs
  if 0 ≤ exponent then ofRatio (mantissa < 0) (n * Nat.pow 2 exponent.toNat) 1
  else ofRatio (mantissa < 0) n (Nat.pow 2 (-exponent).toNat)

/-- The number nearest to an integer times a power of ten. Powers beyond reach are not
computed. -/
def ofDecimal (negative : Bool) (mantissa : Nat) (exponent : Int) : Double :=
  let magnitude : Int := ((Nat.toDigits 10 mantissa).length : Int) + exponent
  if mantissa == 0 || magnitude < -400 then zero
  else if 400 < magnitude then infinite negative
  else if 0 ≤ exponent then ofRatio negative (mantissa * Nat.pow 10 exponent.toNat) 1
  else ofRatio negative mantissa (Nat.pow 10 (-exponent).toNat)

/-- A number written with digits, a point and an exponent, of which the last two may be missing;
a sign may stand before the number and before the exponent. -/
def ofWritten (cs : List Char) : Double :=
  let isExponent c := c == 'e' || c == 'E'
  let number := cs.takeWhile fun c => !isExponent c
  let power := (cs.dropWhile fun c => !isExponent c).drop 1
  let digits (cs : List Char) := Text.decimalValue (cs.filter Char.isDigit)
  let exponent : Int := if power.head? == some '-' then -(digits power : Int) else digits power
  let fraction := (number.dropWhile (· != '.')).filter Char.isDigit
  ofDecimal (number.head? == some '-') (digits number) (exponent - fraction.length)

/-- Whether the first of two numbers is less than the second one. -/
def lt : Double → Double → Bool
  | finite m e, finite n f =>
    let least := min e f
    m * Int.pow 2 (e - least).toNat < n * Int.pow 2 (f - least).toNat
  | finite .., infinite negative => !negative
  | infinite negative, finite .. => negative
  | infinite a, infinite b => a && !b
  | undefined, _ | _, undefined => false

/-- Whether two numbers are equal. What is no number equals nothing. -/
def same (a b : Double) : Bool :=
  a != undefined && b != undefined && !lt a b && !lt b a

/-- Whether a number is less than zero. -/
def isNegative : Double → Bool
  | finite m _ => m < 0
  | infinite negative => negative
  | undefined => false

/-- Whether a number is zero. -/
def isZero : Double → Bool
  | finite m _ => m == 0
  | _ => false

/-- Whether a number is neither infinite nor undefined. -/
def isFinite : Double → Bool
  | finite .. => true
  | _ => false

/-- The sum of two numbers. -/
def add : Double → Double → Double
  | finite m e, finite n f =>
    let least := min e f
    ofBinary (m * Int.pow 2 (e - least).toNat + n * Int.pow 2 (f - least).toNat) least
  | infinite a, infinite b => if a == b then infinite a else undefined
  | infinite a, finite .. | finite .., infinite a => infinite a
  | undefined, _ | _, undefined => undefined

/-- The product of two numbers. -/
def mul : Double → Double → Double
  | finite m e, finite n f => ofBinary (m * n) (e + f)
  | undefined, _ | _, undefined => undefined
  | a, b => if a.isZero || b.isZero then undefined else infinite (a.isNegative != b.isNegative)

/-- The integer that a number is. -/
def integer? : Double → Option Int
  | finite m e =>
    if 0 ≤ e then some (m * Int.pow 2 e.toNat)
    else if m % Int.pow 2 (-e).toNat == 0 then some (m / Int.pow 2 (-e).toNat)
    else none
  | _ => none

/-- A number with the other sign. -/
def neg : Double → Double
  | finite m e => finite (-m) e
  | infinite negative => infinite !negative
  | undefined => undefined

end Double

end SystemSketch

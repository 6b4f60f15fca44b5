/-!
# The shortest decimal of a binary number

A finite number in double precision stands for every real number that rounds to it, an interval.
`Decimal.shortest` picks from the interval a decimal with the fewest digits, and of those the one
nearest to the number; of two at one distance, the even one. All arithmetic is exact.

The texts of a decimal are here as well: the positional one, and one with an exponent for numbers
that are very large or very small.
-/

namespace PathRouter

/-- The decimal number `digits · 10 ^ exponent`. -/
structure Decimal where
  /-- The digits, as one number. -/
  digits : Nat
  /-- The power of ten of the last digit. -/
  exponent : Int
deriving DecidableEq, Repr

namespace Decimal

/-- Whether the sign bit is set. -/
def isNegative (bits : UInt64) : Bool :=
  bits.toNat ≥ 1 <<< 63

/-- The exponent bits. -/
def exponentBits (bits : UInt64) : Nat :=
  bits.toNat / (1 <<< 52) % (1 <<< 11)

/-- The fraction bits. -/
def fractionBits (bits : UInt64) : Nat :=
  bits.toNat % (1 <<< 52)

/-- Whether the bits stand for a number. -/
def isFinite (bits : UInt64) : Bool :=
  exponentBits bits != 2047

/-- The numerator and the denominator of a power of two. -/
def powerOfTwo (e : Int) : Nat × Nat :=
  (1 <<< e.toNat, 1 <<< (-e).toNat)

/-- The reals that round to a number, as multiples of `unit / parts`. The ends belong to the
interval if `closed` holds. -/
structure Interval where
  /-- The number itself. -/
  value : Nat
  /-- The lower end. -/
  low : Nat
  /-- The upper end. -/
  high : Nat
  /-- Numerator of the unit. -/
  unit : Nat
  /-- Denominator of the unit. -/
  parts : Nat
  /-- Whether the ends round to the number, too. -/
  closed : Bool

/-- The interval of the absolute value of a number. The distance to the next number is twice as far
upwards as downwards at a power of two. -/
def interval (bits : UInt64) : Interval :=
  let e := exponentBits bits
  let m := if e = 0 then fractionBits bits else fractionBits bits + (1 <<< 52)
  let (unit, parts) := powerOfTwo ((max e 1 : Int) - 1075 - 2)
  { value := 4 * m
    low := if fractionBits bits = 0 ∧ 1 < e then 4 * m - 1 else 4 * m - 2
    high := 4 * m + 2
    unit, parts
    closed := m % 2 == 0 }

/-- Whether the decimal number `c · 10 ^ k` lies in an interval. -/
def Interval.holds (i : Interval) (c : Nat) (k : Int) : Bool :=
  let scaled := c * Nat.pow 10 k.toNat * i.parts
  let low := i.low * i.unit * Nat.pow 10 (-k).toNat
  let high := i.high * i.unit * Nat.pow 10 (-k).toNat
  if i.closed then low ≤ scaled && scaled ≤ high else low < scaled && scaled < high

/-- The decimal of an interval that is a multiple of `10 ^ k`, the nearest one to the number. -/
def Interval.atScale? (i : Interval) (k : Int) : Option Decimal :=
  let top := i.value * i.unit * Nat.pow 10 (-k).toNat
  let bottom := i.parts * Nat.pow 10 k.toNat
  let below := top / bottom
  let above := below + 1
  match 0 < below && i.holds below k, i.holds above k with
  | false, false => none
  | true, false => some ⟨below, k⟩
  | false, true => some ⟨above, k⟩
  | true, true =>
    let remainder := 2 * (top % bottom)
    if remainder < bottom || remainder = bottom && below % 2 = 0 then some ⟨below, k⟩
    else some ⟨above, k⟩

/-- Tries ever finer scales. -/
def Interval.shortestFrom (i : Interval) (k : Int) : Nat → Decimal
  | 0 => ⟨0, 0⟩
  | n + 1 =>
    match i.atScale? k with
    | some d => d
    | none => i.shortestFrom (k - 1) n

/-- The power of ten above a positive number. -/
def Interval.leadingScale (i : Interval) : Int :=
  let top := i.value * i.unit
  if i.parts ≤ top then (Nat.toDigits 10 (top / i.parts)).length
  else 1 - (Nat.toDigits 10 (i.parts / top)).length

/-- The shortest decimal of the absolute value of a finite number. -/
def shortest (bits : UInt64) : Decimal :=
  let i := interval bits
  if i.value = 0 then ⟨0, 0⟩ else i.shortestFrom (i.leadingScale + 1) 20

/-- Zeros. -/
def zeros (n : Nat) : List Char :=
  List.replicate n '0'

/-- The positional text, without a point if there is nothing after it. -/
def positional (d : Decimal) : List Char :=
  let digits := Nat.toDigits 10 d.digits
  let point := (digits.length : Int) + d.exponent
  if 0 ≤ d.exponent then digits ++ (if d.digits = 0 then [] else zeros d.exponent.toNat)
  else if 0 < point then digits.take point.toNat ++ '.' :: digits.drop point.toNat
  else ['0', '.'] ++ zeros (-point).toNat ++ digits

/-- The positional text with a point, `1.0` and not `1`. -/
def pointed (d : Decimal) : List Char :=
  let text := positional d
  if text.contains '.' then text else text ++ ['.', '0']

/-- The text of an integer. -/
def ofInt (n : Int) : List Char :=
  if n < 0 then '-' :: Nat.toDigits 10 n.natAbs else Nat.toDigits 10 n.natAbs

/-- The text of an exponent, always with a sign. -/
def signed (n : Int) : List Char :=
  if n < 0 then ofInt n else '+' :: ofInt n

/-- The text with a point, or with an exponent from `10 ^ 16` upwards and below `10 ^ (-5)`. -/
def scientific (d : Decimal) : List Char :=
  let digits := Nat.toDigits 10 d.digits
  let point := (digits.length : Int) + d.exponent
  if -5 < point && point ≤ 16 then pointed d
  else
    match digits with
    | [] => []
    | lead :: rest =>
        lead :: (if rest.isEmpty then [] else '.' :: rest) ++ 'e' :: signed (point - 1)

/-- The text of a number in double precision, with exponents where needed. -/
def textOfBits (bits : UInt64) : List Char :=
  (if isNegative bits then ['-'] else []) ++ scientific (shortest bits)

/-- The positional text of a number in double precision, and the names of what is no number. -/
def plainTextOfBits (bits : UInt64) : List Char :=
  if isFinite bits then (if isNegative bits then ['-'] else []) ++ pointed (shortest bits)
  else if fractionBits bits ≠ 0 then ['N', 'a', 'N']
  else if isNegative bits then ['-', 'i', 'n', 'f'] else ['i', 'n', 'f']

end Decimal

end PathRouter

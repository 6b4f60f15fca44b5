import PathRouter.Json.Error

/-!
# Numbers in JSON texts

A number without fraction and exponent is an integer, as long as it fits into 64 bits. Any other
number is in double precision: its digits are gathered into one integer of 64 bits, digits that no
longer fit are left out, and the result is scaled by a power of ten. A number too large for double
precision is refused.
-/

namespace PathRouter.Json

/-- The largest integer the digits of a number are gathered into. -/
def significandLimit : Nat := (1 <<< 64) - 1

/-- The value of a digit. -/
def digitValue (c : Char) : Nat :=
  c.toNat - '0'.toNat

/-- The value of a row of digits. -/
def digitsValue (digits : List Char) : Nat :=
  digits.foldl (fun n c => 10 * n + digitValue c) 0

/-- Appends digits to a number as long as it stays within the limit, and gives the digits left
over. -/
def gather (n : Nat) : List Char → Nat × List Char
  | [] => (n, [])
  | c :: cs =>
    if 10 * n + digitValue c ≤ significandLimit then gather (10 * n + digitValue c) cs
    else (n, c :: cs)

/-- A power of ten in double precision. -/
def powerOfTen (k : Nat) : Float :=
  Float.ofScientific 1 false k

/-- Divides by powers of ten, in steps of at most `10 ^ 308`. -/
def scaleDown (x : Float) (k : Nat) : Float :=
  if k ≤ 308 then x / powerOfTen k
  else if x == 0 then x
  else scaleDown (x / powerOfTen 308) (k - 308)
termination_by k

/-- The number `significand · 10 ^ exponent` in double precision, or nothing if it is too large. -/
def scale? (significand : Nat) (exponent : Int) : Option Float :=
  let x := significand.toUInt64.toFloat
  if exponent < 0 then some (scaleDown x (-exponent).toNat)
  else if exponent ≤ 308 then
    let y := x * powerOfTen exponent.toNat
    if y.isInf then none else some y
  else if significand = 0 then some x
  else none

/-- A number in double precision, from its parts. -/
def floatOfParts (negative : Bool) (significand : Nat) (exponent : Int) : Except ReadError Json :=
  match scale? significand exponent with
  | none => .error .malformed
  | some x => .ok (float (if negative then -x else x).toBits)

/-- Whether the exponent of a number follows. -/
def startsExponent : List Char → Bool
  | 'e' :: _ | 'E' :: _ => true
  | _ => false

/-- The largest exponent that is evaluated. -/
def exponentLimit : Nat := (1 <<< 31) - 1

/-- Reads the digits of an exponent and finishes the number. -/
def readExponentDigits (negative : Bool) (significand : Nat) (exponent : Int) (down : Bool) :
    List Char → Except ReadError (Json × List Char)
  | [] => .error .unfinished
  | c :: cs =>
    if !c.isDigit then .error .malformed
    else
      let value := digitsValue ((c :: cs).takeWhile Char.isDigit)
      let rest := cs.dropWhile Char.isDigit
      if exponentLimit < value then
        if significand ≠ 0 ∧ !down then .error .malformed
        else .ok (float (if negative then -(0 : Float) else 0).toBits, rest)
      else do
        let shift : Int := if down then -value else value
        return (← floatOfParts negative significand (exponent + shift), rest)

/-- Reads what follows the digits of a number, an exponent or nothing. -/
def readExponent (negative : Bool) (significand : Nat) (exponent : Int) (cs : List Char) :
    Except ReadError (Json × List Char) :=
  if startsExponent cs then
    match cs.tail with
    | '+' :: cs => readExponentDigits negative significand exponent false cs
    | '-' :: cs => readExponentDigits negative significand exponent true cs
    | cs => readExponentDigits negative significand exponent false cs
  else do return (← floatOfParts negative significand exponent, cs)

/-- An integer, or the number in double precision if it does not fit into 64 bits. There is no
integer minus zero. -/
def integerOrFloat (negative : Bool) (n : Nat) : Json :=
  if !negative then int n
  else if 0 < n ∧ n ≤ 1 <<< 63 then int (-n)
  else float (-n.toUInt64.toFloat).toBits

/-- Reads what follows the integer part of a number. `surplus` counts the digits left out of it. -/
def readFraction (negative : Bool) (significand surplus : Nat) (cs : List Char) :
    Except ReadError (Json × List Char) :=
  match cs with
  | '.' :: cs =>
    let fraction := cs.takeWhile Char.isDigit
    if fraction.isEmpty then if cs.isEmpty then .error .unfinished else .error .malformed
    else
      let (total, left) := gather significand fraction
      readExponent negative total ((surplus : Int) - (fraction.length - left.length : Nat))
        (cs.dropWhile Char.isDigit)
  | cs =>
    if surplus = 0 ∧ !startsExponent cs then .ok (integerOrFloat negative significand, cs)
    else readExponent negative significand surplus cs

/-- Reads a number after its sign. -/
def readNumber (negative : Bool) (cs : List Char) : Except ReadError (Json × List Char) :=
  match cs with
  | [] => .error .unfinished
  | '0' :: rest =>
    if (rest.takeWhile Char.isDigit).isEmpty then readFraction negative 0 0 rest
    else .error .malformed
  | c :: _ =>
    if c.isDigit then
      let (significand, left) := gather 0 (cs.takeWhile Char.isDigit)
      readFraction negative significand left.length (cs.dropWhile Char.isDigit)
    else .error .malformed

/-- Skips the exponent of a number if there is one. -/
def skipExponent (cs : List Char) : Except ReadError (List Char) :=
  if startsExponent cs then
    let digits := match cs.tail with
      | '+' :: cs | '-' :: cs => cs
      | cs => cs
    if (digits.takeWhile Char.isDigit).isEmpty then .error .malformed
    else .ok (digits.dropWhile Char.isDigit)
  else .ok cs

/-- Skips a number after its sign. Its size does not matter. -/
def skipNumber (cs : List Char) : Except ReadError (List Char) :=
  let digits := cs.takeWhile Char.isDigit
  if digits.isEmpty || digits.head? == some '0' && digits.length ≠ 1 then .error .malformed
  else
    match cs.dropWhile Char.isDigit with
    | '.' :: cs =>
      if (cs.takeWhile Char.isDigit).isEmpty then .error .malformed
      else skipExponent (cs.dropWhile Char.isDigit)
    | cs => skipExponent cs

end PathRouter.Json

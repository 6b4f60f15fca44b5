import PathRouter.Json.Basic
import PathRouter.Toml.Text

/-!
# Numbers and dates of TOML

Integers have 64 bits and may be written to base ten, sixteen, eight or two. Other numbers are in
double precision; a number too large for it is refused, but a negative one is taken as minus
infinity. Between two digits there may be an underscore. Dates and times are checked and not
evaluated: nothing here asks for them, and they show as an object with one member.
-/

namespace PathRouter.Toml

/-! ## Rows of digits -/

/-- Reads the digits that follow a digit. An underscore must have a digit after it. -/
def moreDigits (isDigit : Char → Bool) : List Char → Option (List Char × List Char)
  | [] => some ([], [])
  | '_' :: c :: cs =>
    if isDigit c then (moreDigits isDigit cs).map fun (ds, cs) => (c :: ds, cs) else none
  | c :: cs =>
    if isDigit c then (moreDigits isDigit cs).map fun (ds, cs) => (c :: ds, cs)
    else if c = '_' then none
    else some ([], c :: cs)

/-- Reads at least one digit. -/
def readDigits (isDigit : Char → Bool) : List Char → Option (List Char × List Char)
  | [] => none
  | c :: cs =>
    if isDigit c then (moreDigits isDigit cs).map fun (ds, cs) => (c :: ds, cs) else none

/-- The value of digits to a base. -/
def valueOf (base : Nat) (digits : List Char) : Nat :=
  digits.foldl (fun n c => base * n + (hexValue? c).getD 0) 0

/-- Reads the integer part of a number, in which nothing follows a zero at the start. -/
def readWhole : List Char → Option (List Char × List Char)
  | '0' :: cs => some (['0'], cs)
  | cs => readDigits Char.isDigit cs

/-! ## Numbers -/

/-- Reads an exponent and gives its value. -/
def readPower (cs : List Char) : Option (Int × List Char) :=
  match cs with
  | '-' :: cs => (readDigits Char.isDigit cs).map fun (ds, cs) => (-(valueOf 10 ds : Int), cs)
  | '+' :: cs => (readDigits Char.isDigit cs).map fun (ds, cs) => ((valueOf 10 ds : Int), cs)
  | cs => (readDigits Char.isDigit cs).map fun (ds, cs) => ((valueOf 10 ds : Int), cs)

/-- Positive infinity in double precision. -/
def infinity : Float := 1 / 0

/-- The number `digits · 10 ^ power` in double precision. -/
def floatOf (digits : List Char) (power : Int) : Float :=
  let n := valueOf 10 digits
  if n = 0 then 0
  else if 400 < power + digits.length then infinity
  else if power + digits.length < -400 then 0
  else Float.ofScientific n (power < 0) power.natAbs

/-- The value of a number in double precision. -/
def floatValue (negative : Bool) (x : Float) : Json :=
  .float (if negative then -x else x).toBits

/-- Reads what follows the integer part of a number, if it is a number in double precision. -/
def readFraction (negative : Bool) (whole : List Char) (cs : List Char) :
    Option (Option (Json × List Char)) :=
  let finish (digits : List Char) (power : Int) (cs : List Char) :
      Option (Option (Json × List Char)) :=
    let x := floatOf digits power
    if x.isInf && !negative then none else some (some (floatValue negative x, cs))
  match cs with
  | '.' :: cs => do
    let (fraction, cs) ← readDigits Char.isDigit cs
    match cs with
    | 'e' :: cs | 'E' :: cs =>
      let (power, cs) ← readPower cs
      finish (whole ++ fraction) (power - fraction.length) cs
    | cs => finish (whole ++ fraction) (-fraction.length) cs
  | 'e' :: cs | 'E' :: cs => do
    let (power, cs) ← readPower cs
    finish whole power cs
  | _ => some none

/-- Reads an integer to a base other than ten. -/
def readBased (base : Nat) (isDigit : Char → Bool) (cs : List Char) :
    Option (Json × List Char) := do
  let (digits, cs) ← readDigits isDigit cs
  if valueOf base digits < 1 <<< 63 then some (.int (valueOf base digits), cs) else none

/-- Reads the names of what is no number. -/
def readSpecial (negative : Bool) : List Char → Option (Json × List Char)
  | 'i' :: 'n' :: 'f' :: cs => some (floatValue negative infinity, cs)
  | 'n' :: 'a' :: 'n' :: cs => some (floatValue negative (0 / 0), cs)
  | _ => none

/-- Reads a number after its sign. -/
def readSigned (negative : Bool) (cs : List Char) : Option (Json × List Char) :=
  match cs with
  | 'i' :: _ | 'n' :: _ => readSpecial negative cs
  | cs => do
    let (whole, rest) ← readWhole cs
    match ← readFraction negative whole rest with
    | some found => some found
    | none =>
      let n := valueOf 10 whole
      if negative then
        if n ≤ 1 <<< 63 then some (.int (-n), rest) else none
      else if n < 1 <<< 63 then some (.int n, rest)
      else none

/-- Reads a number. -/
def readNumber (cs : List Char) : Option (Json × List Char) :=
  match cs with
  | '0' :: 'x' :: cs => readBased 16 (fun c => (hexValue? c).isSome) cs
  | '0' :: 'o' :: cs => readBased 8 (fun c => '0' ≤ c && c ≤ '7') cs
  | '0' :: 'b' :: cs => readBased 2 (fun c => c == '0' || c == '1') cs
  | '-' :: cs => readSigned true cs
  | '+' :: cs => readSigned false cs
  | cs => readSigned false cs

/-! ## Dates and times -/

/-- Reads a number of exactly two digits in a range. -/
def readTwo (low high : Nat) : List Char → Option (Nat × List Char)
  | a :: b :: cs =>
    let n := valueOf 10 [a, b]
    if a.isDigit && b.isDigit && low ≤ n && n ≤ high then some (n, cs) else none
  | _ => none

/-- Reads one character. -/
def readChar (c : Char) : List Char → Option (List Char)
  | [] => none
  | d :: cs => if d = c then some cs else none

/-- The number of days of a month. -/
def daysOf (year month : Nat) : Nat :=
  if month = 2 then if year % 4 = 0 ∧ (year % 100 ≠ 0 ∨ year % 400 = 0) then 29 else 28
  else if month = 4 ∨ month = 6 ∨ month = 9 ∨ month = 11 then 30
  else 31

/-- Reads a time of day. -/
def readTime (cs : List Char) : Option (List Char) := do
  let (_, cs) ← readTwo 0 23 cs
  let cs ← readChar ':' cs
  let (_, cs) ← readTwo 0 59 cs
  let cs ← readChar ':' cs
  let (_, cs) ← readTwo 0 60 cs
  match cs with
  | '.' :: rest =>
    if (rest.takeWhile Char.isDigit).isEmpty then some cs else some (rest.dropWhile Char.isDigit)
  | cs => some cs

/-- Reads the distance to universal time if there is one. -/
def readOffset (cs : List Char) : Option (List Char) :=
  match cs with
  | 'Z' :: cs | 'z' :: cs => some cs
  | '+' :: cs | '-' :: cs => do
    let (_, cs) ← readTwo 0 23 cs
    let cs ← readChar ':' cs
    let (_, cs) ← readTwo 0 59 cs
    return cs
  | cs => some cs

/-- Whether a time of day starts here. -/
def startsTime : List Char → Bool
  | a :: b :: ':' :: _ => a.isDigit && b.isDigit
  | _ => false

/-- Reads a date, and a time if one follows. -/
def readDate (year : Nat) (cs : List Char) : Option (List Char) := do
  let (month, cs) ← readTwo 1 12 cs
  let cs ← readChar '-' cs
  let (day, cs) ← readTwo 1 31 cs
  if daysOf year month < day then none
  else
    match cs with
    | c :: rest =>
      if (c == 'T' || c == 't' || c == ' ') && startsTime rest then readOffset (← readTime rest)
      else some cs
    | [] => some []

/-- What a date or a time shows as. -/
def dateValue : Json :=
  .obj [("date", .null)]

/-- Reads a number, a date or a time. -/
def readNumberOrDate (cs : List Char) : Option (Json × List Char) :=
  match cs with
  | a :: b :: c :: d :: '-' :: rest =>
    if [a, b, c, d].all Char.isDigit then
      (readDate (valueOf 10 [a, b, c, d]) rest).map fun cs => (dateValue, cs)
    else readNumber cs
  | cs =>
    if startsTime cs then (readTime cs).map fun cs => (dateValue, cs) else readNumber cs

end PathRouter.Toml

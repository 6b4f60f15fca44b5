import PathRouter.Json.Error

/-!
# Strings in JSON texts

Reading a string character by character, from after its opening quotation mark. A code of four
hexadecimal digits stands for a UTF-16 unit, and two of them together for a character beyond
U+FFFF. A string whose value is not needed is skipped; then half a pair of units is accepted.

A text may come from bytes that are not all valid UTF-8. Then one character, which means nothing
else in that text, stands for each byte that belongs to no character; it is called `stray` here.
Such a byte may be skipped, but a string that holds one has no value.
-/

namespace PathRouter.Json

/-- The value of a hexadecimal digit. -/
def hexValue? (c : Char) : Option Nat :=
  if '0' ≤ c ∧ c ≤ '9' then some (c.toNat - '0'.toNat)
  else if 'a' ≤ c ∧ c ≤ 'f' then some (c.toNat - 'a'.toNat + 10)
  else if 'A' ≤ c ∧ c ≤ 'F' then some (c.toNat - 'A'.toNat + 10)
  else none

/-- The value of a hexadecimal number. -/
def hexNumber? (digits : List Char) : Option Nat :=
  digits.foldlM (fun n c => (hexValue? c).map (16 * n + ·)) 0

/-- The character of a one letter escape. -/
def unescape? : Char → Option Char
  | '"' => some '"'
  | '\\' => some '\\'
  | '/' => some '/'
  | 'b' => some '\x08'
  | 'f' => some '\x0c'
  | 'n' => some '\n'
  | 'r' => some '\r'
  | 't' => some '\t'
  | _ => none

/-- Whether a unit is the first half of a pair. -/
def isLead (n : Nat) : Bool :=
  0xD800 ≤ n && n ≤ 0xDBFF

/-- Whether a unit is the second half of a pair. -/
def isTrail (n : Nat) : Bool :=
  0xDC00 ≤ n && n ≤ 0xDFFF

/-- The place inside a string. -/
inductive Place where
  /-- Between two characters. -/
  | plain
  /-- After a backslash. -/
  | escaped
  /-- Inside a code, after some digits of it. `lead` is the first half of a pair if it is to be
  completed. -/
  | code (lead : Option Nat) (digits : List Char)
  /-- After the first half of a pair. -/
  | afterLead (lead : Nat)
  /-- After the first half of a pair and a backslash. -/
  | afterLeadEscaped (lead : Nat)
deriving DecidableEq, Repr

/-- The space that a character takes, in bytes. -/
def byteSize (stray : Option Char) (c : Char) : Nat :=
  if stray = some c then 1 else c.utf8Size

/-- The space that digits take in the written code, in bytes. A code ends after four. -/
def width (stray : Option Char) (digits : List Char) : Nat :=
  digits.foldr (fun c n => byteSize stray c + n) 0

/-- What a complete code amounts to: a character, or the first half of a pair. -/
inductive CodeUnit where
  /-- A character. -/
  | char (c : Char)
  /-- The first half of a pair. -/
  | lead (n : Nat)
deriving DecidableEq, Repr

/-- Evaluates a code. -/
def CodeUnit.ofCode? (lead : Option Nat) (digits : List Char) : Option CodeUnit :=
  match hexNumber? digits, lead with
  | none, _ => none
  | some n, none =>
    if isTrail n then none
    else if isLead n then some (.lead n)
    else some (.char (Char.ofNat n))
  | some n, some l =>
    if isTrail n then some (.char (Char.ofNat (0x10000 + (l - 0xD800) * 1024 + (n - 0xDC00))))
    else none

/-- Reads a string up to its closing quotation mark. A stray byte is reported only there. -/
def readChars (stray : Option Char) : Place → List Char → Except ReadError (List Char × List Char)
  | _, [] => .error .unfinished
  | .plain, c :: cs =>
    if c = '"' then .ok ([], cs)
    else if c = '\\' then readChars stray .escaped cs
    else if c.toNat < 32 then .error .malformed
    else
      match readChars stray .plain cs with
      | .error e => .error e
      | .ok (s, cs) => if stray = some c then .error .malformed else .ok (c :: s, cs)
  | .escaped, c :: cs =>
    if c = 'u' then readChars stray (.code none []) cs
    else
      match unescape? c with
      | none => .error .malformed
      | some d => (readChars stray .plain cs).map fun (s, cs) => (d :: s, cs)
  | .code lead digits, c :: cs =>
    let digits := digits ++ [c]
    if width stray digits < 4 then readChars stray (.code lead digits) cs
    else
      match CodeUnit.ofCode? lead digits with
      | none => .error .malformed
      | some (.char d) => (readChars stray .plain cs).map fun (s, cs) => (d :: s, cs)
      | some (.lead n) => readChars stray (.afterLead n) cs
  | .afterLead n, c :: cs =>
    if c = '\\' then readChars stray (.afterLeadEscaped n) cs else .error .malformed
  | .afterLeadEscaped n, c :: cs =>
    if c = 'u' then readChars stray (.code (some n) []) cs else .error .malformed

/-- Reads a string. -/
def readText (stray : Option Char) (cs : List Char) : Except ReadError (String × List Char) :=
  (readChars stray .plain cs).map fun (s, cs) => (String.ofList s, cs)

/-- Skips a string up to its closing quotation mark. -/
def skipChars (stray : Option Char) : Place → List Char → Except ReadError (List Char)
  | _, [] => .error .unfinished
  | .plain, c :: cs =>
    if c = '"' then .ok cs
    else if c = '\\' then skipChars stray .escaped cs
    else if c.toNat < 32 then .error .malformed
    else skipChars stray .plain cs
  | .code _ digits, c :: cs =>
    let digits := digits ++ [c]
    if width stray digits < 4 then skipChars stray (.code none digits) cs
    else if (hexNumber? digits).isSome then skipChars stray .plain cs
    else .error .malformed
  | _, c :: cs =>
    if c = 'u' then skipChars stray (.code none []) cs
    else if (unescape? c).isSome then skipChars stray .plain cs
    else .error .malformed

/-- Skips a string. -/
def skipText (stray : Option Char) (cs : List Char) : Except ReadError (String × List Char) :=
  (skipChars stray .plain cs).map fun cs => ("", cs)

end PathRouter.Json

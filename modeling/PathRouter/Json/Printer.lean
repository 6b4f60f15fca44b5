import PathRouter.Json.Basic
import PathRouter.Decimal.Shortest

/-!
# JSON texts

A value has two written forms: the compact one without any space, and the indented one, with one
element or member per line and two spaces per level. Members are written in the order they have.
-/

namespace PathRouter.Json

/-- A digit of a number in base sixteen. -/
def hexDigit (n : Nat) : Char :=
  Nat.digitChar n

/-- A character inside a string. Quotation marks, backslashes and control characters are
escaped. -/
def escape (c : Char) : List Char :=
  match c with
  | '"' => ['\\', '"']
  | '\\' => ['\\', '\\']
  | '\x08' => ['\\', 'b']
  | '\x0c' => ['\\', 'f']
  | '\n' => ['\\', 'n']
  | '\r' => ['\\', 'r']
  | '\t' => ['\\', 't']
  | c =>
    if c.toNat < 32 then ['\\', 'u', '0', '0', hexDigit (c.toNat / 16), hexDigit (c.toNat % 16)]
    else [c]

/-- A string in quotation marks. -/
def writeString (s : String) : List Char :=
  '"' :: s.toList.flatMap escape ++ ['"']

/-- A value without parts. -/
def writeAtom : Json → List Char
  | null => ['n', 'u', 'l', 'l']
  | bool true => ['t', 'r', 'u', 'e']
  | bool false => ['f', 'a', 'l', 's', 'e']
  | int n => Decimal.ofInt n
  | float bits => Decimal.textOfBits bits
  | str s => writeString s
  | arr _ => ['[', ']']
  | obj _ => ['\x7B', '\x7D']

/-! ## Compact texts -/

mutual

/-- A value. -/
def writeCompact : Json → List Char
  | arr (v :: vs) => '[' :: writeCompact v ++ writeCompactItems vs
  | obj ((k, v) :: ms) =>
    '\x7B' :: writeString k ++ ':' :: writeCompact v ++ writeCompactMembers ms
  | v => writeAtom v

/-- The elements after the first, and the end of the array. -/
def writeCompactItems : List Json → List Char
  | [] => [']']
  | v :: vs => ',' :: writeCompact v ++ writeCompactItems vs

/-- The members after the first, and the end of the object. -/
def writeCompactMembers : List (String × Json) → List Char
  | [] => ['\x7D']
  | (k, v) :: ms => ',' :: writeString k ++ ':' :: writeCompact v ++ writeCompactMembers ms

end

/-- The compact text of a value. -/
def compact (v : Json) : String :=
  String.ofList (writeCompact v)

/-! ## Indented texts -/

/-- A new line at a level of nesting. -/
def newLine (level : Nat) : List Char :=
  '\n' :: List.replicate (2 * level) ' '

mutual

/-- A value at a level of nesting. -/
def writePretty (level : Nat) : Json → List Char
  | arr (v :: vs) =>
    '[' :: newLine (level + 1) ++ writePretty (level + 1) v ++ writePrettyItems level vs
  | obj ((k, v) :: ms) =>
    '\x7B' :: newLine (level + 1) ++ writeString k ++ [':', ' '] ++ writePretty (level + 1) v
      ++ writePrettyMembers level ms
  | v => writeAtom v

/-- The elements after the first, and the end of the array. -/
def writePrettyItems (level : Nat) : List Json → List Char
  | [] => newLine level ++ [']']
  | v :: vs => ',' :: newLine (level + 1) ++ writePretty (level + 1) v ++ writePrettyItems level vs

/-- The members after the first, and the end of the object. -/
def writePrettyMembers (level : Nat) : List (String × Json) → List Char
  | [] => newLine level ++ ['\x7D']
  | (k, v) :: ms =>
    ',' :: newLine (level + 1) ++ writeString k ++ [':', ' '] ++ writePretty (level + 1) v
      ++ writePrettyMembers level ms

end

/-- The indented text of a value. -/
def pretty (v : Json) : String :=
  String.ofList (writePretty 0 v)

end PathRouter.Json

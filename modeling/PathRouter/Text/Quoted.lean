import PathRouter.Unicode.Visible

/-!
# Quoted texts

The quoted form of a text shows it between quotation marks on one line: quotation marks,
backslashes and the common control characters are escaped by a letter, and characters that would
not show are written by their code.
-/

namespace PathRouter.Text

/-- The lower-case hexadecimal digits of a number, without leading zeros. -/
def hexDigits (n : Nat) : List Char :=
  Nat.toDigits 16 n

/-- A character inside quotation marks. -/
def quotedChar (c : Char) : List Char :=
  match c with
  | '\x00' => ['\\', '0']
  | '\t' => ['\\', 't']
  | '\n' => ['\\', 'n']
  | '\r' => ['\\', 'r']
  | '"' => ['\\', '"']
  | '\\' => ['\\', '\\']
  | c =>
    if Unicode.isVisible c then [c]
    else ['\\', 'u', '\x7B'] ++ hexDigits c.toNat ++ ['\x7D']

/-- A text in quotation marks. -/
def quoted (s : String) : String :=
  String.ofList ('"' :: s.toList.flatMap quotedChar ++ ['"'])

/-- Quoted texts in a list. -/
def quotedList (l : List String) : String :=
  "[" ++ ", ".intercalate (l.map quoted) ++ "]"

/-- Quoted texts in a set. -/
def quotedSet (l : List String) : String :=
  "\x7B" ++ ", ".intercalate (l.map quoted) ++ "\x7D"

end PathRouter.Text

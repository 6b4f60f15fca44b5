/-!
# Assertions

An assertion restricts the text a placeholder stands for. It is named by a short key in the
pattern, and each has a regular expression, its *fragment*.
-/

namespace PathRouter

/-- A class of texts for a placeholder. -/
inductive Assertion where
  /-- One or more characters other than a slash: the class of a placeholder without a key. -/
  | segment
  /-- One or more ASCII letters. -/
  | alpha
  /-- One or more ASCII letters and digits. -/
  | alphaNumeric
  /-- Six characters of a colour code. -/
  | hex
  /-- One or more ASCII digits. -/
  | digits
  /-- Everything that follows, provided it starts with something other than white space. -/
  | catchAll
deriving DecidableEq, Repr

namespace Assertion

/-- The assertion with a key. -/
def ofKey? : String → Option Assertion
  | "a" => some alpha
  | "ai" => some alphaNumeric
  | "h" => some hex
  | "i" => some digits
  | "*" => some catchAll
  | _ => none

/-- The regular expression of an assertion. -/
def fragment : Assertion → String
  | segment => "[^/]+"
  | alpha => "[a-zA-Z]+"
  | alphaNumeric => "[a-zA-Z0-9]+"
  | hex => "[a-fA-Z0-9]\x7B6\x7D"
  | digits => "[0-9]+"
  | catchAll => "\\S.*"

end Assertion

end PathRouter

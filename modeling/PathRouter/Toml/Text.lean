/-!
# Strings of TOML

A string is quoted by quotation marks or by apostrophes, and ends on its line unless it is opened
by three of them. Backslashes have a meaning between quotation marks only. A string over several
lines may hold its quotation marks singly or in pairs, also right before its end; a line feed at
its start is dropped, and a backslash at the end of a line joins it with the next text.
-/

namespace PathRouter.Toml

/-- A way to write strings. -/
structure Style where
  /-- The quotation mark. -/
  quote : Char
  /-- Whether the string may go over several lines. -/
  multiLine : Bool
  /-- Whether backslashes have a meaning. -/
  escapes : Bool
deriving DecidableEq, Repr

/-- The place inside a string. -/
inductive Place where
  /-- Between two characters, after some quotation marks that may belong to the end. -/
  | plain (quotes : Nat)
  /-- After a backslash. -/
  | escaped
  /-- Inside a code of which digits are to come. -/
  | code (missing : Nat) (value : Nat)
  /-- After a backslash at the end of a line, before or after the line feed. -/
  | joining (lineFeed : Bool)
deriving DecidableEq, Repr

/-- What a character leads to. -/
inductive Move where
  /-- The string goes on at another place, with characters added. -/
  | go (text : List Char) (next : Place)
  /-- The string ends with this character. -/
  | stop (text : List Char)
  /-- The string has ended before this character. -/
  | ended (text : List Char)
  /-- The character cannot stand here. -/
  | fail
deriving DecidableEq, Repr

/-- Spaces and tabs. -/
def isSpace (c : Char) : Bool :=
  c == ' ' || c == '\t'

/-- The characters that may stand in a string or a comment, line feeds apart. -/
def isTextChar (c : Char) : Bool :=
  c == '\t' || 0x20 ≤ c.toNat && c.toNat != 0x7F

/-- The value of a hexadecimal digit. -/
def hexValue? (c : Char) : Option Nat :=
  if c.isDigit then some (c.toNat - '0'.toNat)
  else if 'a' ≤ c ∧ c ≤ 'f' then some (c.toNat - 'a'.toNat + 10)
  else if 'A' ≤ c ∧ c ≤ 'F' then some (c.toNat - 'A'.toNat + 10)
  else none

/-- The character of a one letter escape. -/
def unescape? : Char → Option Char
  | 'b' => some '\x08'
  | 't' => some '\t'
  | 'n' => some '\n'
  | 'f' => some '\x0c'
  | 'r' => some '\r'
  | '"' => some '"'
  | '\\' => some '\\'
  | _ => none

namespace Style

/-- What a character between two others leads to. -/
def plainMove (s : Style) (quotes : Nat) (c : Char) : Move :=
  let before := List.replicate quotes s.quote
  if c = s.quote then
    if !s.multiLine then .stop []
    else if quotes = 4 then .stop (List.replicate 2 s.quote)
    else .go [] (.plain (quotes + 1))
  else if 3 ≤ quotes then .ended (List.replicate (quotes - 3) s.quote)
  else if c = '\\' ∧ s.escapes then .go before .escaped
  else if isTextChar c || s.multiLine && c == '\n' then .go (before ++ [c]) (.plain 0)
  else .fail

/-- What a character leads to. -/
def move (s : Style) (place : Place) (c : Char) : Move :=
  match place with
  | .plain quotes => s.plainMove quotes c
  | .escaped =>
    if s.multiLine && (isSpace c || c == '\n') then .go [] (.joining (c == '\n'))
    else if c = 'u' then .go [] (.code 4 0)
    else if c = 'U' then .go [] (.code 8 0)
    else
      match unescape? c with
      | none => .fail
      | some d => .go [d] (.plain 0)
  | .code missing value =>
    match hexValue? c with
    | none => .fail
    | some digit =>
      let value := 16 * value + digit
      if 1 < missing then .go [] (.code (missing - 1) value)
      else if value.isValidChar then .go [Char.ofNat value] (.plain 0)
      else .fail
  | .joining lineFeed =>
    if isSpace c then .go [] (.joining lineFeed)
    else if c = '\n' then .go [] (.joining true)
    else if lineFeed then s.plainMove 0 c
    else .fail

/-- Reads a string from a place inside it. -/
def read (s : Style) : Place → List Char → Option (List Char × List Char)
  | .plain quotes, [] =>
    if s.multiLine ∧ 3 ≤ quotes then some (List.replicate (quotes - 3) s.quote, []) else none
  | _, [] => none
  | place, c :: cs =>
    match s.move place c with
    | .go text next => (s.read next cs).map fun (rest, cs) => (text ++ rest, cs)
    | .stop text => some (text, cs)
    | .ended text => some (text, c :: cs)
    | .fail => none

end Style

/-- Reads a string on one line after its quotation mark. -/
def readLineString (quote : Char) (cs : List Char) : Option (String × List Char) :=
  (Style.read ⟨quote, false, quote == '"'⟩ (.plain 0) cs).map fun (s, cs) => (String.ofList s, cs)

/-- Reads a string after its first quotation mark. -/
def readString (quote : Char) (cs : List Char) : Option (String × List Char) :=
  match cs with
  | a :: b :: cs' =>
    if a = quote ∧ b = quote then
      let body := match cs' with
        | '\n' :: cs' => cs'
        | cs' => cs'
      (Style.read ⟨quote, true, quote == '"'⟩ (.plain 0) body).map fun (s, cs) =>
        (String.ofList s, cs)
    else readLineString quote cs
  | cs => readLineString quote cs

end PathRouter.Toml

import PathRouter.Regex.Flags
import PathRouter.Regex.Node

/-!
# Escapes

Writing: `quote` puts a backslash before each character that has a meaning of its own, so that the
result is an expression for the text itself. Reading: `Escape.read` reads what follows a backslash.
-/

namespace PathRouter.Regex

/-- The characters with a meaning of their own. -/
def isMeta (c : Char) : Bool :=
  c ∈ ['\\', '.', '+', '*', '?', '(', ')', '|', '[', ']', '\x7B', '\x7D', '^', '$', '#',
    '&', '-', '~']

/-- An expression for a text itself. -/
def quote : List Char → List Char
  | [] => []
  | c :: cs => if isMeta c then '\\' :: c :: quote cs else c :: quote cs

/-- What an escape stands for. -/
inductive Escape where
  /-- A character. -/
  | char (c : Char)
  /-- A set of characters. -/
  | set (s : CharSet)
  /-- A condition on the place. -/
  | anchor (a : Anchor)
deriving DecidableEq, Repr

/-- The value of a hexadecimal digit. -/
def hexValue? (c : Char) : Option Nat :=
  if '0' ≤ c && c ≤ '9' then some (c.toNat - '0'.toNat)
  else if 'a' ≤ c && c ≤ 'f' then some (c.toNat - 'a'.toNat + 10)
  else if 'A' ≤ c && c ≤ 'F' then some (c.toNat - 'A'.toNat + 10)
  else none

namespace Escape

/-- The character with a code, if there is one. -/
def ofCode (n : Nat) : Except Error Escape :=
  if h : n.isValidChar then .ok (.char (Char.ofNatAux n h)) else .error .hexRange

/-- Reads a character code of exactly `count` digits. -/
def readCode (f : Flags) (value : Nat) : Nat → List Char → Except Error (Escape × List Char)
  | 0, cs => do return (← ofCode value, cs)
  | _ + 1, [] => .error .escapeUnfinished
  | count + 1, c :: cs =>
    match hexValue? c with
    | none => .error .hexDigit
    | some d => readCode f (16 * value + d) count (f.skip cs)

/-- Reads a character code up to a closing brace. The value stays capped beyond the last character,
so that long codes cost nothing. -/
def readBraced (f : Flags) (value : Option Nat) :
    Nat → List Char → Except Error (Escape × List Char)
  | 0, _ | _, [] => .error .escapeUnfinished
  | fuel + 1, c :: cs =>
    if c == '\x7D' then
      match value with
      | none => .error .hexEmpty
      | some n => do return (← ofCode n, f.skip cs)
    else
      match hexValue? c with
      | none => .error .hexDigit
      | some d => readBraced f (some (min (16 * value.getD 0 + d) 0x110000)) fuel (f.skip cs)

/-- Reads a character code of `count` digits, or of any number of digits in braces. -/
def readHex (f : Flags) (count : Nat) (cs : List Char) : Except Error (Escape × List Char) :=
  match f.skip cs with
  | [] => .error .escapeUnfinished
  | '\x7B' :: rest => readBraced f none cs.length (f.skip rest)
  | rest => readCode f 0 count rest

/-- The letters and the hyphen, of which the names of word boundaries are made. -/
def isBoundaryChar (c : Char) : Bool :=
  ('A' ≤ c && c ≤ 'Z') || ('a' ≤ c && c ≤ 'z') || c == '-'

/-- Reads the rest of the name of a word boundary, up to the first character that cannot be in
it. -/
def readBoundaryName (f : Flags) : Nat → List Char → List Char × List Char
  | 0, cs => ([], cs)
  | _, [] => ([], [])
  | fuel + 1, c :: cs =>
    if isBoundaryChar c then
      let (name, rest) := readBoundaryName f fuel (f.skip cs)
      (c :: name, rest)
    else ([], c :: cs)

/-- Reads the braces after a word boundary, which may name one of its four variants. Braces that
cannot hold a name are left to be read as a repetition. -/
def readBoundary (f : Flags) (cs : List Char) : Except Error (Escape × List Char) :=
  match cs with
  | '\x7B' :: rest =>
    match f.skip rest with
    | [] => .error .boundaryUnfinished
    | c :: rest =>
      if !isBoundaryChar c then .ok (.anchor .wordEdge, cs)
      else
        match readBoundaryName f cs.length (c :: rest) with
        | (name, '\x7D' :: rest) =>
          match String.ofList name with
          | "start" => .ok (.anchor .wordStart, rest)
          | "end" => .ok (.anchor .wordEnd, rest)
          | "start-half" => .ok (.anchor .wordStartHalf, rest)
          | "end-half" => .ok (.anchor .wordEndHalf, rest)
          | _ => .error .boundaryUnknown
        | _ => .error .boundaryUnclosed
  | _ => .ok (.anchor .wordEdge, cs)

/-- ASCII characters other than letters, digits and angle brackets may be escaped without need. -/
def isIdle (c : Char) : Bool :=
  c.toNat < 128 && !c.isAlphanum && c != '<' && c != '>'

/-- Reads an escape after its backslash. There are no classes of characters by Unicode property:
every escape with `p` or `P` names an unknown property, also those that the engine has a table
for. -/
def read (f : Flags) : List Char → Except Error (Escape × List Char)
  | [] => .error .escapeUnfinished
  | c :: cs =>
    if c.isDigit then .error .backreference
    else if isMeta c || isIdle c then .ok (.char c, cs)
    else
      match c with
      | 'x' => readHex f 2 cs
      | 'u' => readHex f 4 cs
      | 'U' => readHex f 8 cs
      | 'd' => .ok (.set .decimal, cs)
      | 'D' => .ok (.set (.compl .decimal), cs)
      | 's' => .ok (.set .white, cs)
      | 'S' => .ok (.set (.compl .white), cs)
      | 'w' => .ok (.set .word, cs)
      | 'W' => .ok (.set (.compl .word), cs)
      | 'p' | 'P' => .error .propertyUnknown
      | 'a' => .ok (.char '\x07', cs)
      | 'f' => .ok (.char '\x0C', cs)
      | 't' => .ok (.char '\t', cs)
      | 'n' => .ok (.char '\n', cs)
      | 'r' => .ok (.char '\r', cs)
      | 'v' => .ok (.char '\x0B', cs)
      | 'A' => .ok (.anchor .textStart, cs)
      | 'z' => .ok (.anchor .textEnd, cs)
      | 'b' => readBoundary f cs
      | 'B' => .ok (.anchor .notWordEdge, cs)
      | '<' => .ok (.anchor .wordStart, cs)
      | '>' => .ok (.anchor .wordEnd, cs)
      | _ => .error .escapeUnknown

end Escape

end PathRouter.Regex

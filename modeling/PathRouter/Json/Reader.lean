import PathRouter.Json.Number
import PathRouter.Json.Text

/-!
# Reading JSON texts

A reader takes the text from left to right and reports the first problem it meets. It gets the
number of levels that may still be opened inside the value, and answers with what it has read and
the rest of the text. `readValue` reads any value; `skipValue` passes over one, and there nothing
limits the nesting. `readDocument` reads a whole text, where values may be nested 127 levels deep,
and `readWhole` one in which a character stands for stray bytes.
-/

namespace PathRouter.Json

/-- What was read, and the rest of the text. -/
abbrev Parsed (α : Type) := Except ReadError (α × List Char)

/-- A reader. It is given the character that stands for stray bytes, if there are any, and the
number of levels that may still be opened. -/
abbrev Reader (α : Type) := (stray : Option Char) → (levels : Nat) → List Char → Parsed α

/-- White space between the parts of a text. -/
def isBlank (c : Char) : Bool :=
  c == ' ' || c == '\n' || c == '\t' || c == '\r'

/-- Drops white space. -/
def skipBlank (cs : List Char) : List Char :=
  cs.dropWhile isBlank

/-! ## Scalars -/

/-- Reads the given letters. -/
def readWord : List Char → List Char → Except ReadError (List Char)
  | [], cs => .ok cs
  | _ :: _, [] => .error .unfinished
  | w :: ws, c :: cs => if c = w then readWord ws cs else .error .malformed

/-- Reads a value that is neither array nor object. `c` is its first character. -/
def readScalar (stray : Option Char) (c : Char) (cs : List Char) : Parsed Json :=
  if c = 'n' then (readWord ['u', 'l', 'l'] cs).map fun cs => (null, cs)
  else if c = 't' then (readWord ['r', 'u', 'e'] cs).map fun cs => (bool true, cs)
  else if c = 'f' then (readWord ['a', 'l', 's', 'e'] cs).map fun cs => (bool false, cs)
  else if c = '"' then (readText stray cs).map fun (s, cs) => (str s, cs)
  else if c = '-' then readNumber true cs
  else if c.isDigit then readNumber false (c :: cs)
  else .error .malformed

/-- Skips a value that is neither array nor object. -/
def skipScalar (stray : Option Char) (c : Char) (cs : List Char) : Parsed Unit :=
  if c = '"' then (skipText stray cs).map fun (_, cs) => ((), cs)
  else if c = '-' then (skipNumber cs).map fun cs => ((), cs)
  else if c.isDigit then (skipNumber (c :: cs)).map fun cs => ((), cs)
  else (readScalar stray c cs).map fun (_, cs) => ((), cs)

/-! ## The parts of arrays and objects -/

/-- Goes to the next element of an array. The answer says whether there is one; the rest of the
text starts with it, or with the closing bracket. -/
def nextItem (first : Bool) (cs : List Char) : Parsed Bool :=
  match skipBlank cs with
  | [] => .error .unfinished
  | c :: cs =>
    if c = ']' then .ok (false, c :: cs)
    else if first then .ok (true, c :: cs)
    else if c = ',' then
      match skipBlank cs with
      | [] => .error .unfinished
      | c :: cs => if c = ']' then .error .malformed else .ok (true, c :: cs)
    else .error .malformed

/-- Reads the elements of an array and its closing bracket. `fuel` bounds their number. -/
def readItems {α : Type} (read : List Char → Parsed α) :
    (fuel : Nat) → (first : Bool) → List Char → Parsed (List α)
  | 0, _, _ => .error .malformed
  | fuel + 1, first, cs =>
    match nextItem first cs with
    | .error e => .error e
    | .ok (false, cs) => .ok ([], cs.tail)
    | .ok (true, cs) =>
      match read cs with
      | .error e => .error e
      | .ok (a, cs) => (readItems read fuel false cs).map fun (as, cs) => (a :: as, cs)

/-- Reads the key of a member. -/
def readKey (text : List Char → Parsed String) (cs : List Char) : Parsed (Option String) :=
  match cs with
  | [] => .error .unfinished
  | c :: cs => if c = '"' then (text cs).map fun (s, cs) => (some s, cs) else .error .malformed

/-- Reads the next key of an object, or its closing brace. -/
def nextKey (text : List Char → Parsed String) (first : Bool) (cs : List Char) :
    Parsed (Option String) :=
  match skipBlank cs with
  | [] => .error .unfinished
  | c :: cs =>
    if c = '\x7D' then .ok (none, cs)
    else if first then readKey text (c :: cs)
    else if c = ',' then readKey text (skipBlank cs)
    else .error .malformed

/-- Reads the colon between a key and its value. -/
def readColon (cs : List Char) : Except ReadError (List Char) :=
  match skipBlank cs with
  | [] => .error .unfinished
  | c :: cs => if c = ':' then .ok cs else .error .malformed

/-- Reads the members of an object and its closing brace. `fuel` bounds their number. -/
def readMembers {α : Type} (text : List Char → Parsed String) (read : List Char → Parsed α) :
    (fuel : Nat) → (first : Bool) → List Char → Parsed (List (String × α))
  | 0, _, _ => .error .malformed
  | fuel + 1, first, cs =>
    match nextKey text first cs with
    | .error e => .error e
    | .ok (none, cs) => .ok ([], cs)
    | .ok (some key, cs) =>
      match readColon cs with
      | .error e => .error e
      | .ok cs =>
        match read cs with
        | .error e => .error e
        | .ok (a, cs) =>
          (readMembers text read fuel false cs).map fun (as, cs) => ((key, a) :: as, cs)

/-! ## Values -/

/-- Reads a value. -/
def readValue : Reader Json
  | stray, levels, cs =>
    match skipBlank cs with
    | [] => .error .unfinished
    | c :: cs =>
      if c = '[' then
        match levels with
        | 0 => .error .malformed
        | levels + 1 =>
          (readItems (readValue stray levels) (cs.length + 1) true cs).map fun (vs, cs) =>
            (arr vs, cs)
      else if c = '\x7B' then
        match levels with
        | 0 => .error .malformed
        | levels + 1 =>
          (readMembers (readText stray) (readValue stray levels) (cs.length + 1) true cs).map
            fun (ms, cs) => (ofMembers ms, cs)
      else readScalar stray c cs

/-- Skips a value that opens at most the given number of levels. -/
def skipLevels : Reader Unit
  | stray, levels, cs =>
    match skipBlank cs with
    | [] => .error .unfinished
    | c :: cs =>
      if c = '[' then
        match levels with
        | 0 => .error .malformed
        | levels + 1 =>
          (readItems (skipLevels stray levels) (cs.length + 1) true cs).map fun (_, cs) => ((), cs)
      else if c = '\x7B' then
        match levels with
        | 0 => .error .malformed
        | levels + 1 =>
          (readMembers (skipText stray) (skipLevels stray levels) (cs.length + 1) true cs).map
            fun (_, cs) => ((), cs)
      else skipScalar stray c cs

/-- Skips a value. It cannot open more levels than the text has characters. -/
def skipValue (stray : Option Char) (cs : List Char) : Parsed Unit :=
  skipLevels stray cs.length cs

/-! ## Strings and lists -/

/-- Reports a value of another kind. Its first character is `c`; a scalar is read to its end, so a
problem inside it comes first. -/
def refuse {α : Type} (stray : Option Char) (wanted : Wanted) (c : Char) (cs : List Char) :
    Parsed α :=
  if c = '[' then .error (.data (.mismatch .sequence wanted))
  else if c = '\x7B' then .error (.data (.mismatch .map wanted))
  else
    match readScalar stray c cs with
    | .error e => .error e
    | .ok (v, _) => .error (.data (.mismatch (Shape.ofJson Decimal.textOfBits v) wanted))

/-- Reads a string. -/
def readString : Reader String := fun stray _ cs =>
  match skipBlank cs with
  | [] => .error .unfinished
  | c :: cs => if c = '"' then readText stray cs else refuse stray .string c cs

/-- Reads a list. -/
def readList {α : Type} (read : Reader α) : Reader (List α) := fun stray levels cs =>
  match skipBlank cs with
  | [] => .error .unfinished
  | c :: cs =>
    if c = '[' then
      match levels with
      | 0 => .error .malformed
      | levels + 1 => readItems (read stray levels) (cs.length + 1) true cs
    else refuse stray .sequence c cs

/-- Reads `null` or a value. -/
def readOptional {α : Type} (read : Reader α) : Reader (Option α) := fun stray levels cs =>
  match skipBlank cs with
  | [] => .error .unfinished
  | c :: rest =>
    if c = 'n' then (readWord ['u', 'l', 'l'] rest).map fun cs => (none, cs)
    else (read stray levels (c :: rest)).map fun (a, cs) => (some a, cs)

/-- Checks what was read. -/
def readChecked {α β : Type} (read : Reader α) (check : α → Except DecodeError β) : Reader β :=
  fun stray levels cs =>
    match read stray levels cs with
    | .error e => .error e
    | .ok (a, cs) =>
      match check a with
      | .error e => .error (.data e)
      | .ok b => .ok (b, cs)

/-! ## Documents -/

/-- The number of levels a document may open. -/
def maxLevels : Nat := 127

/-- Reads a whole text in which a character stands for stray bytes. -/
def readWhole {α : Type} (read : Reader α) (stray : Option Char) (cs : List Char) :
    Except ReadError α :=
  match read stray maxLevels cs with
  | .error e => .error e
  | .ok (a, cs) => if (skipBlank cs).isEmpty then .ok a else .error .malformed

/-- Reads a whole text. -/
def readDocument {α : Type} (read : Reader α) (text : String) : Except ReadError α :=
  readWhole read none text.toList

end PathRouter.Json

import PathRouter.Toml.Number
import PathRouter.Toml.Tree

/-!
# Reading TOML documents

`Toml.read` reads a document of TOML 1.0 and gives the value of its root table, or nothing if the
text is no such document. The members of a table come in the order described with `Toml.Item`.
Arrays and inline tables may be nested 79 levels deep, and a path may have as many keys.
-/

namespace PathRouter.Toml

/-- What was read, and the rest of the text. -/
abbrev Parsed (α : Type) := Option (α × List Char)

/-- The limit of nesting. -/
def maxLevels : Nat := 79

/-! ## Space -/

/-- Drops spaces and tabs. -/
def skipSpace (cs : List Char) : List Char :=
  cs.dropWhile isSpace

/-- Drops spaces, line feeds and comments. Every comment must end with a line feed. -/
def skipLines (inComment : Bool) : List Char → Option (List Char)
  | [] => if inComment then none else some []
  | c :: cs =>
    if c = '\n' then skipLines false cs
    else if inComment then if isTextChar c then skipLines true cs else none
    else if isSpace c then skipLines false cs
    else if c = '#' then skipLines true cs
    else some (c :: cs)

/-- Reads to the end of a line. There may be a comment. -/
def endLine (cs : List Char) : Option (List Char) :=
  match skipSpace cs with
  | [] => some []
  | '\n' :: cs => some cs
  | '#' :: cs =>
    match cs.dropWhile isTextChar with
    | [] => some []
    | '\n' :: cs => some cs
    | _ => none
  | _ => none

/-! ## Keys -/

/-- The characters of keys without quotation marks. -/
def isKeyChar (c : Char) : Bool :=
  c.isAlphanum || c == '_' || c == '-'

/-- Reads one key. -/
def readSimpleKey (cs : List Char) : Parsed String :=
  match cs with
  | '"' :: cs => readLineString '"' cs
  | '\'' :: cs => readLineString '\'' cs
  | cs =>
    let key := cs.takeWhile isKeyChar
    if key.isEmpty then none else some (String.ofList key, cs.dropWhile isKeyChar)

/-- Reads keys with dots between them. `fuel` bounds their number. -/
def readPath : (fuel : Nat) → List Char → Parsed (List String)
  | 0, _ => none
  | fuel + 1, cs =>
    match readSimpleKey (skipSpace cs) with
    | none => none
    | some (key, cs) =>
      match skipSpace cs with
      | '.' :: cs => (readPath fuel cs).map fun (keys, cs) => (key :: keys, cs)
      | cs => some ([key], cs)

/-! ## Values -/

/-- Reads the given letters. -/
def readWord (word : String) (v : Json) (cs : List Char) : Parsed Json :=
  if word.toList.isPrefixOf cs then some (v, cs.drop word.length) else none

/-- Reads the elements of an array and its closing bracket. `fuel` bounds their number. -/
def readElements (read : List Char → Parsed Json) : (fuel : Nat) → List Char → Parsed (List Json)
  | 0, _ => none
  | fuel + 1, cs =>
    match skipLines false cs with
    | none => none
    | some (']' :: cs) => some ([], cs)
    | some cs =>
      match read cs with
      | none => none
      | some (v, cs) =>
        match skipLines false cs with
        | some (',' :: cs) => (readElements read fuel cs).map fun (vs, cs) => (v :: vs, cs)
        | some (']' :: cs) => some ([v], cs)
        | _ => none

/-- Reads a path, an equality sign and a value. -/
def readPair (read : List Char → Parsed Json) (cs : List Char) :
    Option (List String × Json × List Char) :=
  match readPath maxLevels cs with
  | some (path, '=' :: cs) => (read (skipSpace cs)).map fun (v, cs) => (path, v, cs)
  | _ => none

/-- Reads the members of an inline table and its closing brace. `fuel` bounds their number. -/
def readPairs (read : List Char → Parsed Json) :
    (fuel : Nat) → Members → List Char → Parsed Members
  | 0, _, _ => none
  | fuel + 1, ms, cs =>
    match readPair read cs with
    | none => none
    | some (path, v, cs) =>
      match ms.add path.dropLast (path.getLastD "") v with
      | none => none
      | some ms =>
        match skipSpace cs with
        | ',' :: cs => readPairs read fuel ms cs
        | '\x7D' :: cs => some (ms, cs)
        | _ => none

/-- Reads a value in which arrays and inline tables are nested at most `levels` deep. -/
def readValue : (levels : Nat) → List Char → Parsed Json
  | levels, cs =>
    match cs with
    | [] => none
    | c :: rest =>
      if c = '"' ∨ c = '\'' then (readString c rest).map fun (s, cs) => (.str s, cs)
      else if c = '[' then
        match levels with
        | 0 => none
        | levels + 1 =>
          (readElements (readValue levels) (rest.length + 1) rest).map fun (vs, cs) =>
            (.arr vs, cs)
      else if c = '\x7B' then
        match levels with
        | 0 => none
        | levels + 1 =>
          match skipSpace rest with
          | '\x7D' :: cs => some (.obj [], cs)
          | rest =>
            (readPairs (readValue levels) (rest.length + 1) [] rest).map fun (ms, cs) =>
              (.obj (Item.jsonMembers ms), cs)
      else if c = 't' then readWord "true" (.bool true) cs
      else if c = 'f' then readWord "false" (.bool false) cs
      else if c = 'i' ∨ c = 'n' then readSpecial false cs
      else if c = '+' ∨ c = '-' ∨ c.isDigit then readNumberOrDate cs
      else none

/-! ## Documents -/

/-- Reads the header of a table after its first bracket, and ends its line. -/
def readHeader (d : Document) (cs : List Char) : Parsed Document :=
  match cs with
  | '[' :: cs =>
    match readPath maxLevels cs with
    | some (path, ']' :: ']' :: cs) =>
      (d.openElement path).bind fun d => (endLine cs).map fun cs => (d, cs)
    | _ => none
  | cs =>
    match readPath maxLevels cs with
    | some (path, ']' :: cs) =>
      (d.openTable path).bind fun d => (endLine cs).map fun cs => (d, cs)
    | _ => none

/-- Reads line after line. `fuel` bounds their number. -/
def readLines : (fuel : Nat) → Document → List Char → Option Document
  | 0, _, _ => none
  | fuel + 1, d, cs =>
    match skipSpace cs with
    | [] => some d
    | '[' :: cs =>
      match readHeader d cs with
      | none => none
      | some (d, cs) => readLines fuel d cs
    | c :: cs =>
      if c = '\n' ∨ c = '#' then
        match endLine (c :: cs) with
        | none => none
        | some cs => readLines fuel d cs
      else
        match readPair (readValue maxLevels) (c :: cs) with
        | none => none
        | some (path, v, cs) =>
          match d.add path.dropLast (path.getLastD "") v, endLine cs with
          | some d, some cs => readLines fuel d cs
          | _, _ => none

/-- Takes the carriage return off every end of line. One anywhere else belongs to no document. -/
def joinLineEnds : List Char → Option (List Char)
  | [] => some []
  | '\r' :: '\n' :: cs => (joinLineEnds cs).map ('\n' :: ·)
  | c :: cs => if c = '\r' then none else (joinLineEnds cs).map (c :: ·)

/-- Reads a document. A byte order mark at its start does not count. -/
def read (text : String) : Option Json := do
  let cs ← joinLineEnds text.toList
  let cs := match cs with
    | '\uFEFF' :: cs => cs
    | cs => cs
  let d ← readLines (cs.length + 1) {} cs
  return .obj (Item.jsonMembers (← d.finish))

end PathRouter.Toml

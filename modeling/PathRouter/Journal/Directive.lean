import PathRouter.Journal.Event
import PathRouter.Regex.Parser
import PathRouter.Unicode.Blank
import PathRouter.Unicode.Letter

/-!
# Directives

A directive is one rule of a filter: an area, a span in brackets, and a level after an equality
sign, each of which may be left out, as in `area[span]=level`. The brackets may also name a field,
as in `[span{field}]` or `[span{field=value}]`. A word alone is a level if it can be one, and an
area otherwise. Levels have names, in any case, and numbers; without a level everything is shown.

Nothing here opens spans. So a directive about a span, or about the value of a field, never holds
for an event; one that just names a field holds for the events with such a field.
-/

namespace PathRouter

/-- One rule of a filter. -/
structure Directive where
  /-- The start of the areas it holds for. Without it, the rule holds for all. -/
  area : Option String := none
  /-- A field that the events must have. -/
  field : Option String := none
  /-- Whether the rule holds for events inside of spans only. -/
  inSpan : Bool := false
  /-- The rank of the least important level that is shown; zero shows nothing. -/
  rank : Nat := 5
deriving DecidableEq, Repr

namespace Directive

/-! ## Levels -/

/-- The rank of a level by its number. -/
def rankOfNumber? (digits : List Char) : Option Nat :=
  let digits := match digits with
    | '+' :: digits => digits
    | digits => digits
  if digits.isEmpty || !digits.all Char.isDigit then none
  else
    let n := digits.foldl (fun n c => 10 * n + (c.toNat - '0'.toNat)) 0
    if n ≤ 5 then some n else none

/-- The rank of a level by its name in lower case. -/
def rankOfName? : String → Option Nat
  | "off" => some 0
  | "error" => some 1
  | "warn" => some 2
  | "info" => some 3
  | "debug" => some 4
  | "trace" => some 5
  | _ => none

/-- The rank of a level. -/
def rank? (level : List Char) : Option Nat :=
  rankOfNumber? level <|> rankOfName? (String.ofList (level.map Char.toLower))

/-! ## Values of fields -/

/-- Whether a text is written like a number with a plus sign before it. -/
def isPositiveNumber : List Char → Bool
  | '+' :: cs =>
    let whole := cs.takeWhile Char.isDigit
    let (part, rest) := match cs.drop whole.length with
      | '.' :: cs => (cs.takeWhile Char.isDigit, cs.dropWhile Char.isDigit)
      | cs => ([], cs)
    let power := match rest with
      | e :: '+' :: cs | e :: '-' :: cs | e :: cs => if e = 'e' ∨ e = 'E' then some cs else none
      | [] => some ['0']
    (!(whole ++ part).isEmpty && power.any fun ds => !ds.isEmpty && ds.all Char.isDigit)
      || ["inf", "infinity", "nan"].contains (String.ofList (cs.map Char.toLower))
  | _ => false

/-- Whether the value of a field can be compared with a text: it is a number, or else an expression
for texts, of any size. -/
def isValue (text : List Char) : Bool :=
  isPositiveNumber text ||
    match Regex.Node.parse text with
    | .ok _ | .error .tooLarge => true
    | .error _ => false

/-! ## Reading -/

/-- The part of a directive that is being read, and the place where it starts. -/
inductive Part where
  /-- Nothing has been read. -/
  | start
  /-- A level or an area. -/
  | name
  /-- The name of a span. -/
  | span (start : Nat)
  /-- A field. -/
  | field (start : Nat)
  /-- What follows a field. -/
  | fieldEnd
  /-- What follows a span. -/
  | spanEnd
  /-- A level. -/
  | level (start : Nat)
deriving DecidableEq, Repr

/-- Whether a directive may start with a character. -/
def isStart (c : Char) : Bool :=
  c == '-' || c == ':' || c == '_' || Unicode.isAlphanumeric c

/-- The part of a text between two places. -/
def slice (text : List Char) (start stop : Nat) : List Char :=
  (text.drop start).take (stop - start)

/-- Takes a field into a directive. -/
def withField? (d : Directive) (field : List Char) : Option Directive :=
  let name := String.ofList (field.takeWhile (· != '='))
  match field.dropWhile (· != '=') with
  | [] => if field.isEmpty then none else some { d with field := some name }
  | _ :: rest =>
    if isValue (rest.takeWhile (· != '=')) then some { d with field := some name, inSpan := true }
    else none

/-- Reads the character at a place. -/
def step (text : List Char) (d : Directive) (part : Part) (c : Char) (place : Nat) :
    Option (Directive × Part) :=
  match part with
  | .start =>
      if c = '[' then some (d, .span (place + 1)) else if isStart c then some (d, .name) else none
  | .name =>
    let named := { d with area := some (String.ofList (text.take place)) }
    if c = '=' then some (named, .level (place + 1))
    else if c = '[' then some (named, .span (place + 1))
    else some (d, .name)
  | .span start =>
    if c = ']' then some ({ d with inSpan := true }, .spanEnd)
    else if c = '\x7B' then
      some ({ d with inSpan := !(slice text start place).isEmpty }, .field (place + 1))
    else some (d, part)
  | .field start =>
    if c = '\x7D' then (d.withField? (slice text start place)).map fun d => (d, .fieldEnd)
    else some (d, part)
  | .fieldEnd => if c = ']' then some (d, .spanEnd) else none
  | .spanEnd => if c = '=' then some (d, .level (place + 1)) else none
  | .level _ => some (d, part)

/-- Completes a directive at the end of its text. -/
def finish? (text : List Char) (d : Directive) : Part → Option Directive
  | .name =>
    match rank? text with
    | some rank => some { d with rank }
    | none => some { d with area := some (String.ofList text) }
  | .level start =>
    let level := text.drop start
    if level.isEmpty then some d else (rank? level).map fun rank => { d with rank }
  | .spanEnd => some d
  | _ => none

/-- Drops white space at both ends. -/
def trim (cs : List Char) : List Char :=
  ((cs.dropWhile Unicode.isWhite).reverse.dropWhile Unicode.isWhite).reverse

/-- Reads a directive. White space around it is not skipped, but it does not count when the places
of the signs are looked up. -/
def read? (text : List Char) : Option Directive := do
  let (d, part) ← (trim text).zipIdx.foldlM (fun (d, part) (c, place) => step text d part c place)
    (({} : Directive), Part.start)
  finish? text d part

/-! ## Order -/

/-- Whether a directive holds for an event. -/
def concerns (d : Directive) (e : Event) : Bool :=
  !d.inSpan && (d.area.all fun a => a.toList.isPrefixOf e.area.toList)
    && d.field.all fun f => f == "message" || e.fields.any (·.1 == f)

/-- Whether one directive is less specific than another: its area is shorter, or as long, and it
names no field while the other one does, or names an earlier one. -/
def isBelow (d e : Directive) : Bool :=
  let size (d : Directive) : Nat := d.area.elim 0 fun a => a.utf8ByteSize + 1
  size d < size e || size d == size e && match d.field, e.field with
    | none, some _ => true
    | some f, some g => f < g
    | _, none => false

end Directive

end PathRouter

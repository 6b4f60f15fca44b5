import PathRouter.Json.Basic

/-!
# Tables of a TOML document

A document is a tree of tables that is put together line by line. A table may be opened by a header
once; tables on the way to it exist without a header, and may get one later. Dotted keys make
tables, too, which no header can open. A header with double brackets appends a table to a list of
tables, and the last table of a list stands for the list in paths.

Nothing says in what order the parts of a table come, so it is kept: a member takes its place when
it is first made, and a table that gets its header late moves to the end.
-/

namespace PathRouter.Toml

/-- How a table came about. -/
inductive Origin where
  /-- By its own header. -/
  | header
  /-- On the way to a table with a header. -/
  | implied
  /-- By dotted keys. -/
  | dotted
deriving DecidableEq, Repr

/-- A part of a document. -/
inductive Item where
  /-- A value, which is complete. -/
  | value (v : Json)
  /-- A table. -/
  | table (origin : Origin) (members : List (String × Item))
  /-- A list of tables. -/
  | tables (elements : List (List (String × Item)))

/-- The members of a table. -/
abbrev Members := List (String × Item)

namespace Item

mutual

/-- The value of a part. -/
def json : Item → Json
  | value v => v
  | table _ members => .obj (jsonMembers members)
  | tables elements => .arr (jsonElements elements)

/-- The values of members. -/
def jsonMembers : List (String × Item) → List (String × Json)
  | [] => []
  | (key, item) :: ms => (key, json item) :: jsonMembers ms

/-- The values of the tables in a list. -/
def jsonElements : List (List (String × Item)) → List Json
  | [] => []
  | ms :: es => .obj (jsonMembers ms) :: jsonElements es

end

end Item

namespace Members

/-- Puts a part in the place of the one with its key, or at the end if there is none. -/
def put (key : String) (item : Item) : Members → Members
  | [] => [(key, item)]
  | (k, i) :: ms => if k = key then (key, item) :: ms else (k, i) :: put key item ms

/-- Takes a part out. -/
def remove (key : String) (ms : Members) : Members :=
  ms.filter (·.1 ≠ key)

/-- Changes the table at the end of a path, and makes the tables on the way that are missing.
Dotted keys do not reach into tables with a header. -/
def change {α : Type} (dotted : Bool) (f : Origin → Members → Option (α × Members)) :
    List String → Origin → Members → Option (α × Members)
  | [], origin, ms => f origin ms
  | key :: path, _, ms =>
    match ms.lookup key with
    | some (.value _) => none
    | some (.table origin inner) =>
      if dotted && origin == .header then none
      else (change dotted f path origin inner).map fun (a, inner) =>
        (a, put key (.table origin inner) ms)
    | some (.tables elements) =>
      match elements.getLast? with
      | none => none
      | some last => (change dotted f path .header last).map fun (a, last) =>
        (a, put key (.tables (elements.dropLast ++ [last])) ms)
    | none =>
      let origin := if dotted then .dotted else .implied
      (change dotted f path origin []).map fun (a, inner) =>
        (a, ms ++ [(key, .table origin inner)])

/-- Adds a value at the end of a path of dotted keys. Tables that were made otherwise cannot be
extended by dotted keys, and no key may be used twice. -/
def add (path : List String) (key : String) (v : Json) (ms : Members) : Option Members :=
  let insert (origin : Origin) (ms : Members) : Option (Unit × Members) :=
    if !path.isEmpty && origin != .dotted then none
    else if (ms.lookup key).isSome then none
    else some ((), ms ++ [(key, .value v)])
  (change true insert path .header ms).map (·.2)

end Members

/-- A document that is being read. -/
structure Document where
  /-- The tables that are complete. -/
  root : Members := []
  /-- The table that lines belong to. -/
  current : Members := []
  /-- The path of its header; it is empty before the first header. -/
  path : List String := []
  /-- Whether the header appends to a list of tables. -/
  appends : Bool := false

namespace Document

/-- Puts the current table into its place. -/
def finish (d : Document) : Option Members :=
  match d.path.getLast? with
  | none => some d.current
  | some key =>
    let place (_ : Origin) (ms : Members) : Option (Unit × Members) :=
      if d.appends then
        match ms.lookup key with
        | some (.tables elements) => some ((), ms.put key (.tables (elements ++ [d.current])))
        | some _ => none
        | none => some ((), ms ++ [(key, .tables [d.current])])
      else
        match ms.lookup key with
        | some _ => none
        | none => some ((), ms ++ [(key, .table .header d.current)])
    (Members.change false place d.path.dropLast .header d.root).map (·.2)

/-- Starts the table of a header. -/
def openTable (d : Document) (path : List String) : Option Document := do
  let root ← d.finish
  let key ← path.getLast?
  let claim (_ : Origin) (ms : Members) : Option (Members × Members) :=
    match ms.lookup key with
    | none => some ([], ms)
    | some (.table .implied inner) => some (inner, ms.remove key)
    | some _ => none
  let (current, root) ← Members.change false claim path.dropLast .header root
  return { root, current, path, appends := false }

/-- Starts a table of a list of tables. -/
def openElement (d : Document) (path : List String) : Option Document := do
  let root ← d.finish
  let key ← path.getLast?
  let claim (_ : Origin) (ms : Members) : Option (Unit × Members) :=
    match ms.lookup key with
    | none => some ((), ms ++ [(key, .tables [])])
    | some (.tables elements) => some ((), ms.put key (.tables elements))
    | some _ => none
  let ((), root) ← Members.change false claim path.dropLast .header root
  return { root, current := [], path, appends := true }

/-- Adds a value to the current table. -/
def add (d : Document) (path : List String) (key : String) (v : Json) : Option Document :=
  (d.current.add path key v).map fun current => { d with current }

end Document

end PathRouter.Toml

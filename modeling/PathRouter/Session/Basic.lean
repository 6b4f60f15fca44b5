import PathRouter.RouteFile.Rebuild

/-!
# Sessions

A session is a table in use together with the files around it. `Session.step` carries out one step
and says what came of it. Between a step that opens a group and the step that closes it, the steps
belong to the group; a group can also be left because of a failure, together with groups around it.
The table may be replaced while groups are open. Their stems are gone then, and leaving them has no
effect on the new table.
-/

namespace PathRouter

/-- A step of a session. -/
inductive Step (α : Type) where
  /-- Registers a route. -/
  | add (path : String) (target : α) (methods : Methods)
  /-- Opens a group. -/
  | openGroup (stem : String)
  /-- Leaves the innermost group. -/
  | closeGroup
  /-- Leaves some of the innermost groups because of a failure. -/
  | abandon (levels : Nat)
  /-- Compiles the table. -/
  | compile
  /-- Lists the registered routes. -/
  | list
  /-- Answers requests. -/
  | request (queries : List (String × String))
  /-- Answers requests with a frozen copy of the table. -/
  | frozen (queries : List (String × String))
  /-- Starts anew with an empty table. -/
  | reset
  /-- Takes the table with the records of a text. -/
  | adopt (text : String)
  /-- Writes a file. -/
  | write (path : String) (content : Content)
  /-- Makes a directory. -/
  | makeDirectory (path : String)
  /-- Reads a file. -/
  | read (path : String)
  /-- Compiles the table and writes a cache file. -/
  | save (path : String)
  /-- Takes the table of a cache file. -/
  | load (path : String)
  /-- Takes the table of a cache file, or the one with some routes. -/
  | create (cache : Option String) (routes : List (Route α))

/-- The step that registers a route for a verb. -/
def Step.addFor {α : Type} (verb : Verb) (path : String) (target : α) : Step α :=
  .add path target verb.methods

/-- What came of a step. -/
inductive Result (α : Type) where
  /-- It was done. -/
  | done
  /-- A group was opened. -/
  | opened
  /-- A group was closed. -/
  | closed
  /-- Groups were left. -/
  | abandoned
  /-- There was no group to leave. -/
  | noGroup
  /-- The compiled routes. -/
  | compiled (routes : Except PatternError (List (CompiledRoute α)))
  /-- The registered routes. -/
  | routes (routes : List (Route α))
  /-- The answers to requests. -/
  | answers (outcomes : List (Except PatternError (Outcome α)))
  /-- The frozen table, and its answers. -/
  | frozen (answers : Except PatternError (Matcher α × List (Outcome α)))
  /-- The text of a file, if it has one. -/
  | text (content : Option String)
  /-- Something could not be done. -/
  | failed (e : CacheError)
  /-- A table was made or not, and its routes were registered anew or not. -/
  | created (built : Bool) (failure : Option CacheError)

/-- A table in use, and the files around it. -/
structure Session (α : Type) where
  /-- The table. -/
  table : Table α := {}
  /-- The number of groups that have not been left. -/
  openGroups : Nat := 0
  /-- The files. -/
  files : Files := {}

/-- Registers routes. -/
def Table.addRoutes {α : Type} (t : Table α) : List (Route α) → Logged (Table α)
  | [] => return t
  | r :: rs => do
    let t ← t.add r.path r.target r.methods
    t.addRoutes rs

/-- Leaves the innermost groups. -/
def Table.closeGroups {α : Type} (t : Table α) : Nat → Table α
  | 0 => t
  | n + 1 => t.closeGroup.closeGroups n

namespace Session

variable {α : Type}

/-- The session with another table. -/
def withTable (s : Session α) (table : Table α) : Session α :=
  { s with table }

/-- Leaves groups, no more than are open. -/
def leave (s : Session α) (levels : Nat) : Session α :=
  let n := min levels s.openGroups
  { s with table := s.table.closeGroups n, openGroups := s.openGroups - n }

/-- Compiles the table and writes a cache file. -/
def save [ToJson α] (s : Session α) (path : String) : Logged (Session α × Result α) := do
  let (table, compiled) ← s.table.compile
  let s := s.withTable table
  match compiled with
  | .error e => return (s, .failed (.pattern e))
  | .ok routes =>
    let (files, saved) ← saveRecords s.files path routes
    let s := { s with files }
    match saved with
    | .error e => return (s, .failed e)
    | .ok () => return (s, .text (s.files.readText path).toOption)

/-- Answers requests with a frozen copy of the table. -/
def frozen (s : Session α) (queries : List (String × String)) : Logged (Result α) := do
  match ← s.table.freeze with
  | .error e => return .frozen (.error e)
  | .ok matcher => return .frozen (.ok (matcher, ← matcher.requestAll queries))

/-- Carries out a step. -/
def step [ToJson α] [FromJson α] (s : Session α) : Step α → Logged (Session α × Result α)
  | .add path target methods => do return (s.withTable (← s.table.add path target methods), .done)
  | .openGroup stem =>
    return ({ s with table := s.table.openGroup stem, openGroups := s.openGroups + 1 }, .opened)
  | .closeGroup => if s.openGroups = 0 then return (s, .noGroup) else return (s.leave 1, .closed)
  | .abandon levels =>
    if s.openGroups = 0 then return (s, .noGroup) else return (s.leave levels, .abandoned)
  | .compile => do
    let (table, compiled) ← s.table.compile
    return (s.withTable table, .compiled compiled)
  | .list => return (s, .routes s.table.routes)
  | .request queries => do
    let (table, outcomes) ← s.table.requestAll queries
    return (s.withTable table, .answers outcomes)
  | .frozen queries => do return (s, ← s.frozen queries)
  | .reset => return (s.withTable {}, .done)
  | .adopt text =>
    match readRecords text with
    | .error e => return (s, .failed (.format e))
    | .ok routes => return (s.withTable (.ofCompiled routes), .done)
  | .write path content =>
    match s.files.write path content with
    | .error e => return (s, .failed (.file e))
    | .ok files => return ({ s with files }, .done)
  | .makeDirectory path => return ({ s with files := s.files.makeDirectory path }, .done)
  | .read path => return (s, .text (s.files.readText path).toOption)
  | .save path => s.save path
  | .load path => do
    match ← loadRecords s.files path with
    | .error e => return (s, .failed e)
    | .ok routes => return (s.withTable (.ofCompiled routes), .done)
  | .create cache routes => do
    let creation ← createTable s.files cache fun t => t.addRoutes routes
    let s := { s with files := creation.files }
    match creation.table with
    | .error e => return (s, .created creation.built (some e))
    | .ok table => return (s.withTable table, .created creation.built none)

/-- Carries out steps one after the other. -/
def run [ToJson α] [FromJson α] (s : Session α) :
    List (Step α) → Logged (Session α × List (Result α))
  | [] => return (s, [])
  | step :: steps => do
    let (s, result) ← s.step step
    let (s, results) ← s.run steps
    return (s, result :: results)

end Session

end PathRouter

import PathRouter.Command.Basic
import PathRouter.Journal.Filter
import PathRouter.RouteFile.Rebuild

/-!
# Running commands

`Command.run` carries out a command on a store of files, and gives the exit code, the text for the
standard output, and the files afterwards. Its notes begin when the route file has been read, as
the route file says which of them are shown.
-/

namespace PathRouter

/-- Why a command fails. -/
inductive Failure where
  /-- There is no route file. -/
  | config (e : ConfigError)
  /-- There is no table, or no cache file. -/
  | cache (e : CacheError)
  /-- Nothing says where to write the cache file. -/
  | noOutput
deriving DecidableEq

/-- The wording. -/
def Failure.message : Failure → String
  | config e => e.message
  | cache e => e.message
  | noOutput => "no output file: pass --out or set cache.path"

/-- What a command leaves behind. -/
structure Completion where
  /-- The files. -/
  files : Files
  /-- The standard output. -/
  output : String
  /-- The exit code, or why the command failed. -/
  status : Except Failure Nat

namespace Completion

/-- The exit code. -/
def code (c : Completion) : Nat :=
  match c.status with
  | .ok n => n
  | .error _ => 1

end Completion

namespace Command

/-! ## Requests -/

/-- The exit code that goes with an answer. -/
def exitCode {α : Type} : Outcome α → Nat
  | .found _ _ => 0
  | .notFound => 1
  | .notAllowed _ => 2

/-- The words of a line. White space separates them. -/
def words (line : List Char) : List String :=
  ((line.splitBy fun a b => Unicode.isWhite a == Unicode.isWhite b).filter
    fun w => !w.all Unicode.isWhite).map String.ofList

/-- The path and the method of a line: a method and a path, or a path alone. -/
def readRequest? (line : List Char) : Option (String × String) :=
  match words line with
  | [] => none
  | [path] => some (path, "")
  | method :: path :: _ => some (path, method)

/-- The requests of a text, one per line that is not blank. -/
def readRequests (text : String) : List (String × String) :=
  (text.toList.splitOn '\n').filterMap readRequest?

/-! ## Listing -/

/-- A text with spaces after it, up to a width. -/
def padded (width : Nat) (text : String) : String :=
  text ++ String.ofList (List.replicate (width - text.length) ' ')

/-- The line for a route. -/
def listing (r : CompiledRoute String) : String :=
  let methods := if r.methods.isAny then "*" else ",".intercalate r.methods.toList
  padded 12 methods ++ " " ++ padded 40 r.path ++ " " ++ r.target
    ++ (match r.matcher with
      | .literal => ""
      | .pattern p => " (" ++ p.regex.source ++ ")")
    ++ "\n"

/-! ## Actions -/

/-- Compiles the routes and writes the cache file. -/
def runCompile (files : Files) (f : RouteFile) (out : Option String) : Logged Completion := do
  match out <|> f.cachePath with
  | none => return ⟨files, "", .error .noOutput⟩
  | some path =>
    let (table, compiled) ← (← Table.ofRouteFile f).compile
    match compiled with
    | .error e => return ⟨files, "", .error (.cache (.pattern e))⟩
    | .ok routes =>
      let (files, saved) ← saveRecords files path routes
      match saved with
      | .error e => return ⟨files, "", .error (.cache e)⟩
      | .ok () => return ⟨files, s!"compiled {table.size} routes into {path}\n", .ok 0⟩

/-- Answers one request. -/
def runQuery (files : Files) (f : RouteFile) (path method : String) (ignoreCache : Bool) :
    Logged Completion := do
  let cache := if ignoreCache then none else f.cachePath
  let creation ← createTable files cache fun t => t.register f
  match creation.table with
  | .error e => return ⟨creation.files, "", .error (.cache e)⟩
  | .ok table =>
    let (_, answer) ← table.request path method
    match answer with
    | .error e => return ⟨creation.files, "", .error (.cache (.pattern e))⟩
    | .ok outcome => return ⟨creation.files, outcome.json.pretty ++ "\n", .ok (exitCode outcome)⟩

/-- Lists the routes. -/
def runList (files : Files) (f : RouteFile) : Logged Completion := do
  let (_, compiled) ← (← Table.ofRouteFile f).compile
  match compiled with
  | .error e => return ⟨files, "", .error (.cache (.pattern e))⟩
  | .ok routes => return ⟨files, String.join (routes.map listing), .ok 0⟩

/-- The matcher to begin with: the rebuilt one, or else the one with the routes of the route file
as it was loaded. -/
def initialMatcher (files : Files) (path : String) (f : RouteFile) :
    Logged (Files × Except PatternError (Matcher String)) := do
  let r ← rebuild files path
  match r.matcher with
  | .ok matcher => return (r.files, .ok matcher)
  | .error e =>
    Logged.note [.event (.initialRebuildFailed e.message)]
    return (r.files, ← (← Table.ofRouteFile f).freeze)

/-- Answers the requests of a text, one line each. -/
def runWatch (files : Files) (path : String) (f : RouteFile) (input : String) :
    Logged Completion := do
  let (files, matcher) ← initialMatcher files path f
  match matcher with
  | .error e => return ⟨files, "", .error (.cache (.pattern e))⟩
  | .ok matcher =>
    let w ← Watch.start path matcher
    let outcomes ← w.matcher.requestAll (readRequests input)
    return ⟨files, String.join (outcomes.map fun o => o.json.compact ++ "\n"), .ok 0⟩

/-- Carries out the action of a command. -/
def runAction (files : Files) (c : Command) (f : RouteFile) (input : String) :
    Logged Completion := do
  Logged.note [.event (.starting c.config)]
  match c.action with
  | .compile out => runCompile files f out
  | .query path method ignoreCache => runQuery files f path method ignoreCache
  | .list => runList files f
  | .watch => runWatch files c.config f input

/-- Carries out a command. The second part of the answer holds the lines of the log, which are
chosen by the filter of the environment if there is one and otherwise by the level of the route
file. -/
def run (files : Files) (c : Command) (input : String) (environment : Option String) :
    Completion × List String :=
  match (RouteFile.load files c.config).value with
  | .error e => (⟨files, "", .error (.config e)⟩, [])
  | .ok f =>
    let filter := Filter.choose environment f.logLevel
    let done := runAction files c f input
    (done.value, ((Note.events done.notes).filter filter.shows).map Event.line)

end Command

end PathRouter

import PathRouter.Journal.Basic
import PathRouter.Routing.Outcome

/-!
# Route tables

A table holds routes in the order of their registration. Its compiled form is made when it is first
needed and kept until a route is added. While groups are open, their stems go in front of the path
of every registered route, the outermost first and without separators between them.

A frozen table is a `Matcher`: it holds the compiled form only, and answers requests without
change.
-/

namespace PathRouter

/-- A table of routes. -/
structure Table (α : Type) where
  /-- The routes in the order of registration. -/
  routes : List (Route α) := []
  /-- The compiled form, if it is up to date. -/
  compiled : Option (List (CompiledRoute α)) := none
  /-- The stems of the open groups, the outermost first. -/
  stems : List String := []

/-- An immutable compiled table. -/
structure Matcher (α : Type) where
  /-- The compiled routes. -/
  routes : List (CompiledRoute α)
deriving DecidableEq

/-- The stems and a path in one, or a slash if there is nothing in them. -/
def fullPath (stems : List String) (path : String) : String :=
  let joined := String.join stems ++ path
  if joined.isEmpty then "/" else joined

variable {α : Type}

/-! ## Notes -/

/-- The notes on compiling a route. -/
def CompiledRoute.notes (r : CompiledRoute α) : List Note :=
  match r.matcher with
  | .literal => []
  | .pattern p => [.event (.patternCompiled r.path p.regex.source)]

/-- The notes on compiling routes one after the other, up to the first one that fails. -/
def compileNotes : List (Route α) → List Note
  | [] => []
  | r :: rs =>
    match r.compile with
    | .error _ => []
    | .ok c => c.notes ++ compileNotes rs

/-- The notes on a compiled table. -/
def tableNotes (routes : List (CompiledRoute α)) : List Note :=
  [.event (.tableCompiled routes.length (routes.countP fun r => !r.matcher.isLiteral)),
    .count .compilations]

/-- The notes on a decision. -/
def Verdict.notes (path method : String) : Verdict α → List Note
  | found route _ => [.event (.routeMatched path method route.path), .count .found]
  | notFound => [.event (.noRouteMatched path method), .count .notFound]
  | notAllowed allowed => [.event (.methodNotAllowed path method allowed), .count .notAllowed]

/-- Answers a request and takes notes. -/
def answer (routes : List (CompiledRoute α)) (path method : String) : Logged (Outcome α) :=
  let verdict := Verdict.ofRoutes routes path method
  ⟨verdict.outcome, verdict.notes path method⟩

/-! ## Verbs -/

/-- What a route may be registered for by its own word: any method, or a common one. -/
inductive Verb where
  /-- Any method. -/
  | any
  /-- `GET` -/
  | get
  /-- `HEAD` -/
  | head
  /-- `POST` -/
  | post
  /-- `PUT` -/
  | put
  /-- `PATCH` -/
  | patch
  /-- `DELETE` -/
  | delete
  /-- `OPTIONS` -/
  | options
deriving DecidableEq, Repr

namespace Verb

/-- All verbs with their words. -/
def words : List (String × Verb) :=
  [("any", any), ("get", get), ("head", head), ("post", post), ("put", put), ("patch", patch),
    ("delete", delete), ("options", options)]

/-- The verb with a word. -/
def ofWord? (word : String) : Option Verb :=
  words.lookup word

/-- The methods. -/
def methods : Verb → Methods
  | any => .any
  | get => .single "GET"
  | head => .single "HEAD"
  | post => .single "POST"
  | put => .single "PUT"
  | patch => .single "PATCH"
  | delete => .single "DELETE"
  | options => .single "OPTIONS"

end Verb

/-! ## Tables -/

namespace Table

/-- A table with a compiled form that is given. -/
def ofCompiled (routes : List (CompiledRoute α)) : Table α where
  routes := routes.map CompiledRoute.route
  compiled := some routes

/-- Whether the compiled form is up to date. -/
def isCompiled (t : Table α) : Bool :=
  t.compiled.isSome

/-- The number of routes. -/
def size (t : Table α) : Nat :=
  t.routes.length

/-- Whether there are no routes. -/
def isEmpty (t : Table α) : Bool :=
  t.routes.isEmpty

/-! ## Registration -/

/-- Registers a route inside the open groups. -/
def add (t : Table α) (path : String) (target : α) (methods : Methods) : Logged (Table α) :=
  let path := fullPath t.stems path
  ⟨{ t with routes := t.routes ++ [{ path, methods, target }], compiled := none },
    if t.isCompiled then [.event (.tableInvalidated path)] else []⟩

/-- Registers a route for a verb. -/
def addFor (t : Table α) (verb : Verb) (path : String) (target : α) : Logged (Table α) :=
  t.add path target verb.methods

/-- Opens a group. -/
def openGroup (t : Table α) (stem : String) : Table α :=
  { t with stems := t.stems ++ [stem] }

/-- Closes the innermost open group. -/
def closeGroup (t : Table α) : Table α :=
  { t with stems := t.stems.dropLast }

/-! ## Compiling and answering -/

/-- Compiles a table unless it is compiled already. A table that does not compile stays as it
was. -/
def compile (t : Table α) : Logged (Table α × Except PatternError (List (CompiledRoute α))) :=
  match t.compiled with
  | some routes => ⟨(t, .ok routes), []⟩
  | none =>
    match compileRoutes t.routes with
    | .error e => ⟨(t, .error e), compileNotes t.routes⟩
    | .ok routes =>
      ⟨({ t with compiled := some routes }, .ok routes),
        compileNotes t.routes ++ tableNotes routes⟩

/-- Answers a request. -/
def request (t : Table α) (path method : String) :
    Logged (Table α × Except PatternError (Outcome α)) := do
  let (t, compiled) ← t.compile
  match compiled with
  | .error e => return (t, .error e)
  | .ok routes => return (t, .ok (← answer routes path method))

/-- Answers requests one after the other. -/
def requestAll (t : Table α) :
    List (String × String) → Logged (Table α × List (Except PatternError (Outcome α)))
  | [] => return (t, [])
  | (path, method) :: rest => do
    let (t, outcome) ← t.request path method
    let (t, outcomes) ← t.requestAll rest
    return (t, outcome :: outcomes)

/-- The frozen table. -/
def freeze (t : Table α) : Logged (Except PatternError (Matcher α)) := do
  let (_, compiled) ← t.compile
  return compiled.map Matcher.mk

end Table

namespace Matcher

/-- Answers a request. -/
def request (m : Matcher α) (path method : String) : Logged (Outcome α) :=
  answer m.routes path method

/-- Answers requests one after the other. -/
def requestAll (m : Matcher α) : List (String × String) → Logged (List (Outcome α))
  | [] => return []
  | (path, method) :: rest => do
    let outcome ← m.request path method
    let outcomes ← m.requestAll rest
    return outcome :: outcomes

end Matcher

end PathRouter

import PathRouter.RouteFile.Read
import PathRouter.Session.Basic

/-!
# Route files in sessions

Steps on a table with texts as targets that have to do with route files: registering the routes of
one, loading one without using it, and rebuilding a matcher from one.
-/

namespace PathRouter

/-- A step that has to do with route files. -/
inductive RouteFileStep where
  /-- Registers the routes of a TOML text. -/
  | registerText (text : String)
  /-- Registers the routes of a JSON text. -/
  | registerJson (text : String)
  /-- Loads a route file. -/
  | load (path : String)
  /-- Rebuilds a matcher from a route file. -/
  | rebuild (path : String)

/-- What came of such a step. -/
inductive RouteFileResult where
  /-- It was done. -/
  | done
  /-- There is no route file. -/
  | refused (e : ConfigError)
  /-- The JSON text holds no route file. -/
  | undecoded (e : Json.ReadError)
  /-- The route file. -/
  | loaded (f : RouteFile)
  /-- The routes of the rebuilt matcher. -/
  | rebuilt (routes : Except RebuildError (List (CompiledRoute String)))

namespace Session

/-- Registers the routes of a route file. -/
def register (s : Session String) (f : Except ConfigError RouteFile) :
    Logged (Session String × RouteFileResult) := do
  match f with
  | .error e => return (s, .refused e)
  | .ok f => return (s.withTable (← s.table.register f), .done)

/-- Carries out a step that has to do with route files. -/
def stepRouteFile (s : Session String) : RouteFileStep → Logged (Session String × RouteFileResult)
  | .registerText text => do s.register (← RouteFile.parse text)
  | .registerJson text =>
    match RouteFile.ofJsonText text with
    | .error e => return (s, .undecoded e)
    | .ok f => do s.register (← f.checked)
  | .load path => do
    match ← RouteFile.load s.files path with
    | .error e => return (s, .refused e)
    | .ok f => return (s, .loaded f)
  | .rebuild path => do
    let r ← rebuild s.files path
    return ({ s with files := r.files }, .rebuilt (r.matcher.map Matcher.routes))

end Session

end PathRouter

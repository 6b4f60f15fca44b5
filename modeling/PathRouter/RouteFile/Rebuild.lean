import PathRouter.RouteFile.Load
import PathRouter.RouteFile.Register
import PathRouter.Storage.Cache

/-!
# Rebuilding matchers

`rebuild` makes a matcher from a route file from scratch, and writes the cache file that the route
file names, since its records may be stale. A `Watch` follows a route file: after every change it
takes the rebuilt matcher, or keeps the one it has if rebuilding fails.
-/

namespace PathRouter

/-- Why a matcher cannot be rebuilt. -/
inductive RebuildError where
  /-- There is no route file. -/
  | config (e : ConfigError)
  /-- There is no compiled table, or no cache file. -/
  | cache (e : CacheError)
deriving DecidableEq

/-- The wording. -/
def RebuildError.message : RebuildError → String
  | config e => e.message
  | cache e => e.message

/-- The files after an attempt to make a matcher, and its result. -/
structure Rebuild where
  /-- The files. -/
  files : Files
  /-- The matcher. -/
  matcher : Except RebuildError (Matcher String)

/-- Makes a matcher from the routes of a route file: compiles them, saves what was compiled, and
freezes the table. -/
def rebuildFrom (files : Files) (f : RouteFile) : Logged Rebuild := do
  let (table, compiled) ← (← Table.ofRouteFile f).compile
  match compiled with
  | .error e => return ⟨files, .error (.cache (.pattern e))⟩
  | .ok routes =>
    let (files, saved) ← saveIfNamed files f.cachePath routes
    match saved with
    | .error e => return ⟨files, .error (.cache e)⟩
    | .ok () => return ⟨files, (← table.freeze).mapError fun e => .cache (.pattern e)⟩

/-- Makes a matcher from a route file. -/
def rebuild (files : Files) (path : String) : Logged Rebuild := do
  match ← RouteFile.load files path with
  | .error e => return ⟨files, .error (.config e)⟩
  | .ok f => rebuildFrom files f

/-- A route file that is being watched, and the matcher in service. -/
structure Watch where
  /-- The path of the route file. -/
  path : String
  /-- The matcher. -/
  matcher : Matcher String

namespace Watch

/-- Starts to watch a route file. -/
def start (path : String) (matcher : Matcher String) : Logged Watch :=
  ⟨⟨path, matcher⟩, [.event (.watchStarted path)]⟩

/-- Takes notice of a change of the route file. The answer says whether the matcher was
replaced. -/
def change (w : Watch) (files : Files) : Logged (Files × Watch × Bool) := do
  Logged.note [.event .changeDetected]
  let r ← rebuild files w.path
  match r.matcher with
  | .error e =>
    Logged.note [.event (.reloadFailed e.message)]
    return (r.files, w, false)
  | .ok matcher =>
    Logged.note [.event (.tableReloaded matcher.routes.length)]
    return (r.files, { w with matcher }, true)

end Watch

end PathRouter

import PathRouter.Text.Quoted
import PathRouter.Routing.NameSet

/-!
# Events

What the library reports about its work. Every event has a level, the area it comes from, a message
and named fields. `Event.line` writes it in one line.
-/

namespace PathRouter

/-- How important an event is, the most important first. -/
inductive Level where
  /-- Something failed. -/
  | error
  /-- Something failed, and work goes on another way. -/
  | warn
  /-- Something of interest happened. -/
  | info
  /-- A step of the work. -/
  | debug
  /-- A small step of the work. -/
  | trace
deriving DecidableEq, Repr

namespace Level

/-- The name. -/
def text : Level → String
  | error => "ERROR"
  | warn => "WARN"
  | info => "INFO"
  | debug => "DEBUG"
  | trace => "TRACE"

/-- A larger number for a less important level. -/
def rank : Level → Nat
  | error => 1
  | warn => 2
  | info => 3
  | debug => 4
  | trace => 5

end Level

/-- An event. -/
inductive Event where
  /-- A pattern became a regular expression. -/
  | patternCompiled (pattern regex : String)
  /-- A table was compiled; some of its routes are patterns. -/
  | tableCompiled (routes patterns : Nat)
  /-- A route was added to a compiled table. -/
  | tableInvalidated (path : String)
  /-- A route answered a request. -/
  | routeMatched (path method route : String)
  /-- No route recognised the path of a request. -/
  | noRouteMatched (path method : String)
  /-- Only routes for other methods recognised the path of a request. -/
  | methodNotAllowed (path method : String) (allowed : NameSet)
  /-- Records were written to a file. -/
  | recordsSaved (path : String) (routes : Nat)
  /-- Records were read from a file. -/
  | recordsLoaded (path : String) (routes : Nat)
  /-- A route file was read. -/
  | routeFileLoaded (path : String) (routes groups : Nat)
  /-- The program starts. -/
  | starting (config : String)
  /-- A route file was read and could not be put to use. -/
  | initialRebuildFailed (reason : String)
  /-- A route file is being watched. -/
  | watchStarted (path : String)
  /-- A watched file changed. -/
  | changeDetected
  /-- A changed route file was put to use. -/
  | tableReloaded (routes : Nat)
  /-- A changed route file could not be put to use. -/
  | reloadFailed (reason : String)
  /-- Events go to somebody else already. -/
  | subscriberPresent
deriving DecidableEq

/-- The value of a field: a text that is shown quoted in a line, or one that is shown as it is. -/
inductive FieldValue where
  /-- Shown as it is. -/
  | bare (text : String)
  /-- Shown quoted. -/
  | quoted (text : String)
deriving DecidableEq, Repr

namespace FieldValue

/-- A number. -/
def ofNat (n : Nat) : FieldValue :=
  bare (String.ofList (Nat.toDigits 10 n))

/-- The text itself. -/
def text : FieldValue → String
  | bare t | quoted t => t

/-- The text in a line. -/
def shown : FieldValue → String
  | bare t => t
  | quoted t => Text.quoted t

end FieldValue

namespace Event

/-- The level. -/
def level : Event → Level
  | patternCompiled .. | tableInvalidated .. | routeMatched .. | noRouteMatched ..
  | methodNotAllowed .. => .trace
  | tableCompiled .. | routeFileLoaded .. | starting .. | subscriberPresent => .debug
  | recordsSaved .. | recordsLoaded .. | watchStarted .. | changeDetected | tableReloaded .. =>
      .info
  | initialRebuildFailed .. => .warn
  | reloadFailed .. => .error

/-- The area. -/
def area : Event → String
  | patternCompiled .. => "route_matcher::routing::compiler"
  | tableCompiled .. | tableInvalidated .. => "route_matcher::routing::table"
  | routeMatched .. | noRouteMatched .. | methodNotAllowed .. => "route_matcher::routing::matcher"
  | recordsSaved .. | recordsLoaded .. => "route_matcher::cache"
  | routeFileLoaded .. => "route_matcher::config::loader"
  | starting .. | initialRebuildFailed .. => "route_matcher"
  | watchStarted .. | changeDetected | tableReloaded .. | reloadFailed .. =>
    "route_matcher::config::watcher"
  | subscriberPresent => "route_matcher::observability::logging"

/-- The message. -/
def message : Event → String
  | patternCompiled .. => "Compiled route pattern"
  | tableCompiled .. => "Compiled route table"
  | tableInvalidated .. => "Route added, compiled cache invalidated"
  | routeMatched .. => "Route matched"
  | noRouteMatched .. => "No route matched"
  | methodNotAllowed .. => "Method not allowed"
  | recordsSaved .. => "Saved compiled route cache"
  | recordsLoaded .. => "Loaded compiled route cache"
  | routeFileLoaded .. => "Route file loaded"
  | starting .. => "route-matcher starting"
  | initialRebuildFailed reason =>
    "Initial rebuild failed: " ++ reason ++ ". Using loaded configuration."
  | watchStarted .. => "Route file watcher started"
  | changeDetected => "Route file change detected, reloading..."
  | tableReloaded .. => "Route table reloaded"
  | reloadFailed reason => "Failed to reload routes: " ++ reason ++ ". Keeping current table."
  | subscriberPresent => "Tracing subscriber already installed"

/-- The fields. -/
def fields : Event → List (String × FieldValue)
  | patternCompiled pattern regex => [("pattern", .quoted pattern), ("regex", .bare regex)]
  | tableCompiled routes patterns => [("routes", .ofNat routes), ("patterns", .ofNat patterns)]
  | tableInvalidated path => [("path", .bare path)]
  | routeMatched path method route =>
    [("path", .quoted path), ("method", .quoted method), ("route", .bare route)]
  | noRouteMatched path method => [("path", .quoted path), ("method", .quoted method)]
  | methodNotAllowed path method allowed =>
    [("path", .quoted path), ("method", .quoted method),
      ("allowed", .bare (Text.quotedSet allowed.names))]
  | recordsSaved path routes => [("path", .bare path), ("routes", .ofNat routes)]
  | recordsLoaded path routes => [("path", .bare path), ("routes", .ofNat routes)]
  | routeFileLoaded path routes groups =>
    [("path", .bare path), ("routes", .ofNat routes), ("groups", .ofNat groups)]
  | starting config => [("config", .bare config)]
  | watchStarted path => [("path", .bare (Text.quoted path))]
  | tableReloaded routes => [("routes", .ofNat routes)]
  | subscriberPresent =>
      [("error", .bare "a global default trace dispatcher has already been set")]
  | initialRebuildFailed _ | changeDetected | reloadFailed _ => []

/-- The event in one line. -/
def line (e : Event) : String :=
  e.level.text ++ " " ++ e.area ++ ": " ++ e.message
    ++ String.join (e.fields.map fun f => " " ++ f.1 ++ "=" ++ f.2.shown)

end Event

end PathRouter

import PathRouter.RouteFile.Basic
import PathRouter.Routing.Record

/-!
# Reading route files from JSON texts

A route file is read from a JSON text as it comes, from left to right, and the first problem is
reported. The parts of a text may be nested 127 levels deep, which bounds the nesting of groups:
every group takes a level for itself and one for the list it stands in. What a record has more than
its fields is a problem of the text if the record is written as an array, and is skipped if it is
written as an object.
-/

namespace PathRouter

open Json (Layout Reader)

/-! ## Routes -/

namespace RouteEntry

/-- A route that is being read. -/
structure Draft where
  /-- The pattern. -/
  path : Option String := none
  /-- The accepted methods. -/
  methods : Option Methods := none
  /-- What the route leads to. -/
  target : Option String := none

/-- The form of a route. -/
def layout : Layout Draft where
  name := "RouteConfig"
  fields := [
    .of "path" false Draft.path (fun d s => { d with path := some s }) Json.readString,
    .of "methods" true Draft.methods (fun d m => { d with methods := some m }) Methods.read,
    .of "target" false Draft.target (fun d s => { d with target := some s }) Json.readString]

/-- The route of a draft. -/
def ofDraft (d : Draft) : RouteEntry where
  path := d.path.getD ""
  methods := d.methods.getD .any
  target := d.target.getD ""

/-- Reads a route. -/
def read : Reader RouteEntry :=
  Json.readChecked (layout.read {}) fun d => .ok (ofDraft d)

end RouteEntry

/-! ## Groups -/

namespace RouteGroup

/-- A group that is being read. -/
structure Draft where
  /-- What stands in front of all paths in the group. -/
  stem : Option String := none
  /-- The routes of the group itself. -/
  routes : Option (List RouteEntry) := none
  /-- The groups inside the group. -/
  groups : Option (List RouteGroup) := none

/-- The form of a group, with a reader of the groups inside it. -/
def layout (group : Reader RouteGroup) : Layout Draft where
  name := "GroupConfig"
  fields := [
    .of "prefix" true Draft.stem (fun d s => { d with stem := some s }) Json.readString,
    .of "routes" true Draft.routes (fun d rs => { d with routes := some rs })
      (Json.readList RouteEntry.read),
    .of "groups" true Draft.groups (fun d gs => { d with groups := some gs })
      (Json.readList group)]

/-- The group of a draft. -/
def ofDraft (d : Draft) : RouteGroup where
  stem := d.stem.getD ""
  routes := d.routes.getD []
  groups := d.groups.getD []

/-- Reads a group in which groups are nested less than `nested` deep. -/
def readWithin : (nested : Nat) → Reader RouteGroup
  | 0 => fun _ _ _ => .error .malformed
  | nested + 1 => Json.readChecked ((layout (readWithin nested)).read {}) fun d => .ok (ofDraft d)

/-- Reads a group. Groups cannot be nested deeper than there are levels. -/
def read : Reader RouteGroup := fun stray levels =>
  readWithin (levels + 1) stray levels

end RouteGroup

/-! ## Route files -/

namespace RouteFile

/-- The form of the settings of the cache. -/
def cacheLayout : Layout (Option (Option String)) where
  name := "CacheConfig"
  fields := [.of "path" true id (fun _ path => some path) (Json.readOptional Json.readString)]

/-- Reads the settings of the cache. -/
def readCache : Reader (Option String) :=
  Json.readChecked (cacheLayout.read none) fun d => .ok (d.getD none)

/-- The form of the settings of the log. -/
def logLayout : Layout (Option String) where
  name := "ObservabilityConfig"
  fields := [.of "log_level" true id (fun _ level => some level) Json.readString]

/-- Reads the settings of the log. -/
def readLogLevel : Reader String :=
  Json.readChecked (logLayout.read none) fun d => .ok (d.getD "info")

/-- A route file that is being read. -/
structure Draft where
  /-- The routes outside of groups. -/
  routes : Option (List RouteEntry) := none
  /-- The groups. -/
  groups : Option (List RouteGroup) := none
  /-- The path of the cache file. -/
  cachePath : Option (Option String) := none
  /-- The level from which events are logged. -/
  logLevel : Option String := none

/-- The form of a route file. -/
def layout : Layout Draft where
  name := "RouterConfig"
  fields := [
    .of "routes" true Draft.routes (fun d rs => { d with routes := some rs })
      (Json.readList RouteEntry.read),
    .of "groups" true Draft.groups (fun d gs => { d with groups := some gs })
      (Json.readList RouteGroup.read),
    .of "cache" true Draft.cachePath (fun d path => { d with cachePath := some path }) readCache,
    .of "observability" true Draft.logLevel (fun d level => { d with logLevel := some level })
      readLogLevel]

/-- The route file of a draft. -/
def ofDraft (d : Draft) : RouteFile where
  routes := d.routes.getD []
  groups := d.groups.getD []
  cachePath := d.cachePath.getD none
  logLevel := d.logLevel.getD "info"

/-- Reads a route file. -/
def read : Reader RouteFile :=
  Json.readChecked (layout.read {}) fun d => .ok (ofDraft d)

/-- The route file of a JSON text. -/
def ofJsonText (text : String) : Except Json.ReadError RouteFile :=
  Json.readDocument read text

end RouteFile

end PathRouter

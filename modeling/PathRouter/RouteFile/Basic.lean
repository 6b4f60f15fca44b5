import PathRouter.Routing.Methods
import PathRouter.Routing.Outcome

/-!
# Route files

The content of a route file: routes, groups of routes under a common stem, which may be nested, the
path of a cache file, and the level from which events are logged.
-/

namespace PathRouter

/-- A route of a route file. -/
structure RouteEntry where
  /-- The pattern, without the stems of groups. -/
  path : String
  /-- The accepted methods. -/
  methods : Methods := .any
  /-- What the route leads to. -/
  target : String
deriving DecidableEq

/-- Routes under a common stem. -/
structure RouteGroup where
  /-- What stands in front of all paths in the group. -/
  stem : String := ""
  /-- The routes of the group itself. -/
  routes : List RouteEntry := []
  /-- The groups inside the group, after its own routes. -/
  groups : List RouteGroup := []
deriving Inhabited

/-- A route file. -/
structure RouteFile where
  /-- The routes outside of groups. -/
  routes : List RouteEntry := []
  /-- The groups, after the routes. -/
  groups : List RouteGroup := []
  /-- The path of the cache file, if there shall be one. -/
  cachePath : Option String := none
  /-- The level from which events are logged. -/
  logLevel : String := "info"

namespace RouteEntry

/-- The JSON form. -/
def json (r : RouteEntry) : Json :=
  .obj [("path", .str r.path), ("methods", toJson r.methods), ("target", .str r.target)]

end RouteEntry

namespace RouteGroup

mutual

/-- The JSON form. -/
def json : RouteGroup → Json
  | ⟨stem, routes, groups⟩ =>
    .obj [("prefix", .str stem), ("routes", .arr (routes.map RouteEntry.json)),
      ("groups", .arr (jsons groups))]

/-- The JSON forms of some groups. -/
def jsons : List RouteGroup → List Json
  | [] => []
  | g :: gs => json g :: jsons gs

end

end RouteGroup

namespace RouteFile

/-- The JSON form. -/
def json (f : RouteFile) : Json :=
  .obj [("routes", .arr (f.routes.map RouteEntry.json)),
    ("groups", .arr (RouteGroup.jsons f.groups)), ("cache", .obj [("path", match f.cachePath with
      | none => .null
      | some path => .str path)]),
    ("observability", .obj [("log_level", .str f.logLevel)])]

end RouteFile

end PathRouter

import PathRouter.RouteFile.Basic
import PathRouter.Routing.Table

/-!
# Registering the routes of route files

The routes of a route file are registered in their order, the groups after the routes around them.
Every group is opened on the table while its routes are registered.
-/

namespace PathRouter.Table

/-- Registers routes. -/
def addEntries (t : Table String) : List RouteEntry → Logged (Table String)
  | [] => return t
  | r :: rs => do
    let t ← t.add r.path r.target r.methods
    t.addEntries rs

mutual

/-- Registers the routes of a group. -/
def addGroup (t : Table String) : RouteGroup → Logged (Table String)
  | ⟨stem, routes, groups⟩ => do
    let t ← (t.openGroup stem).addEntries routes
    let t ← addGroups t groups
    return t.closeGroup

/-- Registers the routes of some groups. -/
def addGroups (t : Table String) : List RouteGroup → Logged (Table String)
  | [] => return t
  | g :: gs => do
    let t ← addGroup t g
    addGroups t gs

end

/-- Registers the routes of a route file. -/
def register (t : Table String) (f : RouteFile) : Logged (Table String) := do
  let t ← t.addEntries f.routes
  addGroups t f.groups

/-- The table with the routes of a route file. -/
def ofRouteFile (f : RouteFile) : Logged (Table String) :=
  register {} f

end PathRouter.Table

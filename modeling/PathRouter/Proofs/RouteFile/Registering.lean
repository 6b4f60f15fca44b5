import PathRouter.Proofs.Routing.Registering

/-!
# What a route file registers

The routes of a route file, in the order in which they are registered: its own routes, then those
of the groups, where the routes of a group come before the groups inside it.  Each one is listed
with the stems of the groups around it.  The groups that are opened on the way have been left at
the end, so what a route file does to a table is to append routes.

* `Table.append` — a table with more routes; every kind of registration is of this form;
* `Table.addGroup_eq`, `Table.register_eq` — registering a group, or a route file, appends its
  routes.
-/

namespace PathRouter

/-! ## Registrations -/

/-- A route of a route file, inside some groups. -/
def RouteEntry.registration (stems : List String) (r : RouteEntry) : Registration String where
  stems := stems
  route := { path := r.path, methods := r.methods, target := r.target }

namespace RouteGroup

mutual

/-- The routes of a group that stands inside some groups. -/
def registrations (stems : List String) : RouteGroup → List (Registration String)
  | ⟨stem, routes, groups⟩ =>
    routes.map (RouteEntry.registration (stems ++ [stem]))
      ++ registrationsOfAll (stems ++ [stem]) groups

/-- The routes of some groups that stand inside some groups. -/
def registrationsOfAll (stems : List String) : List RouteGroup → List (Registration String)
  | [] => []
  | g :: gs => registrations stems g ++ registrationsOfAll stems gs

end

end RouteGroup

/-- The routes of a route file that is registered inside some groups. -/
def RouteFile.registrations (stems : List String) (f : RouteFile) : List (Registration String) :=
  f.routes.map (RouteEntry.registration stems) ++ RouteGroup.registrationsOfAll stems f.groups

/-! ## Tables -/

namespace Table

variable {α : Type}

/-- The table with more routes, which is compiled anew unless there are none. -/
def append (t : Table α) (routes : List (Route α)) : Table α :=
  { t with routes := t.routes ++ routes, compiled := if routes.isEmpty then t.compiled else none }

@[simp] theorem append_nil (t : Table α) : t.append [] = t := by
  simp [append]

theorem append_append (t : Table α) (rs rs' : List (Route α)) :
    (t.append rs).append rs' = t.append (rs ++ rs') := by
  cases rs <;> cases rs' <;> simp [append]

theorem add_eq (t : Table α) (path : String) (target : α) (methods : Methods) :
    (t.add path target methods).value =
      t.append [{ path := fullPath t.stems path, methods, target }] :=
  rfl

theorem addRoutes_eq (t : Table α) (routes : List (Route α)) : (t.addRoutes routes).value =
    t.append (routes.map fun r => { r with path := fullPath t.stems r.path }) := by
  induction routes generalizing t with
  | nil => simp [addRoutes]
  | cons r rs ih =>
      rw [addRoutes, Logged.value_bind, ih, add_eq, append_append]
      rfl

/-- The stem of a group that has been left is gone. -/
theorem closeGroup_append (t : Table α) (stem : String) (routes : List (Route α)) :
    ((t.openGroup stem).append routes).closeGroup = t.append routes := by
  simp [closeGroup, openGroup, append]

theorem addEntries_eq (t : Table String) (entries : List RouteEntry) :
    (t.addEntries entries).value =
      t.append ((entries.map (RouteEntry.registration t.stems)).map Registration.registered) := by
  induction entries generalizing t with
  | nil => simp [addEntries]
  | cons r rs ih =>
      rw [addEntries, Logged.value_bind, ih, add_eq, append_append]
      rfl

mutual

theorem addGroup_eq (t : Table String) (g : RouteGroup) :
    (t.addGroup g).value = t.append ((g.registrations t.stems).map Registration.registered) := by
  obtain ⟨stem, routes, groups⟩ := g
  rw [addGroup, Logged.value_bind, Logged.value_bind, Logged.value_pure, addEntries_eq,
    addGroups_eq, append_append, closeGroup_append, RouteGroup.registrations, List.map_append]
  rfl

theorem addGroups_eq (t : Table String) (groups : List RouteGroup) :
    (t.addGroups groups).value =
      t.append ((RouteGroup.registrationsOfAll t.stems groups).map Registration.registered) := by
  cases groups with
  | nil => simp [addGroups, RouteGroup.registrationsOfAll]
  | cons g gs =>
      rw [addGroups, Logged.value_bind, addGroup_eq, addGroups_eq, append_append,
        RouteGroup.registrationsOfAll, List.map_append]
      rfl

end

/-- Registering a route file appends its routes, each with the stems of all groups around it. -/
theorem register_eq (t : Table String) (f : RouteFile) :
    (t.register f).value = t.append ((f.registrations t.stems).map Registration.registered) := by
  rw [register, Logged.value_bind, addEntries_eq, addGroups_eq, append_append,
    RouteFile.registrations, List.map_append]
  rfl

theorem ofRouteFile_eq (f : RouteFile) :
    (ofRouteFile f).value = append {} ((f.registrations []).map Registration.registered) :=
  register_eq {} f

end Table

end PathRouter

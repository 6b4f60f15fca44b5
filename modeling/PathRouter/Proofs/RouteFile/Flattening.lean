import Mathlib.Logic.Relation
import PathRouter.Proofs.RouteFile.Problems

/-!
# The flat form of a route file

A route file is a tree of groups, and registering it opens and closes groups on a table.  What is
left of the tree are its routes, depth first, each with everything around it put together in front
of its path.

* `RouteFile.flatten` — the flat form, in which groups are gone and only text is left of their
  stems;
* `RouteFile.map_registered` — the routes that are registered are those of the flat form;
* `RouteGroup.Regrouped` — ways to write a group as several groups;
* `Table.register_flattens` — registering a route file appends its flat form and does nothing else,
  so regrouping does not change what is registered.
-/

namespace PathRouter

/-! ## The flat form -/

/-- A route of a route file with some text in front of its path, or with a slash for a path if
there is nothing in it. -/
def RouteEntry.placed (front : String) (r : RouteEntry) : Route String where
  path := if (front ++ r.path).isEmpty then "/" else front ++ r.path
  methods := r.methods
  target := r.target

namespace RouteGroup

mutual

/-- The routes of a group with some text in front of it: its own routes, and then those of the
groups in it. -/
def flatten (front : String) : RouteGroup → List (Route String)
  | ⟨stem, routes, groups⟩ =>
    routes.map (RouteEntry.placed (front ++ stem)) ++ flattenAll (front ++ stem) groups

/-- The routes of some groups, one after the other. -/
def flattenAll (front : String) : List RouteGroup → List (Route String)
  | [] => []
  | g :: gs => flatten front g ++ flattenAll front gs

end

end RouteGroup

/-- The routes of a route file with some text in front of it: those outside of groups come
first. -/
def RouteFile.flatten (front : String) (f : RouteFile) : List (Route String) :=
  f.routes.map (RouteEntry.placed front) ++ RouteGroup.flattenAll front f.groups

/-! ## Registering -/

theorem RouteEntry.map_registered (stems : List String) (entries : List RouteEntry) :
    (entries.map (registration stems)).map Registration.registered =
      entries.map (placed (String.join stems)) := by
  rw [List.map_map]
  rfl

namespace RouteGroup

mutual

theorem map_registered (stems : List String) (g : RouteGroup) :
    (g.registrations stems).map Registration.registered = g.flatten (String.join stems) := by
  obtain ⟨stem, routes, groups⟩ := g
  rw [registrations, List.map_append, RouteEntry.map_registered, map_registeredAll, flatten,
    join_concat]

theorem map_registeredAll (stems : List String) (groups : List RouteGroup) :
    (registrationsOfAll stems groups).map Registration.registered =
      flattenAll (String.join stems) groups := by
  cases groups with
  | nil => rfl
  | cons g gs =>
      rw [registrationsOfAll, List.map_append, map_registered, map_registeredAll, flattenAll]

end

end RouteGroup

/-- The routes that are registered are those of the flat form. -/
theorem RouteFile.map_registered (stems : List String) (f : RouteFile) :
    (f.registrations stems).map Registration.registered = f.flatten (String.join stems) := by
  rw [registrations, List.map_append, RouteEntry.map_registered,
    RouteGroup.map_registeredAll, flatten]

theorem Table.register_eq_append_flatten (t : Table String) (f : RouteFile) :
    (t.register f).value = t.append (f.flatten (String.join t.stems)) := by
  rw [register_eq, RouteFile.map_registered]

/-! ## Regrouping -/

namespace RouteGroup

/-- Some groups are the same as others but for one that has been split. -/
inductive Regrouped : List RouteGroup → List RouteGroup → Prop
  /-- A group becomes a group inside another one, and its stem is shared out between the two. -/
  | nest (outer inner : String) (routes : List RouteEntry) (groups rest : List RouteGroup) :
      Regrouped (⟨outer ++ inner, routes, groups⟩ :: rest)
        (⟨outer, [], [⟨inner, routes, groups⟩]⟩ :: rest)
  /-- A group becomes two groups of the same stem, and its routes are shared out between them. -/
  | apart (stem : String) (routes routes' : List RouteEntry) (groups rest : List RouteGroup) :
      Regrouped (⟨stem, routes ++ routes', groups⟩ :: rest)
        (⟨stem, routes, []⟩ :: ⟨stem, routes', groups⟩ :: rest)
  /-- The group that is split stands inside the first one. -/
  | inside (stem : String) (routes : List RouteEntry) (rest : List RouteGroup)
      {groups groups' : List RouteGroup} : Regrouped groups groups' →
        Regrouped (⟨stem, routes, groups⟩ :: rest) (⟨stem, routes, groups'⟩ :: rest)
  /-- The group that is split stands after the first one. -/
  | later (g : RouteGroup) {groups groups' : List RouteGroup} : Regrouped groups groups' →
      Regrouped (g :: groups) (g :: groups')

theorem Regrouped.flattenAll_eq {groups groups' : List RouteGroup} (h : Regrouped groups groups')
    (front : String) : flattenAll front groups = flattenAll front groups' := by
  induction h generalizing front with
  | nest outer inner routes groups rest => simp [flattenAll, flatten, String.append_assoc]
  | apart stem routes routes' groups rest => simp [flattenAll, flatten]
  | inside stem routes rest _ ih => rw [flattenAll, flattenAll, flatten, flatten, ih]
  | later g _ ih => rw [flattenAll, flattenAll, ih]

/-- Groups that come from each other by splitting, and by undoing it, have one flat form. -/
theorem flattenAll_eq_of_regrouped {groups groups' : List RouteGroup}
    (h : Relation.EqvGen Regrouped groups groups') (front : String) :
    flattenAll front groups = flattenAll front groups' := by
  induction h with
  | rel _ _ h => exact h.flattenAll_eq front
  | refl _ => rfl
  | symm _ _ _ ih => exact ih.symm
  | trans _ _ _ _ _ ih ih' => exact ih.trans ih'

end RouteGroup

/-- Registering a route file appends its flat form, with the stems of the open groups in front, and
does nothing else.  If that adds a route, the table is to be compiled anew, and otherwise it stays
as compiled as it was.  It does not matter how the routes are grouped. -/
theorem Table.register_flattens (t : Table String) (f : RouteFile) :
    (t.register f).value.routes = t.routes ++ f.flatten (String.join t.stems) ∧
    (t.register f).value.stems = t.stems ∧
    (f.flatten (String.join t.stems) ≠ [] → (t.register f).value.compiled = none) ∧
    (f.flatten (String.join t.stems) = [] → (t.register f).value.compiled = t.compiled) ∧
    ∀ groups, Relation.EqvGen RouteGroup.Regrouped f.groups groups →
      (t.register { f with groups }).value = (t.register f).value := by
  rw [register_eq_append_flatten]
  refine ⟨rfl, rfl, fun h => ?_, fun h => ?_, fun groups h => ?_⟩
  · rw [append, if_neg (by simpa using h)]
  · rw [h, append_nil]
  · rw [register_eq_append_flatten, RouteFile.flatten, RouteFile.flatten,
      RouteGroup.flattenAll_eq_of_regrouped h]

/-! ## A group in one piece and in two -/

/-- A group inside a version of an interface. -/
def usersGroup : RouteGroup where
  stem := "/users"
  routes := [{ path := "/\x7Bid:i\x7D", target := "user" }]

/-- The version as one group. -/
def versionFile : RouteFile where
  groups :=
    [{ stem := "/api/v1", routes := [{ path := "", target := "about" }], groups := [usersGroup] }]

/-- The version as a group inside a group. -/
def nestedVersionFile : RouteFile where
  groups := [{ stem := "/api", groups :=
    [{ stem := "/v1", routes := [{ path := "", target := "about" }], groups := [usersGroup] }] }]

/-- The version is registered inside an open group, whichever way its stem is written. -/
theorem register_flattens_version :
    (Table.register { stems := ["/shop"] } nestedVersionFile).value =
        (Table.register { stems := ["/shop"] } versionFile).value ∧
      (Table.register { stems := ["/shop"] } versionFile).value.routes =
        [⟨"/shop/api/v1", .any, "about"⟩, ⟨"/shop/api/v1/users/\x7Bid:i\x7D", .any, "user"⟩] := by
  obtain ⟨hroutes, -, -, -, hregroup⟩ := Table.register_flattens { stems := ["/shop"] } versionFile
  refine ⟨hregroup nestedVersionFile.groups (.rel _ _ (.nest "/api" "/v1" _ _ _)), ?_⟩
  rw [hroutes]
  decide

end PathRouter

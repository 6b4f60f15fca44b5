import Mathlib.Data.List.DropRight
import PathRouter.Proofs.RouteFile.Registering
import PathRouter.Proofs.Routing.Compiling
import PathRouter.RouteFile.Load

/-!
# Problems and registrations

The problems of a route file are found by one walk over its groups, its routes are registered by
another one, which opens and leaves groups on a table.  The two meet the same routes, in the same
order and with the same stems.  So a route file without problems compiles, and one that does not
compile has the reason among its problems.

* `Registration.problems` — the problems of a route as it is registered;
* `RouteGroup.problems_eq` — the problems of a group are those of its registrations;
* `compileRoutes_registered_eq_error_iff` — compiling fails with the first problem of a pattern;
* `RouteFile.problems_eq_registered` — checking a route file against registering it.
-/

namespace PathRouter

/-! ## Blank texts -/

namespace Unicode

/-- A text without the white space at its ends. -/
def trimmed (s : String) : List Char :=
  (s.toList.dropWhile isWhite).rdropWhile isWhite

/-- A text is blank if trimming leaves nothing of it. -/
theorem isBlank_iff {s : String} : isBlank s = true ↔ trimmed s = [] := by
  rw [isBlank, List.all_eq_true, trimmed, List.rdropWhile_eq_nil_iff]
  constructor
  · exact fun h c hc => h c ((List.dropWhile_sublist _).subset hc)
  · intro h c hc
    rw [← List.takeWhile_append_dropWhile (p := isWhite) (l := s.toList)] at hc
    exact (List.mem_append.1 hc).elim List.mem_takeWhile_imp (h c)

end Unicode

/-! ## Registrations -/

/-- The error of a pattern, if the problem is one. -/
def Problem.pattern? : Problem → Option PatternError
  | pattern e => some e
  | _ => none

namespace Registration

variable (r : Registration String)

/-- The path with the stems in front of it. -/
def joined : String :=
  r.stem ++ r.route.path

/-- The problems of a registered route, the one of its pattern last. -/
def problems : List Problem :=
  (if Unicode.trimmed r.route.target = [] then [.emptyTarget r.joined] else []) ++
    (if ∃ m ∈ r.route.methods.toList, Unicode.trimmed m =
      [] then [.blankMethod r.joined] else []) ++
    match compilePath r.joined with
    | .error e => [.pattern e]
    | .ok _ => []

/-- A route without stems and path is registered under a slash. -/
theorem path_registered_eq : r.registered.path = if r.joined = "" then "/" else r.joined := by
  show (if r.joined.isEmpty then "/" else r.joined) = _
  exact if_congr String.isEmpty_iff rfl rfl

theorem problems_registration (stems : List String) (e : RouteEntry) :
    (e.registration stems).problems = e.problems (String.join stems) := by
  have hmethod : (∃ m ∈ e.methods.toList, Unicode.trimmed m = []) ↔
      e.methods.toList.any Unicode.isBlank = true := by
    simp only [List.any_eq_true, Unicode.isBlank_iff]
  exact congrArg₂ (· ++ ·) (congrArg₂ (· ++ ·) (if_congr Unicode.isBlank_iff.symm rfl rfl)
    (if_congr hmethod rfl rfl)) rfl

/-- The slash makes no difference to compiling. -/
theorem compilePath_path_registered : compilePath r.registered.path = compilePath r.joined := by
  rw [path_registered_eq]
  split
  next h =>
    rw [h, compilePath_of_literal (by decide +kernel), compilePath_of_literal (by decide +kernel)]
  · rfl

/-- The first problem of a pattern, if there is one. -/
theorem findSome?_problems : r.problems.findSome? Problem.pattern? =
    match compilePath r.joined with
    | .error e => some e
    | .ok _ => none := by
  have htarget : (if Unicode.trimmed r.route.target = [] then
      [Problem.emptyTarget r.joined] else []).findSome? Problem.pattern? = none := by
    split <;> rfl
  have hmethod : (if ∃ m ∈ r.route.methods.toList, Unicode.trimmed m = [] then
      [Problem.blankMethod r.joined] else []).findSome? Problem.pattern? = none := by
    split <;> rfl
  rw [problems, List.findSome?_append, List.findSome?_append, htarget, hmethod, Option.none_or,
    Option.none_or]
  split <;> rfl

end Registration

/-! ## Groups -/

theorem join_concat (stems : List String) (stem : String) :
    String.join (stems ++ [stem]) = String.join stems ++ stem := by
  simp [String.join]

/-- The routes of a route file that stand next to each other. -/
theorem flatMap_problems_eq (stems : List String) (entries : List RouteEntry) :
    entries.flatMap (RouteEntry.problems (String.join stems)) =
      (entries.map (RouteEntry.registration stems)).flatMap Registration.problems := by
  rw [List.flatMap_map]
  exact List.flatMap_congr fun e _ => (Registration.problems_registration stems e).symm

namespace RouteGroup

mutual

/-- The walk over a group for its problems meets the routes that the group registers. -/
theorem problems_eq (stems : List String) (g : RouteGroup) : g.problems (String.join stems) =
    (g.registrations stems).flatMap Registration.problems := by
  obtain ⟨stem, routes, groups⟩ := g
  rw [problems, registrations, List.flatMap_append, ← join_concat, flatMap_problems_eq,
    problemsOfAll_eq]

theorem problemsOfAll_eq (stems : List String) (groups : List RouteGroup) :
    problemsOfAll (String.join stems) groups =
      (registrationsOfAll stems groups).flatMap Registration.problems := by
  cases groups with
  | nil => rw [problemsOfAll, registrationsOfAll, List.flatMap_nil]
  | cons g gs =>
      rw [problemsOfAll, registrationsOfAll, List.flatMap_append, problems_eq, problemsOfAll_eq]

end

end RouteGroup

/-! ## Compiling what is registered -/

/-- Compiling registered routes fails with the first problem of a pattern. -/
theorem compileRoutes_registered_eq_error_iff {rs : List (Registration String)}
    {e : PatternError} :
    compileRoutes (rs.map Registration.registered) = .error e ↔
      (rs.flatMap Registration.problems).findSome? Problem.pattern? = some e := by
  induction rs with
  | nil => simp [compileRoutes]
  | cons r rs ih =>
      rw [List.map_cons, List.flatMap_cons, List.findSome?_append, r.findSome?_problems,
        compileRoutes]
      cases hc : compilePath r.joined with
      | error e' =>
          rw [Route.compile_of_error (r.compilePath_path_registered.trans hc)]
          simp
      | ok m =>
          rw [Route.compile_of_ok (r.compilePath_path_registered.trans hc), Option.none_or, ← ih]
          cases compileRoutes (rs.map Registration.registered) <;> simp

namespace RouteFile

/-- The problems of a route file are those of the routes that it registers. -/
theorem problems_eq (f : RouteFile) :
    f.problems = (f.registrations []).flatMap Registration.problems := by
  rw [problems, registrations,
    List.flatMap_append, ← flatMap_problems_eq, ← RouteGroup.problemsOfAll_eq]
  rfl

/-- Checking a route file agrees with registering it.  The problems are those of the registered
routes, one route after the other; the path that is reported is the one that is registered, but for
a slash in place of nothing.  A route file without problems gives a table that can be compiled and
frozen, and if a table cannot be compiled, then the reason is the first problem of a pattern. -/
theorem problems_eq_registered (f : RouteFile) :
    let registrations := f.registrations []
    let table := (Table.ofRouteFile f).value
    table.routes = registrations.map Registration.registered ∧
      f.check = (if registrations.flatMap Registration.problems = [] then .ok f
        else .error (registrations.flatMap Registration.problems)) ∧
      (∀ r ∈ registrations, r.registered.path = if r.joined = "" then "/" else r.joined) ∧
      (f.check = .ok f → ∃ routes, table.compile.value.2 = .ok routes ∧
        table.freeze.value = .ok ⟨routes⟩) ∧
      ∀ e, table.compile.value.2 = .error e ↔
        (registrations.flatMap Registration.problems).findSome? Problem.pattern? = some e := by
  intro registrations table
  have htable : table = Table.append {} (registrations.map Registration.registered) :=
    Table.ofRouteFile_eq f
  have hproblems : f.problems = registrations.flatMap Registration.problems := f.problems_eq
  have hcompile :
      table.compile.value.2 = compileRoutes (registrations.map Registration.registered) := by
    rw [Table.snd_compile, htable]
    simp [Table.append]
  have herror : ∀ e, table.compile.value.2 = .error e ↔
      (registrations.flatMap Registration.problems).findSome? Problem.pattern? = some e := by
    intro e
    rw [hcompile, compileRoutes_registered_eq_error_iff]
  refine ⟨by rw [htable]; rfl, ?_, fun r _ => r.path_registered_eq, ?_, herror⟩
  · rw [check, hproblems]
    exact if_congr List.isEmpty_iff rfl rfl
  · intro hcheck
    have hnone : registrations.flatMap Registration.problems = [] := by
      rw [check, hproblems] at hcheck
      split at hcheck
      next hempty => exact List.isEmpty_iff.1 hempty
      · cases hcheck
    cases hc : table.compile.value.2 with
    | error e =>
        rw [herror, hnone] at hc
        cases hc
    | ok routes => exact ⟨routes, rfl, by rw [Table.value_freeze, hc]; rfl⟩

/-- A route file with a group inside a group, and a route that has no path of its own. -/
def nested : RouteFile where
  routes := [{ path := "", target := "home" }]
  groups := [
    { stem := "/users"
      groups := [
        { stem := "/\x7Bid:i\x7D"
          routes := [{ path := "", methods := .single "GET", target := "user" }] }] }]

/-- It has no problems, and is compiled and frozen. -/
theorem compile_nested : nested.check = .ok nested ∧ ∃ routes,
    (Table.ofRouteFile nested).value.compile.value.2 = .ok routes ∧
      (Table.ofRouteFile nested).value.freeze.value = .ok ⟨routes⟩ := by
  have hproblems : nested.problems.isEmpty = true := by decide +kernel
  have hcheck : nested.check = .ok nested := if_pos hproblems
  obtain ⟨-, -, -, hcompile, -⟩ := problems_eq_registered nested
  exact ⟨hcheck, hcompile hcheck⟩

end RouteFile

end PathRouter

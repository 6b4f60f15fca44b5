import PathRouter.Proofs.Pattern.Acceptance
import PathRouter.Proofs.Routing.Registering

/-!
# Compiling tables

What a table compiles to depends on its routes alone, or on the compiled form that it was given;
the two are never mixed.  Answers to requests and frozen tables are made of that.

* `map_route_of_compileRoutes` — compiling keeps the routes and their order;
* `Table.snd_compile` — what a table compiles to, and `Table.snd_compile_compile`, compiling again
  gives the same;
* `Table.snd_request`, `Table.value_freeze` — answers and frozen tables come from what is compiled.
-/

namespace PathRouter

/-! ## Results that are there -/

section Results

variable {ε β γ : Type} {x : Except ε β}

theorem isOk_iff_exists : x.isOk = true ↔ ∃ b, x = .ok b := by
  cases x <;> simp [Except.isOk, Except.toBool]

theorem isOk_eq_false_iff_exists : x.isOk = false ↔ ∃ e, x = .error e := by
  cases x <;> simp [Except.isOk, Except.toBool]

theorem map_eq_ok_iff {g : β → γ} {c : γ} : x.map g = .ok c ↔ ∃ b, x = .ok b ∧ g b = c := by
  cases x <;> simp [Except.map]

theorem map_eq_error_iff {g : β → γ} {e : ε} : x.map g = .error e ↔ x = .error e := by
  cases x <;> simp [Except.map]

end Results

/-! ## Compiled tables -/

variable {α : Type}

/-- Routes are compiled one by one. -/
theorem compileRoutes_eq_mapM (rs : List (Route α)) :
    compileRoutes rs = rs.mapM Route.compile := by
  induction rs with
  | nil => rfl
  | cons r rs ih =>
      rw [List.mapM_cons, ← ih, compileRoutes]
      cases r.compile with
      | error e => rfl
      | ok c => cases compileRoutes rs <;> rfl

/-- Compiling keeps the path, the methods and the target of every route. -/
theorem map_route_of_compileRoutes {rs : List (Route α)} {cs : List (CompiledRoute α)}
    (h : compileRoutes rs = .ok cs) : cs.map CompiledRoute.route = rs := by
  induction rs generalizing cs with
  | nil =>
      cases h
      rfl
  | cons r rs ih =>
      simp only [compileRoutes] at h
      split at h
      · cases h
      next c hc =>
        split at h
        · cases h
        next cs' hcs =>
          cases h
          rw [List.map_cons, ih hcs, (Route.of_compile_eq_ok hc).1]

namespace Table

variable (t : Table α)

theorem snd_compile : t.compile.value.2 = t.compiled.elim (compileRoutes t.routes) .ok := by
  unfold compile
  split
  next routes h => rw [h, Option.elim_some]
  next h =>
    rw [h, Option.elim_none]
    split
    next e he => exact he.symm
    next routes hroutes => exact hroutes.symm

/-- The stems of open groups do not count. -/
theorem snd_compile_congr {t t' : Table α} (hroutes : t'.routes = t.routes)
    (hcompiled : t'.compiled = t.compiled) : t'.compile.value.2 = t.compile.value.2 := by
  rw [snd_compile, snd_compile, hroutes, hcompiled]

theorem compiled_closeGroups (n : Nat) : (t.closeGroups n).compiled = t.compiled := by
  induction n generalizing t with
  | zero => rfl
  | succ n ih => exact ih t.closeGroup

/-- A compiled table compiles to what it has been compiled to. -/
theorem snd_compile_compile : t.compile.value.1.compile.value.2 = t.compile.value.2 := by
  rw [snd_compile t.compile.value.1, routes_compile]
  unfold compile
  split
  next routes h => rw [h, Option.elim_some]
  next h =>
    split
    next e he => rw [h, Option.elim_none, he]
    next routes hroutes => rfl

/-- A table that compiles keeps its compiled form. -/
theorem compiled_compile {routes : List (CompiledRoute α)} (h : t.compile.value.2 = .ok routes) :
    t.compile.value.1.compiled = some routes := by
  unfold compile at h ⊢
  split at h
  next routes' hcompiled =>
    cases h
    rw [hcompiled]
  next hcompiled =>
    split at h
    · cases h
    · cases h
      rfl

theorem snd_request (path method : String) : (t.request path method).value.2 =
    t.compile.value.2.map fun routes => matchRoutes routes path method := by
  simp only [request, Logged.value_bind]
  split
  next e he =>
    rw [he]
    rfl
  next routes hroutes =>
    rw [hroutes]
    rfl

theorem snd_requestAll (queries : List (String × String)) : (t.requestAll queries).value.2 =
    queries.map fun q => t.compile.value.2.map fun routes => matchRoutes routes q.1 q.2 := by
  induction queries generalizing t with
  | nil => rfl
  | cons q queries ih =>
      obtain ⟨path, method⟩ := q
      simp only [requestAll, Logged.value_bind, Logged.value_pure, ih, fst_request,
        snd_compile_compile, snd_request, List.map_cons]

theorem value_freeze : t.freeze.value = t.compile.value.2.map Matcher.mk := rfl

/-- A table that has been compiled is frozen without another word. -/
theorem freeze_compile {routes : List (CompiledRoute α)} (h : t.compile.value.2 = .ok routes) :
    t.compile.value.1.freeze = ⟨.ok ⟨routes⟩, []⟩ := by
  have hagain : t.compile.value.1.compile = ⟨(t.compile.value.1, .ok routes), []⟩ := by
    rw [compile, t.compiled_compile h]
  rw [freeze, hagain]
  rfl

end Table

namespace Matcher

theorem value_requestAll (m : Matcher α) (queries : List (String × String)) :
    (m.requestAll queries).value = queries.map fun q => matchRoutes m.routes q.1 q.2 := by
  induction queries with
  | nil => rfl
  | cons q queries ih => exact congrArg (matchRoutes m.routes q.1 q.2 :: ·) ih

end Matcher

end PathRouter

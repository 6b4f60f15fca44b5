import PathRouter.Proofs.Routing.Scoping
import PathRouter.Proofs.Routing.Uncached

/-!
# Runs that keep the table

A run keeps the table if none of its operations puts another one in its place.  Routes are only
added then, at the end, whatever else is done; and the compiled form of a table that was not given
is always that of its routes.  Both are read off the session without a cache that describes the run
(`UncachedSession`), where nothing is kept that could get out of date.

* `compileRoutes_append` — what more routes compile to;
* `UncachedSession.given_perform` — one operation, and `Session.derived_performAll` — a run that
  never takes a table made of compiled routes;
* `Session.Inside.routes_performAll` — a run that keeps the table.
-/

namespace PathRouter

variable {α : Type}

/-! ## Compiling more routes -/

theorem compileRoutes_cons_of_ok {r : Route α} {c : CompiledRoute α} (h : r.compile = .ok c)
    (rs : List (Route α)) : compileRoutes (r :: rs) = (compileRoutes rs).map (c :: ·) := by
  rw [compileRoutes, h]
  cases compileRoutes rs <;> rfl

/-- The compiled form of more routes begins with that of the first ones. -/
theorem compileRoutes_append (rs rs' : List (Route α)) : compileRoutes (rs ++ rs') =
    (compileRoutes rs).bind fun cs => (compileRoutes rs').map (cs ++ ·) := by
  induction rs with
  | nil => cases hrs : compileRoutes rs' <;> simp [compileRoutes, hrs, Except.bind, Except.map]
  | cons r rs ih =>
      cases hr : r.compile with
      | error e =>
          rw [List.cons_append, compileRoutes, compileRoutes, hr]
          rfl
      | ok c =>
          rw [List.cons_append, compileRoutes_cons_of_ok hr, compileRoutes_cons_of_ok hr, ih]
          cases compileRoutes rs <;> cases compileRoutes rs' <;> rfl

/-! ## Operations that keep the table -/

/-- Whether an operation with this result put a table made of compiled routes in the place of the
one in use. -/
def Operation.givesCompiled : Operation α → Result α → Bool
  | .replace given, _ => given.isSome
  | .step (.adopt _), .done => true
  | .step (.load _), .done => true
  | .step (.create ..), .created built none => !built
  | _, _ => false

/-- None of these operations replaces the table. -/
def Session.KeepsTable [ToJson α] [FromJson α] (s : Session α) (os : List (Operation α)) : Prop :=
  ∀ o ∈ os.zip (s.performAll os).2, o.1.replacesTable o.2 = false

/-- None of these operations takes a table made of compiled routes. -/
def Session.NeverGiven [ToJson α] [FromJson α] (s : Session α) (os : List (Operation α)) : Prop :=
  ∀ o ∈ os.zip (s.performAll os).2, o.1.givesCompiled o.2 = false

theorem Operation.replacesTable_of_givesCompiled {o : Operation α} {result : Result α}
    (h : o.givesCompiled result = true) : o.replacesTable result = true := by
  unfold givesCompiled at h
  split at h <;> first | rfl | cases h

/-- Registered routes are compiled when they are needed; nothing else is kept of them. -/
theorem UncachedCreation.given_of_built [ToJson α] [FromJson α] {files : Files}
    {cache : Option String} {routes : List (Route α)} {table : UncachedTable α}
    (hbuilt : (UncachedCreation.create files cache routes).built = true)
    (htable : (UncachedCreation.create files cache routes).table = .ok table) :
    table.given = none := by
  have happend (rs : List (Route α)) : (UncachedTable.append {} rs).given = none := by
    cases rs <;> rfl
  unfold create at hbuilt htable
  cases hcache : cache.filter files.isFile with
  | some path => simp [hcache] at hbuilt
  | none =>
      simp only [hcache, build] at htable
      split at htable
      · cases htable
      · obtain ⟨-, -, rfl⟩ := map_eq_ok_iff.1 htable
        exact happend _

theorem UncachedSession.table_save [ToJson α] (u : UncachedSession α) (path : String) :
    (u.save path).1.table = u.table := by
  unfold save
  split
  · rfl
  · dsimp only
    split <;> rfl

namespace UncachedSession

variable [ToJson α] [FromJson α] {u : UncachedSession α}

/-- Only a table made of compiled routes is given. -/
theorem given_step {step : Step α} (hnone : u.table.given = none)
    (hgives : (Operation.step step).givesCompiled (u.step step).2 = false) :
    (u.step step).1.table.given = none := by
  cases step with
  | closeGroup =>
      simp only [UncachedSession.step]
      split <;> exact hnone
  | abandon levels =>
      simp only [UncachedSession.step]
      split <;> exact hnone
  | adopt text =>
      simp only [UncachedSession.step] at hgives ⊢
      split at hgives
      · exact hnone
      · cases hgives
  | write path content =>
      simp only [UncachedSession.step]
      split <;> exact hnone
  | save path => exact (congrArg UncachedTable.given (u.table_save path)).trans hnone
  | load path =>
      simp only [UncachedSession.step] at hgives ⊢
      split at hgives
      · exact hnone
      · cases hgives
  | create cache routes =>
      simp only [UncachedSession.step, take] at hgives ⊢
      split at hgives
      · exact hnone
      next table htable =>
        have hbuilt : (UncachedCreation.create u.files cache routes).built = true := by
          simpa [Operation.givesCompiled] using hgives
        exact UncachedCreation.given_of_built hbuilt htable
  | add path target methods => rfl
  | reset => rfl
  | openGroup stem => exact hnone
  | compile => exact hnone
  | list => exact hnone
  | request queries => exact hnone
  | frozen queries => exact hnone
  | makeDirectory path => exact hnone
  | read path => exact hnone

theorem given_perform {o : Operation α} (hnone : u.table.given = none)
    (hgives : o.givesCompiled (u.perform o).2 = false) : (u.perform o).1.table.given = none := by
  cases o with
  | step step => exact given_step hnone hgives
  | register f =>
      show (u.table.append _).given = none
      unfold UncachedTable.append
      split
      · exact hnone
      · rfl
  | replace given =>
      cases given with
      | none => rfl
      | some routes => cases hgives

/-- As long as no table made of compiled routes is taken, nothing is given. -/
theorem given_performAll {os : List (Operation α)} (hnone : u.table.given = none)
    (hgives : ∀ o ∈ os.zip (u.performAll os).2, o.1.givesCompiled o.2 = false) :
    (u.performAll os).1.table.given = none := by
  induction os generalizing u with
  | nil => exact hnone
  | cons o os ih =>
      have hgives' : ∀ p ∈ (o, (u.perform o).2) :: os.zip ((u.perform o).1.performAll os).2,
          p.1.givesCompiled p.2 = false := hgives
      rw [List.forall_mem_cons] at hgives'
      exact ih (given_perform hnone hgives'.1) hgives'.2

end UncachedSession

/-! ## Runs that keep the table -/

/-- A table compiles to what its routes compile to; it was not made of compiled routes. -/
def Table.Derived (t : Table α) : Prop :=
  t.compile.value.2 = compileRoutes t.routes

namespace Session

variable [ToJson α] [FromJson α] {s : Session α} {groups : List OpenGroup}
    {os : List (Operation α)}

theorem KeepsTable.neverGiven (h : s.KeepsTable os) : s.NeverGiven os := by
  intro o ho
  rw [← Bool.not_eq_true]
  intro hgives
  cases (h o ho).symm.trans (Operation.replacesTable_of_givesCompiled hgives)

/-- A table that nothing was given to compiles to what its routes compile to. -/
theorem derived_performAll (hderived : s.table.Derived) (hgiven : s.NeverGiven os) :
    (s.performAll os).1.table.Derived := by
  let u : UncachedSession α := ⟨⟨s.table.routes, s.table.stems, none⟩, s.openGroups, s.files⟩
  have hcompiled : s.table.compile.value.2 = u.table.compiled := by
    rw [UncachedTable.compiled_of_given_eq_none (u := u.table) rfl]
    exact hderived
  have hu : u.Describes s := ⟨⟨rfl, rfl, hcompiled, fun _ h => nomatch h⟩, rfl, rfl⟩
  obtain ⟨hlast, hresults⟩ := hu.performAll os
  have hnone : (u.performAll os).1.table.given = none := by
    refine UncachedSession.given_performAll rfl ?_
    rw [← hresults]
    exact hgiven
  rw [Table.Derived, hlast.table.compiled, hlast.table.routes,
    UncachedTable.compiled_of_given_eq_none hnone]

/-- The routes of a table that is kept stay, and others may come behind them. -/
theorem Inside.routes_performAll (h : s.Inside groups) (hkeeps : s.KeepsTable os) :
    ∃ added, (s.performAll os).1.table.routes = s.table.routes ++ added := by
  induction os generalizing s groups with
  | nil => exact ⟨[], (List.append_nil _).symm⟩
  | cons o os ih =>
      have hkeeps' : ∀ p ∈ (o, (s.perform o).2) :: os.zip ((s.perform o).1.performAll os).2,
          p.1.replacesTable p.2 = false := hkeeps
      rw [List.forall_mem_cons] at hkeeps'
      obtain ⟨added, hadded⟩ := ih (h.perform o) hkeeps'.2
      have hfirst := h.routes_perform o hkeeps'.1
      refine ⟨(o.registrations s.table.stems).map Registration.registered ++ added, ?_⟩
      rw [← List.append_assoc, ← hfirst]
      exact hadded

end Session

end PathRouter

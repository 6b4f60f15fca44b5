import PathRouter.Proofs.Routing.Continuing
import PathRouter.Proofs.Routing.Counting

/-!
# Tables that do not compile

A table does not compile because of one of its routes, the first one whose path does not compile.
Routes are only ever added behind it, and nothing is kept of an attempt that fails; so the table is
stuck with that route for as long as it is used, and says so every time.

* `compileRoutes_eq_error_iff` — the error is that of the first route that does not compile;
* `Table.stuck_of_compile` — an attempt that fails leaves no trace;
* `Session.stuck_performAll` — runs.
-/

namespace PathRouter

open Note

variable {α : Type}

/-- The routes before the failing one compile, and what comes after it does not matter. -/
theorem compileRoutes_eq_error_iff {rs : List (Route α)} {e : PatternError} :
    compileRoutes rs = .error e ↔ ∃ before r after, rs = before ++ r :: after ∧
      (∀ b ∈ before, (compilePath b.path).isOk = true) ∧ compilePath r.path = .error e := by
  induction rs with
  | nil => simp [compileRoutes]
  | cons r rs ih =>
      cases hr : compilePath r.path with
      | error e' =>
          rw [compileRoutes, Route.compile_of_error hr]
          constructor
          · rintro ⟨⟩
            exact ⟨[], r, rs, rfl, by simp, hr⟩
          · rintro ⟨before, r', after, hrs, hbefore, hfails⟩
            cases before with
            | nil =>
                cases hrs
                exact congrArg Except.error (Except.error.inj (hr.symm.trans hfails))
            | cons b before =>
                cases hrs
                have hb := hbefore r List.mem_cons_self
                rw [hr] at hb
                cases hb
      | ok m =>
          rw [compileRoutes_cons_of_ok (Route.compile_of_ok hr), map_eq_error_iff, ih]
          constructor
          · rintro ⟨before, r', after, rfl, hbefore, hfails⟩
            refine ⟨r :: before, r', after, rfl, ?_, hfails⟩
            rw [List.forall_mem_cons, hr]
            exact ⟨rfl, hbefore⟩
          · rintro ⟨before, r', after, hrs, hbefore, hfails⟩
            cases before with
            | nil =>
                cases hrs
                cases hr.symm.trans hfails
            | cons b before =>
                cases hrs
                exact ⟨before, r', after, rfl, (List.forall_mem_cons.1 hbefore).2, hfails⟩

namespace Table

/-- Something that needs the compiled form of the table fails. -/
def FailsWith (t : Table α) (e : PatternError) : Prop :=
  t.compile.value.2 = .error e ∨ (∃ path method, (t.request path method).value.2 = .error e) ∨
    t.freeze.value = .error e

/-- Whatever needs the compiled form of the table fails, and leaves no trace. -/
structure Stuck (t : Table α) (e : PatternError) : Prop where
  /-- There is no compiled form. -/
  not_compiled : t.isCompiled = false
  /-- Compiling fails and changes nothing. -/
  compile : t.compile.value = (t, .error e)
  /-- Requests fail and change nothing. -/
  request : ∀ path method, (t.request path method).value = (t, .error e)
  /-- Freezing fails. -/
  freeze : t.freeze.value = .error e
  /-- No compilation is counted. -/
  total_compile : ∀ c, total c t.compile.notes = 0
  /-- No answer is counted. -/
  total_request : ∀ c path method, total c (t.request path method).notes = 0
  /-- No compilation is counted. -/
  total_freeze : ∀ c, total c t.freeze.notes = 0

variable {t : Table α} {e : PatternError}

theorem FailsWith.compile (h : t.FailsWith e) : t.compile.value.2 = .error e := by
  rcases h with h | ⟨path, method, h⟩ | h
  · exact h
  · rw [snd_request] at h
    exact map_eq_error_iff.1 h
  · rw [value_freeze] at h
    exact map_eq_error_iff.1 h

/-- A table that fails to compile is not compiled, so its routes do not compile. -/
theorem compileRoutes_of_compile (h : t.compile.value.2 = .error e) :
    t.compiled = none ∧ compileRoutes t.routes = .error e := by
  rw [snd_compile] at h
  cases hcompiled : t.compiled with
  | none =>
      rw [hcompiled] at h
      exact ⟨rfl, h⟩
  | some routes =>
      rw [hcompiled] at h
      cases h

theorem stuck_of_compile (h : t.compile.value.2 = .error e) : t.Stuck e := by
  obtain ⟨hnone, hroutes⟩ := compileRoutes_of_compile h
  have hcompile : t.compile = ⟨(t, .error e), compileNotes t.routes⟩ := by
    rw [Table.compile, hnone, hroutes]
  have hrequest (path method : String) :
      t.request path method = ⟨(t, .error e), compileNotes t.routes ++ []⟩ := by
    rw [Table.request, hcompile]
    rfl
  have hfreeze : t.freeze = ⟨.error e, compileNotes t.routes ++ []⟩ := by
    rw [Table.freeze, hcompile]
    rfl
  have hplain := plain_compileNotes t.routes
  exact {
    not_compiled := by rw [isCompiled, hnone]; rfl
    compile := by rw [hcompile]
    request := fun path method => by rw [hrequest]
    freeze := by rw [hfreeze]
    total_compile := fun c => by rw [hcompile]; exact hplain.total_eq_zero c
    total_request :=
  fun c path method => by rw [hrequest]; exact (hplain.append plain_nil).total_eq_zero c
    total_freeze := fun c => by rw [hfreeze]; exact (hplain.append plain_nil).total_eq_zero c }

end Table

namespace Session

variable [ToJson α] [FromJson α]

/-- A table that is used on stays stuck, since routes are added behind the ones that do not
compile. -/
theorem Inside.stuck_performAll {s : Session α} {groups : List OpenGroup} {e : PatternError}
    {later : List (Operation α)} (h : s.Inside groups)
    (hfails : s.table.compile.value.2 = .error e) (hkeeps : s.KeepsTable later) :
    (s.performAll later).1.table.Stuck e := by
  obtain ⟨hnone, hroutes⟩ := Table.compileRoutes_of_compile hfails
  obtain ⟨added, hadded⟩ := h.routes_performAll hkeeps
  have hlater : compileRoutes (s.performAll later).1.table.routes = .error e := by
    rw [hadded, compileRoutes_append, hroutes]
    rfl
  have hderived : s.table.Derived := by
    rw [Table.Derived, hfails, hroutes]
  have hcompile := derived_performAll hderived hkeeps.neverGiven
  rw [Table.Derived, hlater] at hcompile
  exact Table.stuck_of_compile hcompile

/-- If a table does not compile at some moment of a run, the reason is the first route in the order
of their registration whose path does not compile.  Nothing is changed by an attempt and nothing
counted; and as long as the table is not replaced, whatever is done with it, every attempt to
compile it, to have a request answered or to freeze it fails for the same reason. -/
theorem failure_sticks (given : Option (List (CompiledRoute α))) (files : Files)
    (os : List (Operation α)) :
    let s := (({ table := .start given, files } : Session α).performAll os).1
    ∀ e, s.table.FailsWith e →
      (∃ before r after, s.table.routes = before ++ r :: after ∧
        (∀ b ∈ before, (compilePath b.path).isOk = true) ∧ compilePath r.path = .error e) ∧
      s.table.Stuck e ∧
      ∀ later, s.KeepsTable later → (s.performAll later).1.table.Stuck e := by
  intro s e hfails
  have hinside := (Inside.start given files).performAll os
  have hcompile := hfails.compile
  refine ⟨compileRoutes_eq_error_iff.1 (Table.compileRoutes_of_compile hcompile).2,
    Table.stuck_of_compile hcompile, ?_⟩
  exact fun later hkeeps => hinside.stuck_performAll hcompile hkeeps

end Session

/-- A route that does not compile between two that do, and an attempt to compile them. -/
def failingRun : List (Operation String) :=
  [.step (.add "/ok" "ok" .any), .step (.openGroup "/bad"),
    .step (.add "/\x7Bid:uuid\x7D" "bad" (.single "GET")), .step (.add "/\x7Bid" "worse" .any),
    .step .compile]

/-- Leaving the group, registering another route and asking for it makes no difference. -/
theorem failure_sticks_group :
    let s := (({} : Session String).performAll failingRun).1
    let e := PatternError.unknownAssertion "/bad/\x7Bid:uuid\x7D" "uuid"
    let later : List (Operation String) := [.step (.abandon 1), .step (.add "/later" "later" .any),
      .step (.request [("/later", "GET")]), .step (.frozen [("/ok", "")])]
    s.table.compile.value.2 = .error e ∧ s.KeepsTable later ∧
      s.table.Stuck e ∧ (s.performAll later).1.table.Stuck e := by
  intro s e later
  have hcompile : s.table.compile.value.2 = .error e := by decide +kernel
  have hkeeps : s.KeepsTable later := by
    unfold Session.KeepsTable
    decide +kernel
  obtain ⟨-, hstuck, hlater⟩ := Session.failure_sticks none {} failingRun e (.inl hcompile)
  exact ⟨hcompile, hkeeps, hstuck, hlater later hkeeps⟩

end PathRouter

import PathRouter.Proofs.Storage.Cache
import PathRouter.Session.RouteFiles

/-!
# What a run registers

A `Ledger` is kept beside a run of steps and looks at the steps only: which groups are open, and
which routes were registered, each with the stems of the groups around it.  As long as no step
replaces the table, the table holds what the ledger says.

* `createTable_cases` — what can come of creating a table;
* `Ledger.Describes.step`, `Ledger.Describes.run` — the ledger stays right, step by step;
* `Session.routes_run` — the routes of the table after a run.
-/

namespace PathRouter

variable {α : Type}

/-! ## The ledger -/

/-- A route as it was given, and the stems of the groups that were open then. -/
structure Registration (α : Type) where
  /-- The stems, the outermost first. -/
  stems : List String
  /-- The route. -/
  route : Route α

namespace Registration

/-- What goes in front of the path. -/
def stem (r : Registration α) : String :=
  String.join r.stems

/-- The route that goes into the table. -/
def registered (r : Registration α) : Route α :=
  { r.route with path := fullPath r.stems r.route.path }

end Registration

/-- What some steps amount to: the stems of the open groups, and the routes registered so far. -/
structure Ledger (α : Type) where
  /-- The stems of the open groups, the outermost first. -/
  stems : List String := []
  /-- The routes in the order of registration. -/
  registrations : List (Registration α) := []

/-- Whether a step leaves the table in use. -/
def Step.keepsTable : Step α → Bool
  | .reset | .adopt _ | .load _ | .create .. => false
  | _ => true

namespace Ledger

/-- Takes down a step. -/
def step (l : Ledger α) : Step α → Ledger α
  | .add path target methods =>
    { l with registrations := l.registrations ++ [⟨l.stems, { path, methods, target }⟩] }
  | .openGroup stem => { l with stems := l.stems ++ [stem] }
  | .closeGroup => { l with stems := l.stems.dropLast }
  | .abandon levels => { l with stems := l.stems.take (l.stems.length - levels) }
  | _ => l

/-- Takes down steps one after the other. -/
def run (l : Ledger α) (steps : List (Step α)) : Ledger α :=
  steps.foldl step l

/-- A session whose table was given with some routes and has been used as the ledger says since
then. -/
structure Describes (l : Ledger α) (given : List (Route α)) (s : Session α) : Prop where
  /-- The routes registered since then come after the ones that were given. -/
  routes : s.table.routes = given ++ l.registrations.map Registration.registered
  /-- The open groups of the table. -/
  stems : s.table.stems = l.stems
  /-- The groups of a table that has been replaced have not been left yet. -/
  openGroups : l.stems.length ≤ s.openGroups

end Ledger

/-! ## Steps that do not register anything -/

namespace Table

variable (t : Table α)

theorem routes_compile : t.compile.value.1.routes = t.routes := by
  unfold compile
  split
  · rfl
  · split <;> rfl

theorem stems_compile : t.compile.value.1.stems = t.stems := by
  unfold compile
  split
  · rfl
  · split <;> rfl

theorem fst_request (path method : String) :
    (t.request path method).value.1 = t.compile.value.1 := by
  simp only [request, Logged.value_bind]
  split <;> rfl

/-- What compiling leaves alone, requests leave alone, too. -/
theorem apply_requestAll {β : Type} {f : Table α → β} (hf : ∀ t, f t.compile.value.1 = f t)
    (queries : List (String × String)) : f (t.requestAll queries).value.1 = f t := by
  induction queries generalizing t with
  | nil => rfl
  | cons query queries ih =>
      obtain ⟨path, method⟩ := query
      simp only [requestAll, Logged.value_bind]
      exact (ih _).trans ((congrArg f (t.fst_request path method)).trans (hf t))

theorem routes_closeGroups (n : Nat) : (t.closeGroups n).routes = t.routes := by
  induction n generalizing t with
  | zero => rfl
  | succ n ih => exact ih t.closeGroup

theorem stems_closeGroups (n : Nat) :
    (t.closeGroups n).stems = t.stems.take (t.stems.length - n) := by
  induction n generalizing t with
  | zero => simp [closeGroups]
  | succ n ih =>
      rw [closeGroups, ih, closeGroup, List.dropLast_eq_take, List.take_take, List.length_take]
      congr 1
      omega

end Table

/-! ## Made tables -/

section MadeTables

variable [ToJson α] (files : Files) (cache : Option String) (build : Table α → Logged (Table α))

/-- A table that is built is the compiled one; if there is none, nothing has been written. -/
theorem buildTable_cases :
    (∃ e, (buildTable files cache build).value = ⟨true, files, .error e⟩) ∨
    ∃ files', (buildTable files cache build).value =
      ⟨true, files', .ok (build {}).value.compile.value.1⟩ := by
  simp only [buildTable, Logged.value_bind]
  cases (build {}).value.compile.value.2 with
  | error e => exact .inl ⟨_, rfl⟩
  | ok routes =>
      simp only [Logged.value_bind]
      obtain ⟨e, hsaved⟩ | ⟨files', hsaved⟩ := saveIfNamed_cases files cache routes
      · rw [hsaved]
        exact .inl ⟨_, rfl⟩
      · rw [hsaved]
        exact .inr ⟨_, rfl⟩

/-- A table that is created is the one of a cache file, or the one that is built. -/
theorem createTable_cases [FromJson α] :
    (∃ built e, (createTable files cache build).value = ⟨built, files, .error e⟩) ∨
    (∃ routes, (createTable files cache build).value = ⟨false, files, .ok (.ofCompiled routes)⟩) ∨
    ∃ files', (createTable files cache build).value =
      ⟨true, files', .ok (build {}).value.compile.value.1⟩ := by
  simp only [createTable]
  cases cache.filter files.isFile with
  | none =>
      obtain ⟨e, he⟩ | hbuilt := buildTable_cases files cache build
      · exact .inl ⟨true, e, he⟩
      · exact .inr (.inr hbuilt)
  | some path =>
      simp only [Logged.value_bind]
      cases (loadRecords files path : Logged (Except _ (List (CompiledRoute α)))).value with
      | error e => exact .inl ⟨_, _, rfl⟩
      | ok routes => exact .inr (.inl ⟨_, rfl⟩)

end MadeTables

namespace Session

variable [ToJson α] (s : Session α) (path : String)

theorem table_save : (s.save path).value.1.table = s.table.compile.value.1 := by
  simp only [save, Logged.value_bind]
  split
  · rfl
  · simp only [Logged.value_bind]
    split <;> rfl

theorem openGroups_save : (s.save path).value.1.openGroups = s.openGroups := by
  simp only [save, Logged.value_bind]
  split
  · rfl
  · simp only [Logged.value_bind]
    split <;> rfl

end Session

/-! ## Runs -/

namespace Ledger

variable {l : Ledger α} {given : List (Route α)} {s : Session α}

/-- Only the table and the number of groups count. -/
theorem Describes.of_eq {s' : Session α} (h : l.Describes given s)
    (hroutes : s'.table.routes = s.table.routes) (hstems : s'.table.stems = s.table.stems)
    (hopen : s'.openGroups = s.openGroups) : l.Describes given s' where
  routes := hroutes.trans h.routes
  stems := hstems.trans h.stems
  openGroups := hopen ▸ h.openGroups

/-- Groups are left from the inside out, those of a replaced table last. -/
theorem Describes.leave (h : l.Describes given s) (levels : Nat) :
    ({ l with stems := l.stems.take (l.stems.length - levels) } : Ledger α).Describes given
      (s.leave levels) where
  routes := (s.table.routes_closeGroups _).trans h.routes
  stems := by
    have hopen := h.openGroups
    show (s.table.closeGroups (min levels s.openGroups)).stems = _
    rw [Table.stems_closeGroups, h.stems]
    -- more groups than the table knows of are never left on it
    rcases Nat.le_total levels s.openGroups with hle | hle
    · rw [Nat.min_eq_left hle]
    · rw [Nat.min_eq_right hle, Nat.sub_eq_zero_of_le hopen, Nat.sub_eq_zero_of_le (by omega)]
  openGroups := by
    have hopen := h.openGroups
    show (l.stems.take (l.stems.length - levels)).length ≤ s.openGroups - min levels s.openGroups
    rw [List.length_take]
    omega

theorem Describes.stems_eq_nil (h : l.Describes given s) (hopen : s.openGroups = 0) :
    l.stems = [] :=
  List.length_eq_zero_iff.1 (Nat.le_zero.1 (hopen ▸ h.openGroups))

variable [ToJson α] [FromJson α]

/-- A step that leaves the table in use does what the ledger takes down. -/
theorem Describes.step (h : l.Describes given s) {step : Step α}
    (hkeeps : step.keepsTable = true) :
    (l.step step).Describes given (s.step step).value.1 := by
  cases step with
  | add path target methods =>
      refine ⟨?_, h.stems, h.openGroups⟩
      show s.table.routes ++ [_] = given ++ (l.registrations ++ [_]).map Registration.registered
      rw [h.routes, h.stems, List.map_append, List.append_assoc]
      rfl
  | openGroup stem =>
      refine ⟨h.routes, congrArg (· ++ [stem]) h.stems, ?_⟩
      show (l.stems ++ [stem]).length ≤ s.openGroups + 1
      rw [List.length_append]
      exact Nat.succ_le_succ h.openGroups
  | closeGroup =>
      simp only [Session.step, Ledger.step]
      split
      next hopen =>
        rw [h.stems_eq_nil hopen]
        exact ⟨h.routes, h.stems.trans (h.stems_eq_nil hopen), Nat.zero_le _⟩
      · rw [List.dropLast_eq_take]
        exact h.leave 1
  | abandon levels =>
      simp only [Session.step, Ledger.step]
      split
      next hopen =>
        rw [h.stems_eq_nil hopen, List.take_nil]
        exact ⟨h.routes, h.stems.trans (h.stems_eq_nil hopen), Nat.zero_le _⟩
      · exact h.leave levels
  | compile => exact h.of_eq s.table.routes_compile s.table.stems_compile rfl
  | request queries =>
      exact h.of_eq (s.table.apply_requestAll Table.routes_compile queries)
        (s.table.apply_requestAll Table.stems_compile queries) rfl
  | save path =>
      exact h.of_eq ((congrArg Table.routes (s.table_save path)).trans s.table.routes_compile)
        ((congrArg Table.stems (s.table_save path)).trans s.table.stems_compile)
          (s.openGroups_save path)
  | write path content =>
      simp only [Session.step]
      split <;> exact h.of_eq rfl rfl rfl
  | list => exact h
  | frozen queries => exact h.of_eq rfl rfl rfl
  | makeDirectory path => exact h.of_eq rfl rfl rfl
  | read path => exact h
  | reset => cases hkeeps
  | adopt text => cases hkeeps
  | load path => cases hkeeps
  | create cache routes => cases hkeeps

theorem Describes.run {steps : List (Step α)} (h : l.Describes given s)
    (hkeeps : ∀ step ∈ steps, step.keepsTable = true) :
    (l.run steps).Describes given (s.run steps).value.1 := by
  induction steps generalizing l s with
  | nil => exact h
  | cons step steps ih =>
      rw [List.forall_mem_cons] at hkeeps
      exact ih (h.step hkeeps.1) hkeeps.2

end Ledger

/-- After a run, the routes given at the start are followed by those that the steps registered,
each with the stems of the groups that the steps had opened and not left. -/
theorem Session.routes_run [ToJson α] [FromJson α] {s : Session α} (hs : s.table.stems = [])
    {steps : List (Step α)} (hkeeps : ∀ step ∈ steps, step.keepsTable = true) :
    (s.run steps).value.1.table.routes =
      s.table.routes ++ (Ledger.run {} steps).registrations.map Registration.registered :=
  have start : Ledger.Describes {} s.table.routes s := ⟨by simp, hs, Nat.zero_le _⟩
  (start.run hkeeps).routes

end PathRouter

import PathRouter.Proofs.Routing.Compiling
import PathRouter.Proofs.Routing.Operations
import PathRouter.Proofs.Storage.Cache

/-!
# Tables without a cache

An `UncachedTable` records routes and open groups, and the compiled routes it was given until a
route is added; it is compiled anew whenever its compiled form is needed.  A session in which such
a table takes the place of the one with a cache gives the same answers, whatever is done in it.  So
nobody can tell when a table is compiled.

* `UncachedTable.Describes` — what the two tables have in common, kept by everything that changes a
  table;
* `UncachedSession.Describes.perform`, `UncachedSession.Describes.performAll` — one operation, and
  a run;
* `Session.answers_eq_uncached` — all answers of a run, and what follows for lookups that are put
  in.
-/

namespace PathRouter

variable {α : Type}

/-! ## Tables -/

/-- A table that keeps nothing it can work out. -/
structure UncachedTable (α : Type) where
  /-- The routes in the order of registration. -/
  routes : List (Route α) := []
  /-- The stems of the open groups, the outermost first. -/
  stems : List String := []
  /-- The compiled routes that the table was made of, as long as no route has been added. -/
  given : Option (List (CompiledRoute α)) := none

namespace UncachedTable

/-- A table made of compiled routes. -/
def ofCompiled (routes : List (CompiledRoute α)) : UncachedTable α where
  routes := routes.map CompiledRoute.route
  given := some routes

/-- A table to start with: an empty one, or one made of compiled routes. -/
def start : Option (List (CompiledRoute α)) → UncachedTable α
  | none => {}
  | some routes => ofCompiled routes

/-- The compiled routes: the ones that were given, or else what the routes compile to, one by
one. -/
def compiled (u : UncachedTable α) : Except PatternError (List (CompiledRoute α)) :=
  match u.given with
  | some routes => .ok routes
  | none => u.routes.mapM Route.compile

theorem compiled_of_given_eq_none {u : UncachedTable α} (h : u.given = none) :
    u.compiled = compileRoutes u.routes := by
  rw [compiled, h, compileRoutes_eq_mapM]

/-- Adds routes at the end. -/
def append (u : UncachedTable α) (routes : List (Route α)) : UncachedTable α :=
  { u with routes := u.routes ++ routes, given := if routes.isEmpty then u.given else none }

/-- Opens a group. -/
def openGroup (u : UncachedTable α) (stem : String) : UncachedTable α :=
  { u with stems := u.stems ++ [stem] }

/-- Closes the innermost groups. -/
def closeGroups (u : UncachedTable α) (n : Nat) : UncachedTable α :=
  { u with stems := u.stems.take (u.stems.length - n) }

/-- Answers a request. -/
def answer (u : UncachedTable α) (query : String × String) : Except PatternError (Outcome α) :=
  u.compiled.map fun routes => matchRoutes routes query.1 query.2

/-- A table with a cache holds the same routes and stems, and compiles to the same. -/
structure Describes (u : UncachedTable α) (t : Table α) : Prop where
  /-- The routes. -/
  routes : t.routes = u.routes
  /-- The stems of the open groups. -/
  stems : t.stems = u.stems
  /-- What the tables compile to. -/
  compiled : t.compile.value.2 = u.compiled
  /-- Compiled routes that were given are those of the table. -/
  given : ∀ routes ∈ u.given, routes.map CompiledRoute.route = u.routes

namespace Describes

variable {u : UncachedTable α} {t : Table α}

theorem empty : Describes {} ({} : Table α) := ⟨rfl, rfl, rfl, fun _ h => nomatch h⟩

theorem ofCompiled (routes : List (CompiledRoute α)) :
    (UncachedTable.ofCompiled routes).Describes (.ofCompiled routes) := by
  refine ⟨rfl, rfl, rfl, fun routes' h => ?_⟩
  cases h
  rfl

theorem start (given : Option (List (CompiledRoute α))) :
    (UncachedTable.start given).Describes (Table.start given) := by
  cases given with
  | none => exact empty
  | some routes => exact ofCompiled routes

/-- Compiling a table changes nothing that can be seen. -/
theorem compile (h : u.Describes t) : u.Describes t.compile.value.1 where
  routes := t.routes_compile.trans h.routes
  stems := t.stems_compile.trans h.stems
  compiled := t.snd_compile_compile.trans h.compiled
  given := h.given

theorem requestAll (h : u.Describes t) (queries : List (String × String)) :
    u.Describes (t.requestAll queries).value.1 where
  routes := (t.apply_requestAll Table.routes_compile queries).trans h.routes
  stems := (t.apply_requestAll Table.stems_compile queries).trans h.stems
  compiled := (t.apply_requestAll (f := fun t => t.compile.value.2) Table.snd_compile_compile
    queries).trans h.compiled
  given := h.given

/-- A route that is added makes the table compile anew. -/
theorem append (h : u.Describes t) (routes : List (Route α)) :
    (u.append routes).Describes (t.append routes) where
  routes := congrArg (· ++ routes) h.routes
  stems := h.stems
  compiled := by
    cases routes with
    | nil =>
        rw [Table.append_nil]
        simpa [UncachedTable.append, UncachedTable.compiled] using h.compiled
    | cons r rs =>
        rw [compiled_of_given_eq_none rfl, Table.snd_compile]
        exact congrArg (fun l => compileRoutes (l ++ r :: rs)) h.routes
  given := by
    cases routes with
    | nil => simpa [UncachedTable.append] using h.given
    | cons r rs => exact fun _ h => nomatch h

theorem add (h : u.Describes t) (path : String) (target : α) (methods : Methods) :
    (u.append [{ path := fullPath u.stems path, methods, target }]).Describes
      (t.add path target methods).value := by
  rw [Table.add_eq, h.stems]
  exact h.append _

theorem openGroup (h : u.Describes t) (stem : String) :
    (u.openGroup stem).Describes (t.openGroup stem) where
  routes := h.routes
  stems := congrArg (· ++ [stem]) h.stems
  compiled := by
    have hsame : (t.openGroup stem).compile.value.2 = t.compile.value.2 :=
      Table.snd_compile_congr rfl rfl
    exact hsame.trans h.compiled
  given := h.given

theorem closeGroups (h : u.Describes t) (n : Nat) :
    (u.closeGroups n).Describes (t.closeGroups n) where
  routes := (t.routes_closeGroups n).trans h.routes
  stems := by
    rw [t.stems_closeGroups, h.stems]
    rfl
  compiled := (Table.snd_compile_congr (t.routes_closeGroups n) (t.compiled_closeGroups n)).trans
    h.compiled
  given := h.given

/-- Compiling keeps the routes, whether they are compiled or their compiled form was given. -/
theorem map_route (h : u.Describes t) {compiled : List (CompiledRoute α)}
    (hcompiled : t.compile.value.2 = .ok compiled) :
    compiled.map CompiledRoute.route = t.routes := by
  rw [h.compiled] at hcompiled
  rw [h.routes]
  cases hgiven : u.given with
  | some routes =>
      rw [UncachedTable.compiled, hgiven] at hcompiled
      cases hcompiled
      exact h.given _ hgiven
  | none =>
      rw [compiled_of_given_eq_none hgiven] at hcompiled
      exact map_route_of_compileRoutes hcompiled

end Describes

end UncachedTable

/-! ## Making tables -/

/-- A table that keeps nothing it can work out, and how it came about. -/
structure UncachedCreation (α : Type) where
  /-- Whether the routes were registered anew. -/
  built : Bool
  /-- The files afterwards. -/
  files : Files
  /-- The table. -/
  table : Except CacheError (UncachedTable α)

namespace UncachedCreation

/-- Makes the table with some routes, and writes the cache file if one is named. -/
def build [ToJson α] (files : Files) (cache : Option String) (routes : List (Route α)) :
    UncachedCreation α :=
  let table := UncachedTable.append {} (routes.map fun r => { r with path := fullPath [] r.path })
  match table.compiled with
  | .error e => ⟨true, files, .error (.pattern e)⟩
  | .ok records =>
    let saving := (saveIfNamed files cache records).value
    ⟨true, saving.1, saving.2.map fun _ => table⟩

/-- The table in a cache file if there is one, and otherwise the table with some routes. -/
def create [ToJson α] [FromJson α] (files : Files) (cache : Option String)
    (routes : List (Route α)) :
    UncachedCreation α :=
  match cache.filter files.isFile with
  | none => build files cache routes
  | some path => ⟨false, files, (fileRecords files path).map UncachedTable.ofCompiled⟩

/-- A table with a cache came about in the same way, if there is one. -/
structure Describes (u : UncachedCreation α) (c : Creation α) : Prop where
  /-- Whether the routes were registered anew. -/
  built : c.built = u.built
  /-- The files afterwards. -/
  files : c.files = u.files
  /-- There are two tables, or none for one reason. -/
  table : (∃ e, c.table = .error e ∧ u.table = .error e) ∨
    ∃ ut t, c.table = .ok t ∧ u.table = .ok ut ∧ ut.Describes t

theorem Describes.build [ToJson α] (files : Files) (cache : Option String)
    (routes : List (Route α)) :
    (UncachedCreation.build files cache routes).Describes
      (buildTable files cache fun t => t.addRoutes routes).value := by
  let path (r : Route α) : Route α := { r with path := fullPath [] r.path }
  have htable :
      (UncachedTable.append {} (routes.map path)).Describes (Table.append {} (routes.map path)) :=
    UncachedTable.Describes.empty.append _
  have hadd : (Table.addRoutes {} routes).value = Table.append {} (routes.map path) :=
    Table.addRoutes_eq {} routes
  simp only [UncachedCreation.build, buildTable, Logged.value_bind, hadd]
  rw [← htable.compiled]
  cases (Table.append {} (routes.map path)).compile.value.2 with
  | error e => exact ⟨rfl, rfl, .inl ⟨_, rfl, rfl⟩⟩
  | ok records =>
      simp only [Logged.value_bind]
      obtain ⟨e, hsaved⟩ | ⟨files', hsaved⟩ := saveIfNamed_cases files cache records
      · rw [hsaved]
        exact ⟨rfl, rfl, .inl ⟨_, rfl, rfl⟩⟩
      · rw [hsaved]
        exact ⟨rfl, rfl, .inr ⟨_, _, rfl, rfl, htable.compile⟩⟩

theorem Describes.create [ToJson α] [FromJson α] (files : Files) (cache : Option String)
    (routes : List (Route α)) : (UncachedCreation.create files cache routes).Describes
      (createTable files cache fun t => t.addRoutes routes).value := by
  simp only [UncachedCreation.create, createTable]
  cases cache.filter files.isFile with
  | none => exact .build files cache routes
  | some path =>
      simp only [Logged.value_bind, value_loadRecords]
      cases (fileRecords files path : Except _ (List (CompiledRoute α))) with
      | error e => exact ⟨rfl, rfl, .inl ⟨_, rfl, rfl⟩⟩
      | ok records => exact ⟨rfl, rfl, .inr ⟨_, _, rfl, rfl, .ofCompiled records⟩⟩

end UncachedCreation

/-! ## Sessions -/

/-- A session whose table keeps nothing it can work out. -/
structure UncachedSession (α : Type) where
  /-- The table. -/
  table : UncachedTable α := {}
  /-- The number of groups that have not been left. -/
  openGroups : Nat := 0
  /-- The files. -/
  files : Files := {}

namespace UncachedSession

/-- The session with another table. -/
def withTable (s : UncachedSession α) (table : UncachedTable α) : UncachedSession α :=
  { s with table }

/-- Leaves groups, no more than are open. -/
def leave (s : UncachedSession α) (levels : Nat) : UncachedSession α :=
  let n := min levels s.openGroups
  { s with table := s.table.closeGroups n, openGroups := s.openGroups - n }

/-- Compiles the table and writes a cache file. -/
def save [ToJson α] (s : UncachedSession α) (path : String) : UncachedSession α × Result α :=
  match s.table.compiled with
  | .error e => (s, .failed (.pattern e))
  | .ok routes =>
    let saving := (saveRecords s.files path routes).value
    let s := { s with files := saving.1 }
    match saving.2 with
    | .error e => (s, .failed e)
    | .ok () => (s, .text (s.files.readText path).toOption)

/-- Takes a table that was made, or reports why there is none. -/
def take (s : UncachedSession α) (creation : UncachedCreation α) : UncachedSession α × Result α :=
  let s := { s with files := creation.files }
  match creation.table with
  | .error e => (s, .created creation.built (some e))
  | .ok table => (s.withTable table, .created creation.built none)

/-- Carries out a step. -/
def step [ToJson α] [FromJson α] (s : UncachedSession α) : Step α → UncachedSession α × Result α
  | .add path target methods =>
    (s.withTable (s.table.append [{ path := fullPath s.table.stems path, methods, target }]),
      .done)
  | .openGroup stem =>
    ({ s with table := s.table.openGroup stem, openGroups := s.openGroups + 1 }, .opened)
  | .closeGroup => if s.openGroups = 0 then (s, .noGroup) else (s.leave 1, .closed)
  | .abandon levels => if s.openGroups = 0 then (s, .noGroup) else (s.leave levels, .abandoned)
  | .compile => (s, .compiled s.table.compiled)
  | .list => (s, .routes s.table.routes)
  | .request queries => (s, .answers (queries.map s.table.answer))
  | .frozen queries => (s, .frozen (s.table.compiled.map fun routes =>
      (⟨routes⟩, queries.map fun q => matchRoutes routes q.1 q.2)))
  | .reset => (s.withTable {}, .done)
  | .adopt text =>
    match readRecords text with
    | .error e => (s, .failed (.format e))
    | .ok routes => (s.withTable (.ofCompiled routes), .done)
  | .write path content =>
    match s.files.write path content with
    | .error e => (s, .failed (.file e))
    | .ok files => ({ s with files }, .done)
  | .makeDirectory path => ({ s with files := s.files.makeDirectory path }, .done)
  | .read path => (s, .text (s.files.readText path).toOption)
  | .save path => s.save path
  | .load path =>
    match fileRecords s.files path with
    | .error e => (s, .failed e)
    | .ok routes => (s.withTable (.ofCompiled routes), .done)
  | .create cache routes => s.take (.create s.files cache routes)

/-- A session whose table has a cache is the same but for the table, which is described. -/
structure Describes (u : UncachedSession α) (s : Session α) : Prop where
  /-- The tables. -/
  table : u.table.Describes s.table
  /-- The number of open groups. -/
  openGroups : s.openGroups = u.openGroups
  /-- The files. -/
  files : s.files = u.files

namespace Describes

variable {u : UncachedSession α} {s : Session α}

theorem withTable (h : u.Describes s) {ut : UncachedTable α} {t : Table α} (ht : ut.Describes t) :
    (u.withTable ut).Describes (s.withTable t) := ⟨ht, h.openGroups, h.files⟩

theorem withFiles (h : u.Describes s) (files : Files) :
    ({ u with files } : UncachedSession α).Describes { s with files } :=
  ⟨h.table, h.openGroups, rfl⟩

theorem leave (h : u.Describes s) (levels : Nat) :
    (u.leave levels).Describes (s.leave levels) where
  table := by
    rw [Session.leave, UncachedSession.leave, h.openGroups]
    exact h.table.closeGroups _
  openGroups := by rw [Session.leave, UncachedSession.leave, h.openGroups]
  files := h.files

variable [ToJson α]

theorem save (h : u.Describes s) (path : String) :
    (u.save path).1.Describes (s.save path).value.1 ∧ (s.save path).value.2 = (u.save path).2 := by
  have hcompile : u.Describes (s.withTable s.table.compile.value.1) := h.withTable h.table.compile
  simp only [Session.save, UncachedSession.save, Logged.value_bind, ← h.table.compiled, ← h.files]
  cases s.table.compile.value.2 with
  | error e => exact ⟨hcompile, rfl⟩
  | ok routes =>
      simp only [Session.withTable, Logged.value_bind]
      obtain ⟨e, hsaved⟩ | ⟨files', hsaved⟩ := saveRecords_cases s.files path routes
      all_goals
        rw [hsaved]
        exact ⟨hcompile.withFiles _, rfl⟩

variable [FromJson α]

/-- A step does the same, and has the same result. -/
theorem step (h : u.Describes s) (step : Step α) :
    (u.step step).1.Describes (s.step step).value.1 ∧ (s.step step).value.2 = (u.step step).2 := by
  cases step with
  | add path target methods => exact ⟨h.withTable (h.table.add path target methods), rfl⟩
  | openGroup stem =>
      exact ⟨⟨h.table.openGroup stem, congrArg (· + 1) h.openGroups, h.files⟩, rfl⟩
  | closeGroup =>
      simp only [Session.step, UncachedSession.step, h.openGroups]
      split
      · exact ⟨h, rfl⟩
      · exact ⟨h.leave 1, rfl⟩
  | abandon levels =>
      simp only [Session.step, UncachedSession.step, h.openGroups]
      split
      · exact ⟨h, rfl⟩
      · exact ⟨h.leave levels, rfl⟩
  | compile => exact ⟨h.withTable h.table.compile, congrArg Result.compiled h.table.compiled⟩
  | list => exact ⟨h, congrArg Result.routes h.table.routes⟩
  | request queries =>
      refine ⟨h.withTable (h.table.requestAll queries), ?_⟩
      show Result.answers (s.table.requestAll queries).value.2 = _
      rw [Table.snd_requestAll, h.table.compiled]
      rfl
  | frozen queries =>
      refine ⟨h, ?_⟩
      simp only [Session.step, UncachedSession.step, Session.frozen, Logged.value_bind,
        Logged.value_pure, Table.value_freeze, h.table.compiled]
      cases u.table.compiled with
      | error e => rfl
      | ok routes =>
        exact congrArg (fun answers => Result.frozen (.ok (⟨routes⟩, answers)))
          (Matcher.value_requestAll ⟨routes⟩ queries)
  | reset => exact ⟨h.withTable .empty, rfl⟩
  | adopt text =>
      simp only [Session.step, UncachedSession.step]
      cases (readRecords text : Except _ (List (CompiledRoute α))) with
      | error e => exact ⟨h, rfl⟩
      | ok routes => exact ⟨h.withTable (.ofCompiled routes), rfl⟩
  | write path content =>
      simp only [Session.step, UncachedSession.step, h.files]
      cases u.files.write path content with
      | error e => exact ⟨h, rfl⟩
      | ok files => exact ⟨h.withFiles files, rfl⟩
  | makeDirectory path =>
      simp only [Session.step, UncachedSession.step, h.files]
      exact ⟨h.withFiles _, rfl⟩
  | read path =>
      simp only [Session.step, UncachedSession.step, h.files]
      exact ⟨h, rfl⟩
  | save path => exact h.save path
  | load path =>
      simp only [Session.step, UncachedSession.step, Logged.value_bind, value_loadRecords, h.files]
      cases (fileRecords u.files path : Except _ (List (CompiledRoute α))) with
      | error e => exact ⟨h, rfl⟩
      | ok routes => exact ⟨h.withTable (.ofCompiled routes), rfl⟩
  | create cache routes =>
      obtain ⟨hbuilt, hfiles, ⟨e, hc, hu⟩ | ⟨ut, t, hc, hu, ht⟩⟩ :=
        UncachedCreation.Describes.create u.files cache routes
      · simp only [Session.step, UncachedSession.step, UncachedSession.take, Logged.value_bind,
          h.files, hc, hu, hbuilt, hfiles]
        exact ⟨h.withFiles _, rfl⟩
      · simp only [Session.step, UncachedSession.step, UncachedSession.take, Logged.value_bind,
          h.files, hc, hu, hbuilt, hfiles]
        exact ⟨(h.withFiles _).withTable ht, rfl⟩

end Describes

end UncachedSession

/-! ## Operations -/

/-- An operation that asks for something the table has to be compiled for. -/
inductive Lookup where
  /-- Compiles the table. -/
  | compile
  /-- Answers requests. -/
  | request (queries : List (String × String))
  /-- Answers requests with a frozen copy of the table. -/
  | frozen (queries : List (String × String))

/-- The operation. -/
def Lookup.operation : Lookup → Operation α
  | compile => .step .compile
  | request queries => .step (.request queries)
  | frozen queries => .step (.frozen queries)

/-- Carries out an operation. -/
def UncachedSession.perform :
    {α : Type} → [ToJson α] → [FromJson α] → UncachedSession α → Operation α →
    UncachedSession α × Result α
  | _, _, _, s, .step step => s.step step
  | _, _, _, s, .register f =>
    (s.withTable (s.table.append ((f.registrations s.table.stems).map Registration.registered)),
      .done)
  | _, _, _, s, .replace given => (s.withTable (.start given), .done)

variable [ToJson α] [FromJson α]

/-- Carries out operations one after the other. -/
def UncachedSession.performAll (s : UncachedSession α) :
    List (Operation α) → UncachedSession α × List (Result α)
  | [] => (s, [])
  | o :: os =>
    let (s, result) := s.perform o
    let (s, results) := s.performAll os
    (s, result :: results)

namespace UncachedSession.Describes

variable {u : UncachedSession α} {s : Session α}

theorem perform (h : u.Describes s) (o : Operation α) :
    (u.perform o).1.Describes (s.perform o).1 ∧ (s.perform o).2 = (u.perform o).2 := by
  cases o with
  | step step => exact h.step step
  | register f =>
      refine ⟨h.withTable ?_, rfl⟩
      rw [Table.register_eq, h.table.stems]
      exact h.table.append _
  | replace given => exact ⟨h.withTable (.start given), rfl⟩

/-- The results of a run are those of the session without a cache. -/
theorem performAll (h : u.Describes s) (os : List (Operation α)) :
    (u.performAll os).1.Describes (s.performAll os).1 ∧ (s.performAll os).2 =
      (u.performAll os).2 := by
  induction os generalizing u s with
  | nil => exact ⟨h, rfl⟩
  | cons o os ih =>
      obtain ⟨hnext, hresult⟩ := h.perform o
      obtain ⟨hlast, hresults⟩ := ih hnext
      exact ⟨hlast, congrArg₂ List.cons hresult hresults⟩

end UncachedSession.Describes

/-- Whatever was done before, compiling gives one entry per route, in order. -/
theorem Session.map_route_performAll (given : Option (List (CompiledRoute α))) (files : Files)
    (os : List (Operation α)) :
    let t := (({ table := .start given, files } : Session α).performAll os).1.table
    ∀ compiled, t.compile.value.2 = .ok compiled → compiled.map CompiledRoute.route =
      t.routes := by
  intro t compiled hcompiled
  have hstart : UncachedSession.Describes { table := .start given, files }
      ({ table := .start given, files } : Session α) := ⟨.start given, rfl, rfl⟩
  exact (hstart.performAll os).1.table.map_route hcompiled

/-! ## Lookups -/

namespace UncachedSession

variable (u : UncachedSession α)

theorem performAll_append (os os' : List (Operation α)) : u.performAll (os ++ os') =
    (((u.performAll os).1.performAll os').1,
      (u.performAll os).2 ++ ((u.performAll os).1.performAll os').2) := by
  induction os generalizing u with
  | nil => rfl
  | cons o os ih => simp only [List.cons_append, performAll, ih]

theorem length_performAll (os : List (Operation α)) : (u.performAll os).2.length = os.length := by
  induction os generalizing u with
  | nil => rfl
  | cons o os ih => exact congrArg (· + 1) (ih _)

/-- A lookup changes nothing. -/
theorem fst_performAll_lookups (lookups : List Lookup) :
    (u.performAll (lookups.map Lookup.operation)).1 = u := by
  induction lookups with
  | nil => rfl
  | cons l lookups ih => cases l <;> exact ih

theorem drop_performAll_lookups (os later : List (Operation α)) (lookups : List Lookup) :
    (u.performAll (os ++ lookups.map Lookup.operation ++ later)).2.drop
      (os.length + lookups.length) = (u.performAll (os ++ later)).2.drop os.length := by
  have hlength : os.length + lookups.length =
      ((u.performAll os).2 ++
        ((u.performAll os).1.performAll (lookups.map Lookup.operation)).2).length := by
    rw [List.length_append, length_performAll, length_performAll, List.length_map]
  rw [performAll_append, performAll_append, performAll_append, fst_performAll_lookups, hlength,
    List.drop_left]
  rw [← u.length_performAll os, List.drop_left]

end UncachedSession

/-! ## Runs -/

/-- Whether a table keeps its compiled form cannot be told from the results of a run, nor from the
table afterwards.  In particular lookups that are put in anywhere change no later result, a frozen
table answers as the table itself does, and compiling gives one entry per route, in order.  A run
starts with an empty table or with one made of compiled routes; groups are entered and left in it
in any way. -/
theorem Session.answers_eq_uncached (given : Option (List (CompiledRoute α))) (files : Files)
    (os : List (Operation α)) :
    let s : Session α := { table := .start given, files }
    let u : UncachedSession α := { table := .start given, files }
    let t := (s.performAll os).1.table
    let ut := (u.performAll os).1.table
    (s.performAll os).2 = (u.performAll os).2 ∧
      t.routes = ut.routes ∧ t.size = ut.routes.length ∧ t.stems = ut.stems ∧
      t.compile.value.2 = ut.compiled ∧ t.freeze.value = ut.compiled.map Matcher.mk ∧
      (∀ path method, (t.request path method).value.2 = ut.answer (path, method) ∧
        (t.request path method).value.2 = t.freeze.value.map fun m =>
          (m.request path method).value) ∧
      (∀ compiled, t.compile.value.2 = .ok compiled → compiled.map CompiledRoute.route =
        t.routes) ∧
      ∀ (lookups : List Lookup) (later : List (Operation α)),
        (s.performAll (os ++ lookups.map Lookup.operation ++ later)).2.drop
          (os.length + lookups.length) =
          (s.performAll (os ++ later)).2.drop os.length := by
  intro s u t ut
  have hstart : u.Describes s := ⟨.start given, rfl, rfl⟩
  obtain ⟨⟨ht, -, -⟩, hresults⟩ := hstart.performAll os
  refine ⟨hresults, ht.routes, congrArg List.length ht.routes, ht.stems, ht.compiled, ?_,
    ?_, ?_, ?_⟩
  · rw [Table.value_freeze, ht.compiled]
  · intro path method
    refine ⟨?_, ?_⟩
    · rw [Table.snd_request, ht.compiled]
      rfl
    · rw [Table.snd_request, Table.value_freeze]
      cases t.compile.value.2 <;> rfl
  · exact fun compiled => ht.map_route
  · intro lookups later
    rw [(hstart.performAll _).2, (hstart.performAll _).2]
    exact u.drop_performAll_lookups os later lookups

/-- A route whose matcher is not what its path compiles to. -/
def handmadeRoute : CompiledRoute String where
  path := "/users/\x7Bid\x7D"
  methods := .any
  target := "custom"
  matcher := .literal

/-- Compiled routes that were given are kept while requests are answered. -/
theorem answers_eq_handmade :
    let s : Session String := { table := .start (some [handmadeRoute]) }
    let t := (s.performAll [.step (.request [(handmadeRoute.path, "GET")])]).1.table
    t.compile.value.2 = .ok [handmadeRoute] ∧ [handmadeRoute].map CompiledRoute.route =
      t.routes := by
  intro s t
  have hcompiled : t.compile.value.2 = .ok [handmadeRoute] := rfl
  obtain ⟨-, -, -, -, -, -, -, hroutes, -⟩ :=
    Session.answers_eq_uncached (some [handmadeRoute]) {}
      [.step (.request [(handmadeRoute.path, "GET")])]
  exact ⟨hcompiled, hroutes [handmadeRoute] hcompiled⟩

end PathRouter

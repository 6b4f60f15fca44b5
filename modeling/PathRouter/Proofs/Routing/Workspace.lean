import Mathlib.Logic.Function.Basic
import PathRouter.Proofs.Routing.Counting
import PathRouter.Proofs.Routing.Operations

/-!
# Workspaces

A program has any number of tables and matchers, under names of its own.  Tables are started empty
or with compiled routes, loaded, made through a cache file, copied and frozen; whatever is done
with one of them is noted with the others' notes and, here, also kept beside the table itself.  A
copy of a table is one that has the same behind it.

The notes of a table are those of a `Tally` from the table it was started as.  That is kept by
every use of a workspace, and what the counters and events of a run add up to is read off it.

* `Workspace.Accounted.use` — one use, with all tables that are not touched;
* `Workspace.counters_account` — a run.
-/

namespace PathRouter

open Note

/-! ## Using a table -/

/-- What can be done with a table at hand. -/
inductive Table.Use : Type → Type 1 where
  /-- Registers a route. -/
  | add {α : Type} (path : String) (target : α) (methods : Methods) : Table.Use α
  /-- Registers the routes of a route file, whose targets are texts. -/
  | register (f : RouteFile) : Table.Use String
  /-- Opens a group. -/
  | openGroup {α : Type} (stem : String) : Table.Use α
  /-- Closes the innermost group. -/
  | closeGroup {α : Type} : Table.Use α
  /-- Compiles the table. -/
  | compile {α : Type} : Table.Use α
  /-- Answers a request. -/
  | request {α : Type} (path method : String) : Table.Use α

/-- Uses a table.  The answers are those to requests. -/
def Table.use : {α : Type} → Table α → Table.Use α →
    Logged (Table α × List (Except PatternError (Outcome α)))
  | _, t, .add path target methods => do return (← t.add path target methods, [])
  | _, t, .register f => do return (← t.register f, [])
  | _, t, .openGroup stem => return (t.openGroup stem, [])
  | _, t, .closeGroup => return (t.closeGroup, [])
  | _, t, .compile => do return ((← t.compile).1, [])
  | _, t, .request path method => do
    let (t, answer) ← t.request path method
    return (t, [answer])

variable {α : Type}

theorem Table.isCompiled_start (given : Option (List (CompiledRoute α))) :
    (Table.start given).isCompiled = given.isSome := by
  cases given <;> rfl

/-- Uses a table several times. -/
def Table.useAll (t : Table α) :
    List (Table.Use α) → Logged (Table α × List (Except PatternError (Outcome α)))
  | [] => return (t, [])
  | u :: us => do
    let (t, answers) ← t.use u
    let (t, later) ← t.useAll us
    return (t, answers ++ later)

/-- What a table is like after some uses. -/
def Table.after (us : List (Table.Use α)) (t : Table α) : Logged (Table α) := do
  return (← t.useAll us).1

namespace Tally

theorem use (t : Table α) (u : Table.Use α) :
    Tally t (t.use u).value.2 (t.use u).notes (t.use u).value.1 := by
  cases u with
  | add path target methods => exact (add t path target methods).then_plain plain_nil
  | register f => exact (register t f).then_plain plain_nil
  | openGroup stem => exact openGroup t stem
  | closeGroup => exact closeGroup t
  | compile => exact (compile t).then_plain plain_nil
  | request path method => exact (request t path method).then_plain plain_nil

theorem useAll (t : Table α) (us : List (Table.Use α)) :
    Tally t (t.useAll us).value.2 (t.useAll us).notes (t.useAll us).value.1 := by
  induction us generalizing t with
  | nil => exact refl t
  | cons u us ih => exact (use t u).trans ((ih _).then_plain plain_nil)

end Tally

/-! ## Made tables -/

/-- The compiled routes that a made table was started with, if it was loaded. -/
def Creation.given (c : Creation α) (t : Table α) : Option (List (CompiledRoute α)) :=
  if c.built then none else t.compiled

/-- The answers that were given while a table was made, if building one gives these. -/
def Creation.answers (c : Creation α) (building : List (Except PatternError (Outcome α))) :
    List (Except PatternError (Outcome α)) :=
  if c.built then building else []

/-- A table that is built was empty, and a table that is loaded was made of the compiled routes it
has.  If there is none in the end, the requests of `build` have been answered all the same. -/
theorem tally_createTable [ToJson α] [FromJson α] {build : Table α → Logged (Table α)}
    {answers : List (Except PatternError (Outcome α))}
    (hbuild : Tally {} answers (build {}).notes (build {}).value) (files : Files)
    (cache : Option String) :
    let r := createTable files cache build
    (∀ t, r.value.table = .ok t →
      ∃ answers', Tally (.start (r.value.given t)) answers' r.notes t) ∧
      Counts r.notes (r.value.answers answers) := by
  intro r
  simp only [r, createTable]
  cases cache.filter files.isFile with
  | none =>
      have htally := hbuild.buildTable files cache
      obtain ⟨e, he⟩ | ⟨files', hbuilt⟩ := buildTable_cases files cache build
      · rw [he]
        refine ⟨?_, htally.answers⟩
        rintro t ⟨⟩
      · rw [hbuilt]
        refine ⟨?_, htally.answers⟩
        rintro t ⟨⟩
        exact ⟨answers, htally⟩
  | some path =>
      have hplain := plain_loadRecords (α := α) files path
      simp only [Logged.value_bind, Logged.notes_bind]
      cases (loadRecords files path : Logged (Except _ (List (CompiledRoute α)))).value with
      | error e =>
          refine ⟨?_, (hplain.append plain_nil).counts⟩
          rintro t ⟨⟩
      | ok routes =>
          refine ⟨?_, (hplain.append plain_nil).counts⟩
          rintro t ⟨⟩
          exact ⟨[], .of_plain (hplain.append plain_nil) rfl rfl⟩

/-! ## Workspaces -/

/-- A table in a workspace. -/
structure Tracked (α : Type) where
  /-- The compiled routes it was started with, if there were some. -/
  given : Option (List (CompiledRoute α))
  /-- The table. -/
  table : Table α
  /-- What was noted while it was used. -/
  notes : List Note := []

/-- Tables and matchers under names. -/
structure Workspace (α : Type) where
  /-- The tables. -/
  tables : String → Option (Tracked α) := fun _ => none
  /-- The matchers. -/
  matchers : String → Option (Matcher α) := fun _ => none

/-- What can be done in a workspace. -/
inductive Workspace.Use : Type → Type 1 where
  /-- Starts a table, empty or with compiled routes. -/
  | start {α : Type} (name : String) (given : Option (List (CompiledRoute α))) : Workspace.Use α
  /-- Starts a table with the records of a file. -/
  | load {α : Type} (name : String) (files : Files) (path : String) : Workspace.Use α
  /-- Takes the table of a cache file, or builds one. -/
  | create {α : Type} (name : String) (files : Files) (cache : Option String)
    (build : List (Table.Use α)) : Workspace.Use α
  /-- Copies a table. -/
  | copy {α : Type} (name original : String) : Workspace.Use α
  /-- Uses a table. -/
  | table {α : Type} (name : String) (use : Table.Use α) : Workspace.Use α
  /-- Freezes a table, which is gone then. -/
  | freeze {α : Type} (name matcher : String) : Workspace.Use α
  /-- Makes a matcher of compiled routes. -/
  | serve {α : Type} (matcher : String) (routes : List (CompiledRoute α)) : Workspace.Use α
  /-- Rebuilds a matcher from a route file. -/
  | rebuild (matcher : String) (files : Files) (path : String) : Workspace.Use String
  /-- Answers a request with a matcher. -/
  | request {α : Type} (matcher path method : String) : Workspace.Use α

namespace Workspace

/-- Puts a table under a name. -/
def putTable (w : Workspace α) (name : String) (t : Option (Tracked α)) : Workspace α :=
  { w with tables := Function.update w.tables name t }

/-- Puts a matcher under a name. -/
def putMatcher (w : Workspace α) (name : String) (m : Matcher α) : Workspace α :=
  { w with matchers := Function.update w.matchers name (some m) }

/-- Uses a workspace.  A table or matcher that is not there is not used. -/
def use : {α : Type} → [ToJson α] → [FromJson α] → Workspace α → Workspace.Use α →
    Logged (Workspace α × List (Except PatternError (Outcome α)))
  | _, _, _, w, .start name given =>
      return (w.putTable name (some { given, table := .start given }), [])
  | _, _, _, w, .load name files path => do
    match ← loadRecords files path with
    | .error _ => return (w, [])
    | .ok routes =>
        return (w.putTable name (some { given := some routes, table := .ofCompiled routes }), [])
  | _, _, _, w, .create name files cache build =>
    let r := createTable files cache (Table.after build)
    let answers := r.value.answers (Table.useAll {} build).value.2
    match r.value.table with
    | .error _ => ⟨(w, answers), r.notes⟩
    | .ok t => ⟨(w.putTable name (some ⟨r.value.given t, t, r.notes⟩), answers), r.notes⟩
  | _, _, _, w, .copy name original =>
    match w.tables original with
    | none => return (w, [])
    | some t => return (w.putTable name (some t), [])
  | _, _, _, w, .table name use =>
    match w.tables name with
    | none => return (w, [])
    | some t =>
      let r := t.table.use use
      ⟨(w.putTable name (some ⟨t.given, r.value.1, t.notes ++ r.notes⟩), r.value.2), r.notes⟩
  | _, _, _, w, .freeze name matcher =>
    match w.tables name with
    | none => return (w, [])
    | some t => do
      match ← t.table.freeze with
      | .error _ => return (w.putTable name none, [])
      | .ok m => return ((w.putTable name none).putMatcher matcher m, [])
  | _, _, _, w, .serve matcher routes => return (w.putMatcher matcher ⟨routes⟩, [])
  | _, _, _, w, .rebuild matcher files path => do
    match (← rebuild files path).matcher with
    | .error _ => return (w, [])
    | .ok m => return (w.putMatcher matcher m, [])
  | _, _, _, w, .request matcher path method =>
    match w.matchers matcher with
    | none => return (w, [])
    | some m => do return (w, [.ok (← m.request path method)])

/-- Uses a workspace several times. -/
def useAll [ToJson α] [FromJson α] (w : Workspace α) :
    List (Workspace.Use α) → Logged (Workspace α × List (Except PatternError (Outcome α)))
  | [] => return (w, [])
  | u :: us => do
    let (w, answers) ← w.use u
    let (w, later) ← w.useAll us
    return (w, answers ++ later)

/-- The notes of every table are a tally of all that was done with it. -/
def Accounted (w : Workspace α) : Prop :=
  ∀ name t, w.tables name = some t → ∃ answers, Tally (.start t.given) answers t.notes t.table

namespace Accounted

variable {w : Workspace α}

theorem empty : ({} : Workspace α).Accounted := fun _ _ h => nomatch h

theorem putTable (h : w.Accounted) {name : String} {t : Option (Tracked α)}
    (ht : ∀ t' ∈ t, ∃ answers, Tally (.start t'.given) answers t'.notes t'.table) :
    (w.putTable name t).Accounted := by
  intro name' t' ht'
  have hupdate : Function.update w.tables name t name' = some t' := ht'
  by_cases hname : name' = name
  · rw [hname, Function.update_self] at hupdate
    exact ht t' hupdate
  · rw [Function.update_of_ne hname] at hupdate
    exact h name' t' hupdate

theorem putMatcher (h : w.Accounted) (name : String) (m : Matcher α) :
    (w.putMatcher name m).Accounted := h

/-- A use keeps the notes of all tables accounted for, and its own notes count its answers. -/
theorem use [ToJson α] [FromJson α] (h : w.Accounted) (u : Workspace.Use α) :
    (w.use u).value.1.Accounted ∧ Counts (w.use u).notes (w.use u).value.2 := by
  cases u with
  | start name given =>
      refine ⟨h.putTable ?_, plain_nil.counts⟩
      rintro t ⟨⟩
      exact ⟨[], .refl _⟩
  | load name files path =>
      have hplain := plain_loadRecords (α := α) files path
      simp only [Workspace.use, Logged.value_bind, Logged.notes_bind]
      cases (loadRecords files path : Logged (Except _ (List (CompiledRoute α)))).value with
      | error e => exact ⟨h, (hplain.append plain_nil).counts⟩
      | ok routes =>
          refine ⟨h.putTable ?_, (hplain.append plain_nil).counts⟩
          rintro t ⟨⟩
          exact ⟨[], .refl _⟩
  | create name files cache build =>
      have hbuild : Tally {} (Table.useAll {} build).value.2 (Table.after build {}).notes
          (Table.after build {}).value := (Tally.useAll {} build).then_plain plain_nil
      obtain ⟨htable, hcounts⟩ := tally_createTable hbuild files cache
      simp only [Workspace.use]
      split
      · exact ⟨h, hcounts⟩
      next t ht =>
        refine ⟨h.putTable ?_, hcounts⟩
        rintro t' ⟨⟩
        exact htable t ht
  | copy name original =>
      simp only [Workspace.use]
      split
      · exact ⟨h, plain_nil.counts⟩
      next t ht =>
        refine ⟨h.putTable ?_, plain_nil.counts⟩
        rintro t' ⟨⟩
        exact h original t ht
  | table name u =>
      simp only [Workspace.use]
      split
      · exact ⟨h, plain_nil.counts⟩
      next t ht =>
        have hu := Tally.use t.table u
        refine ⟨h.putTable ?_, hu.answers⟩
        rintro t' ⟨⟩
        obtain ⟨answers, hbefore⟩ := h name t ht
        exact ⟨_, hbefore.trans hu⟩
  | freeze name matcher =>
      simp only [Workspace.use]
      split
      · exact ⟨h, plain_nil.counts⟩
      next t _ =>
        have hfreeze : Counts t.table.freeze.notes ([] : List (Except PatternError (Outcome α))) :=
          ((Tally.compile t.table).then_plain plain_nil).answers
        have hgone : (w.putTable name none).Accounted := h.putTable (by rintro t' ⟨⟩)
        simp only [Logged.value_bind, Logged.notes_bind]
        cases t.table.freeze.value with
        | error e => exact ⟨hgone, hfreeze.append plain_nil.counts⟩
        | ok m => exact ⟨hgone.putMatcher matcher m, hfreeze.append plain_nil.counts⟩
  | serve matcher routes => exact ⟨h.putMatcher matcher ⟨routes⟩, plain_nil.counts⟩
  | rebuild matcher files path =>
      have hrebuild := counts_rebuild files path
      simp only [Workspace.use, Logged.value_bind, Logged.notes_bind]
      cases (rebuild files path).value.matcher with
      | error e => exact ⟨h, hrebuild.append plain_nil.counts⟩
      | ok m => exact ⟨h.putMatcher matcher m, hrebuild.append plain_nil.counts⟩
  | request matcher path method =>
      simp only [Workspace.use]
      split
      · exact ⟨h, plain_nil.counts⟩
      next m _ =>
        have hanswer : Counts (m.request path method).notes [.ok (m.request path method).value] :=
          fun c _ => total_answer c m.routes path method
        exact ⟨h, hanswer.append plain_nil.counts⟩

theorem useAll [ToJson α] [FromJson α] (h : w.Accounted) (us : List (Workspace.Use α)) :
    (w.useAll us).value.1.Accounted ∧ Counts (w.useAll us).notes (w.useAll us).value.2 := by
  induction us generalizing w with
  | nil => exact ⟨h, plain_nil.counts⟩
  | cons u us ih =>
      obtain ⟨hnext, hcounts⟩ := h.use u
      obtain ⟨hlast, hlater⟩ := ih hnext
      exact ⟨hlast, hcounts.append (by simpa using hlater.append plain_nil.counts)⟩

end Accounted

theorem ite_eq_toNat (b : Bool) : (if b then 1 else 0 : Int) = b.toNat := by
  cases b <;> rfl

/-- What the notes of a run of uses add up to.  Every answer, of a table or of a matcher, is
counted once under its kind, and a request to a table that does not compile is not counted.  On the
side of a table, the compilations and the events that a compiled form was thrown away tell whether
it is compiled: with one compilation in advance if it was started with compiled routes.  So it is
compiled once more often than routes are registered, at most, and a table started with compiled
routes is not compiled before one is. -/
theorem counters_account [ToJson α] [FromJson α] (us : List (Workspace.Use α)) :
    let r := ({} : Workspace α).useAll us
    let answers := r.value.2
    (∀ c, c ≠ .compilations → total c r.notes = answersCounted c answers) ∧
      total .found r.notes + total .notAllowed r.notes + total .notFound r.notes =
        answers.countP Except.isOk ∧
      ∀ name t, r.value.1.tables name = some t →
        (total .compilations t.notes : Int) - invalidations t.notes =
            (if t.table.isCompiled then 1 else 0) - (if t.given.isSome then 1 else 0) ∧
          ∃ added, t.table.routes = (Table.start t.given).routes ++ added ∧
            total .compilations t.notes ≤ added.length + 1 ∧
            (t.given.isSome = true → total .compilations t.notes ≤ added.length) := by
  intro r answers
  obtain ⟨haccounted, hcounts⟩ := Accounted.empty.useAll us
  refine ⟨hcounts, ?_, ?_⟩
  · rw [hcounts .found (by decide), hcounts .notAllowed (by decide), hcounts .notFound (by decide)]
    exact answersCounted_kinds answers
  · intro name t ht
    obtain ⟨answers', htally⟩ := haccounted name t ht
    obtain ⟨added, hroutes, hle⟩ := htally.registrations
    have hcompilations := htally.compilations
    rw [Table.isCompiled_start] at hcompilations
    refine ⟨?_, added, hroutes, ?_, fun hgiven => ?_⟩
    · rw [ite_eq_toNat, ite_eq_toNat]
      omega
    · have hcompiled := t.table.isCompiled.toNat_le
      omega
    · have hcompiled := t.table.isCompiled.toNat_le
      rw [hgiven, Bool.toNat_true] at hcompilations
      omega

end Workspace

/-- A table that is compiled twice, a frozen copy of it, a table with a route that does not
compile, and a table that was started with a compiled route. -/
def severalTables : List (Workspace.Use String) :=
  [.start "a" none, .table "a" (.add "/x" "x" (.single "GET")), .copy "b" "a", .freeze "b" "m",
    .request "m" "/x" "GET", .table "a" (.request "/x" "PUT"), .table "a" (.add "/y" "y" .any),
    .table "a" (.request "/y" "PUT"), .start "c" none,
    .table "c" (.add "/\x7Bid:uuid\x7D" "z" .any), .table "c" (.request "/x" "GET"),
    .start "d" (some [{ path := "/", methods := .any, target := "home", matcher := .literal }]),
    .table "d" (.request "/none" "GET")]

theorem counters_account_severalTables :
    let r := ({} : Workspace String).useAll severalTables
    total .found r.notes = 2 ∧ total .notAllowed r.notes = 1 ∧ total .notFound r.notes = 1 ∧
      r.value.2.length = 5 ∧ ∃ a d, r.value.1.tables "a" = some a ∧ r.value.1.tables "d" = some d ∧
        (total .compilations a.notes : Int) - invalidations a.notes = 1 ∧
        (total .compilations d.notes : Int) - invalidations d.notes = 0 := by
  intro r
  obtain ⟨hcounters, -, htables⟩ := Workspace.counters_account severalTables
  have hanswered : answersCounted .found r.value.2 = 2 ∧ answersCounted .notAllowed r.value.2 = 1 ∧
      answersCounted .notFound r.value.2 = 1 ∧ r.value.2.length = 5 := by decide +kernel
  have hstates :
      (r.value.1.tables "a").any (fun t => t.table.isCompiled && !t.given.isSome) = true ∧
      (r.value.1.tables "d").any (fun t => t.table.isCompiled && t.given.isSome) = true := by
    decide +kernel
  obtain ⟨hfound, hnotAllowed, hnotFound, hlength⟩ := hanswered
  simp only [Option.any_eq_true, Bool.and_eq_true, Bool.not_eq_true'] at hstates
  obtain ⟨⟨a, ha, hacompiled, hagiven⟩, d, hd, hdcompiled, hdgiven⟩ := hstates
  refine ⟨?_, ?_, ?_, hlength, a, d, ha, hd, ?_, ?_⟩
  · rw [hcounters .found (by decide), hfound]
  · rw [hcounters .notAllowed (by decide), hnotAllowed]
  · rw [hcounters .notFound (by decide), hnotFound]
  · rw [(htables "a" a ha).1, hacompiled, hagiven]
    rfl
  · rw [(htables "d" d hd).1, hdcompiled, hdgiven]
    rfl

end PathRouter

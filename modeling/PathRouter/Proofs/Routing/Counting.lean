import PathRouter.Proofs.Routing.Compiling
import PathRouter.RouteFile.Rebuild

/-!
# What the notes count

Compiling a table is counted, throwing its compiled form away is told, and every answer is counted
under its kind.  A `Tally` says of a piece of work on a table how its notes go with the table
before and after it: every compilation is one of a table that was not compiled, and what was
compiled stays so until that is told.  A tally of two pieces of work is put together from theirs.

* `Note.Plain` — notes that neither count nor tell anything of this kind;
* `Tally.add`, `Tally.register`, `Tally.compile`, `Tally.request` — what can be done with a table.
-/

namespace PathRouter

variable {α : Type}

/-! ## Counting notes -/

namespace Note

/-- Whether the note tells that a compiled form was thrown away. -/
def isInvalidation : Note → Bool
  | event (.tableInvalidated _) => true
  | _ => false

/-- How often a compiled form was thrown away. -/
def invalidations (notes : List Note) : Nat :=
  notes.countP isInvalidation

@[simp] theorem total_nil (c : Counter) : total c [] = 0 := rfl

@[simp] theorem total_append (c : Counter) (notes notes' : List Note) :
    total c (notes ++ notes') = total c notes + total c notes' :=
  List.count_append

@[simp] theorem invalidations_nil : invalidations [] = 0 := rfl

@[simp] theorem invalidations_append (notes notes' : List Note) :
    invalidations (notes ++ notes') = invalidations notes + invalidations notes' :=
  List.countP_append

/-- Events of other kinds, and no counts. -/
def Plain (notes : List Note) : Prop :=
  ∀ n ∈ notes, ∃ e, n = event e ∧ isInvalidation n = false

theorem plain_nil : Plain [] := fun _ h => nomatch h

theorem plain_singleton {e : Event} (h : isInvalidation (event e) = false) : Plain [event e] := by
  intro n hn
  rw [List.mem_singleton] at hn
  exact ⟨e, hn, hn ▸ h⟩

theorem Plain.append {notes notes' : List Note} (h : Plain notes) (h' : Plain notes') :
    Plain (notes ++ notes') := by
  intro n hn
  rcases List.mem_append.1 hn with hn | hn
  · exact h n hn
  · exact h' n hn

theorem plain_flatMap {β : Type} {l : List β} {f : β → List Note} (h : ∀ b ∈ l, Plain (f b)) :
    Plain (l.flatMap f) := by
  intro n hn
  obtain ⟨b, hb, hn⟩ := List.mem_flatMap.1 hn
  exact h b hb n hn

theorem Plain.total_eq_zero {notes : List Note} (h : Plain notes) (c : Counter) :
    total c notes = 0 := by
  refine List.count_eq_zero.2 fun hc => ?_
  obtain ⟨e, he, -⟩ := h _ hc
  cases he

theorem Plain.invalidations_eq_zero {notes : List Note} (h : Plain notes) :
    invalidations notes = 0 := by
  refine List.countP_eq_zero.2 fun n hn => ?_
  obtain ⟨-, -, hn⟩ := h n hn
  exact ne_true_of_eq_false hn

end Note

open Note

theorem CompiledRoute.plain_notes (r : CompiledRoute α) : Plain r.notes := by
  unfold notes
  split
  · exact plain_nil
  · exact plain_singleton rfl

/-- Patterns are compiled without a count. -/
theorem plain_compileNotes (rs : List (Route α)) : Plain (compileNotes rs) := by
  induction rs with
  | nil => exact plain_nil
  | cons r rs ih =>
      unfold compileNotes
      split
      · exact plain_nil
      next c _ => exact c.plain_notes.append ih

/-! ### Files -/

theorem plain_saveRecords [ToJson α] (files : Files) (path : String)
    (routes : List (CompiledRoute α)) :
    Plain (saveRecords files path routes).notes := by
  unfold saveRecords
  split
  · exact plain_nil
  · split
    · exact plain_nil
    · exact plain_singleton rfl

theorem plain_saveIfNamed [ToJson α] (files : Files) (cache : Option String)
    (routes : List (CompiledRoute α)) : Plain (saveIfNamed files cache routes).notes := by
  cases cache with
  | none => exact plain_nil
  | some path => exact plain_saveRecords files path routes

theorem plain_loadRecords [FromJson α] (files : Files) (path : String) :
    Plain (loadRecords (α := α) files path).notes := by
  unfold loadRecords
  split
  · exact plain_nil
  · exact plain_singleton rfl

namespace RouteFile

theorem plain_entryNotes (stem : String) (r : RouteEntry) : Plain (entryNotes stem r) := by
  unfold entryNotes
  split
  · exact plain_singleton rfl
  · exact plain_nil

mutual

theorem plain_groupNotes (stem : String) (g : RouteGroup) : Plain (groupNotes stem g) := by
  obtain ⟨own, routes, groups⟩ := g
  rw [groupNotes]
  exact (plain_flatMap fun r _ => plain_entryNotes _ r).append (plain_groupsNotes _ groups)

theorem plain_groupsNotes (stem : String) (groups : List RouteGroup) :
    Plain (groupsNotes stem groups) := by
  cases groups with
  | nil =>
      rw [groupsNotes]
      exact plain_nil
  | cons g gs =>
      rw [groupsNotes]
      exact (plain_groupNotes stem g).append (plain_groupsNotes stem gs)

end

/-- A route file is checked without a count. -/
theorem plain_load (files : Files) (path : String) : Plain (load files path).notes := by
  have hcheck (f : RouteFile) : Plain f.checkNotes :=
    (plain_flatMap fun r _ => plain_entryNotes _ r).append (plain_groupsNotes _ f.groups)
  have hparse (text : String) : Plain (parse text).notes := by
    unfold parse
    split
    · exact plain_nil
    · exact hcheck _
  unfold load
  cases hread : files.readText path with
  | error e => exact plain_nil
  | ok text =>
      refine (hparse text).append ?_
      cases (parse text).value with
      | error e => exact plain_nil
      | ok f => exact (plain_singleton rfl).append plain_nil

end RouteFile

/-! ## Counting answers -/

/-- The counter for an answer of this kind. -/
def Outcome.counter : Outcome α → Counter
  | found .. => .found
  | notAllowed _ => .notAllowed
  | notFound => .notFound

/-- How many requests were given an answer that is counted under a counter. -/
def answersCounted (c : Counter) (answers : List (Except PatternError (Outcome α))) : Nat :=
  answers.countP fun
    | .ok outcome => outcome.counter = c
    | .error _ => false

@[simp] theorem answersCounted_append (c : Counter)
    (answers answers' : List (Except PatternError (Outcome α))) :
    answersCounted c (answers ++ answers') =
      answersCounted c answers + answersCounted c answers' :=
  List.countP_append

/-- No answer is counted as a compilation. -/
theorem answersCounted_compilations (answers : List (Except PatternError (Outcome α))) :
    answersCounted .compilations answers = 0 := by
  refine List.countP_eq_zero.2 fun a _ => ?_
  rcases a with e | (_ | _ | _) <;> simp [Outcome.counter]

/-- Every answer is of one kind. -/
theorem answersCounted_kinds (answers : List (Except PatternError (Outcome α))) :
    answersCounted .found answers + answersCounted .notAllowed answers +
      answersCounted .notFound answers = answers.countP Except.isOk := by
  induction answers with
  | nil => rfl
  | cons a answers ih =>
      have hone : answersCounted .found [a] + answersCounted .notAllowed [a] +
          answersCounted .notFound [a] =
          [a].countP Except.isOk := by
        rcases a with e | (_ | _ | _) <;> rfl
      rw [← List.singleton_append, List.countP_append, ← ih, ← hone]
      simp only [answersCounted_append]
      omega

/-- The answers are counted under their kinds, and nothing else is but compilations. -/
def Note.Counts (notes : List Note) (answers : List (Except PatternError (Outcome α))) : Prop :=
  ∀ c, c ≠ .compilations → total c notes = answersCounted c answers

theorem Note.Plain.counts {notes : List Note} (h : Plain notes) :
    Counts notes ([] : List (Except PatternError (Outcome α))) := fun c _ => h.total_eq_zero c

theorem Note.Counts.append {notes notes' : List Note}
    {answers answers' : List (Except PatternError (Outcome α))} (h : Counts notes answers)
    (h' : Counts notes' answers') :
    Counts (notes ++ notes') (answers ++ answers') := by
  intro c hc
  rw [total_append, answersCounted_append, h c hc, h' c hc]

/-- An answer is counted once, under its kind. -/
theorem total_answer (c : Counter) (routes : List (CompiledRoute α)) (path method : String) :
    total c (answer routes path method).notes =
      answersCounted c [.ok (answer routes path method).value] := by
  unfold answer
  cases Verdict.ofRoutes routes path method <;> cases c <;> rfl

theorem invalidations_answer (routes : List (CompiledRoute α)) (path method : String) :
    invalidations (answer routes path method).notes = 0 := by
  unfold answer
  cases Verdict.ofRoutes routes path method <;> rfl

/-! ## Tallies -/

/-- How the notes on a piece of work go with the table before and after it, if some requests are
answered on the way. -/
structure Tally (t : Table α) (answers : List (Except PatternError (Outcome α)))
    (notes : List Note) (t' : Table α) : Prop where
  /-- A compiled form is there if it was there, or was made, and has not been thrown away. -/
  compilations : total .compilations notes + t.isCompiled.toNat =
    invalidations notes + t'.isCompiled.toNat
  /-- It is thrown away when a route is registered, and then only. -/
  registrations : ∃ added, t'.routes = t.routes ++ added ∧ invalidations notes ≤ added.length
  /-- The answers are counted. -/
  answers : Counts notes answers

namespace Tally

variable {t t' t'' : Table α} {answers answers' : List (Except PatternError (Outcome α))}
  {notes notes' : List Note}

/-- Notes that count nothing. -/
theorem of_plain (h : Plain notes) (hcompiled : t'.isCompiled = t.isCompiled)
    (hroutes : t'.routes = t.routes) : Tally t [] notes t' where
  compilations := by rw [h.total_eq_zero, h.invalidations_eq_zero, hcompiled]
  registrations :=
    ⟨[], by rw [hroutes, List.append_nil], by rw [h.invalidations_eq_zero]; exact Nat.zero_le _⟩
  answers := h.counts

theorem refl (t : Table α) : Tally t [] [] t := of_plain plain_nil rfl rfl

theorem trans (h : Tally t answers notes t') (h' : Tally t' answers' notes' t'') :
    Tally t (answers ++ answers') (notes ++ notes') t'' where
  compilations := by
    have := h.compilations
    have := h'.compilations
    rw [total_append, invalidations_append]
    omega
  registrations := by
    obtain ⟨added, hroutes, hle⟩ := h.registrations
    obtain ⟨added', hroutes', hle'⟩ := h'.registrations
    refine ⟨added ++ added', by rw [hroutes', hroutes, List.append_assoc], ?_⟩
    rw [invalidations_append, List.length_append]
    exact Nat.add_le_add hle hle'
  answers := h.answers.append h'.answers

theorem then_plain (h : Tally t answers notes t') (h' : Plain notes') :
    Tally t answers (notes ++ notes') t' := by
  simpa using h.trans (of_plain h' rfl rfl)

/-! ### Registering -/

/-- Registering a route throws a compiled form away, and tells it if there is one. -/
theorem add (t : Table α) (path : String) (target : α) (methods : Methods) :
    Tally t [] (t.add path target methods).notes (t.add path target methods).value := by
  have hcompiled : (t.add path target methods).value.isCompiled = false := rfl
  have hnotes : (t.add path target methods).notes =
      if t.isCompiled then [.event (.tableInvalidated (fullPath t.stems path))] else [] := rfl
  have htotal (c : Counter) : total c (t.add path target methods).notes = 0 := by
    rw [hnotes]
    cases t.isCompiled <;> rfl
  have htold : invalidations (t.add path target methods).notes = t.isCompiled.toNat := by
    rw [hnotes]
    cases t.isCompiled <;> rfl
  refine ⟨?_, ⟨_, rfl, ?_⟩, fun c _ => htotal c⟩
  · rw [htotal, htold, hcompiled, Nat.zero_add]
    rfl
  · rw [htold]
    exact t.isCompiled.toNat_le

theorem openGroup (t : Table α) (stem : String) : Tally t [] [] (t.openGroup stem) :=
  of_plain plain_nil rfl rfl

theorem closeGroup (t : Table α) : Tally t [] [] t.closeGroup :=
  of_plain plain_nil rfl rfl

theorem addEntries (t : Table String) (entries : List RouteEntry) :
    Tally t [] (t.addEntries entries).notes (t.addEntries entries).value := by
  induction entries generalizing t with
  | nil => exact refl t
  | cons r rs ih => exact (add t r.path r.target r.methods).trans (ih _)

mutual

theorem addGroup (t : Table String) (g : RouteGroup) :
    Tally t [] (t.addGroup g).notes (t.addGroup g).value := by
  obtain ⟨stem, routes, groups⟩ := g
  rw [Table.addGroup]
  have hinner :=
    (addEntries (t.openGroup stem) routes).trans ((addGroups _ groups).trans (closeGroup _))
  exact (openGroup t stem).trans hinner

theorem addGroups (t : Table String) (groups : List RouteGroup) :
    Tally t [] (t.addGroups groups).notes (t.addGroups groups).value := by
  cases groups with
  | nil => exact refl t
  | cons g gs =>
      rw [Table.addGroups]
      exact (addGroup t g).trans (addGroups _ gs)

end

theorem register (t : Table String) (f : RouteFile) :
    Tally t [] (t.register f).notes (t.register f).value :=
  (addEntries t f.routes).trans (addGroups _ f.groups)

/-! ### Compiling and answering -/

/-- A table is compiled once, and not at all if one of its routes does not compile. -/
theorem compile (t : Table α) : Tally t [] t.compile.notes t.compile.value.1 := by
  have hplain := plain_compileNotes t.routes
  unfold Table.compile
  split
  · exact refl t
  next hcompiled =>
    split
    · exact of_plain hplain rfl rfl
    next routes _ =>
      have hnone : t.isCompiled = false := by rw [Table.isCompiled, hcompiled, Option.isSome_none]
      have htable : Tally t [] (tableNotes routes) { t with compiled := some routes } :=
        ⟨by rw [hnone]; rfl, (refl t).registrations, fun c hc => by
          cases c <;> first | rfl | cases hc rfl⟩
      exact (of_plain hplain rfl rfl).trans htable

/-- An answer is counted. -/
theorem answer (t : Table α) (routes : List (CompiledRoute α)) (path method : String) :
    Tally t [.ok (PathRouter.answer routes path method).value]
      (PathRouter.answer routes path method).notes t where
  compilations := by rw [total_answer, invalidations_answer, answersCounted_compilations]
  registrations := by
    rw [invalidations_answer]
    exact (refl t).registrations
  answers c _ := total_answer c routes path method

/-- A request without an answer is not counted. -/
theorem unanswered (t : Table α) (e : PatternError) : Tally t [.error e] [] t :=
  ⟨rfl, (refl t).registrations, fun _ _ => rfl⟩

theorem request (t : Table α) (path method : String) :
    Tally t [(t.request path method).value.2] (t.request path method).notes
      (t.request path method).value.1 := by
  have hcompile := compile t
  rw [t.fst_request, t.snd_request]
  simp only [Table.request, Logged.notes_bind]
  cases t.compile.value.2 with
  | error e => exact hcompile.trans (unanswered _ e)
  | ok routes => exact hcompile.trans ((answer _ routes path method).trans (refl _))

/-! ### Making tables and matchers -/

/-- The table that is built is the one that is compiled in the end, whether it can be saved or
not. -/
theorem buildTable [ToJson α] {build : Table α → Logged (Table α)}
    (hbuild : Tally {} answers (build {}).notes (build {}).value) (files : Files)
    (cache : Option String) :
    Tally {} answers (buildTable files cache build).notes (build {}).value.compile.value.1 := by
  have hcompiled := hbuild.trans (compile (build {}).value)
  rw [List.append_nil] at hcompiled
  simp only [PathRouter.buildTable, Logged.notes_bind, ← List.append_assoc]
  cases (build {}).value.compile.value.2 with
  | error e => exact hcompiled.then_plain plain_nil
  | ok routes =>
      exact hcompiled.then_plain ((plain_saveIfNamed files cache routes).append plain_nil)

/-- The table of a route file is compiled; then the matcher is at hand, whether it can be saved or
not. -/
theorem rebuildFrom (files : Files) (f : RouteFile) : Tally {} [] (rebuildFrom files f).notes
    (Table.ofRouteFile f).value.compile.value.1 := by
  have hcompiled := (register {} f).trans (compile (Table.ofRouteFile f).value)
  simp only [PathRouter.rebuildFrom, Logged.notes_bind, ← List.append_assoc]
  cases hcompile : (Table.ofRouteFile f).value.compile.value.2 with
  | error e => exact hcompiled.then_plain plain_nil
  | ok routes =>
      refine hcompiled.then_plain ((plain_saveIfNamed files f.cachePath routes).append ?_)
      dsimp only
      split
      · exact plain_nil
      · -- the table is compiled by now, so freezing it takes no notes
        rw [Logged.notes_bind, (Table.ofRouteFile f).value.freeze_compile hcompile]
        exact plain_nil

end Tally

/-- While a matcher is rebuilt, nothing is answered. -/
theorem counts_rebuild (files : Files) (path : String) :
    Counts (rebuild files path).notes ([] : List (Except PatternError (Outcome String))) := by
  refine (RouteFile.plain_load files path).counts.append ?_
  cases (RouteFile.load files path).value with
  | error e => exact plain_nil.counts
  | ok f => exact (Tally.rebuildFrom files f).answers

end PathRouter

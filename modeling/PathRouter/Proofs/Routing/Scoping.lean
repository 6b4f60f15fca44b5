import PathRouter.Proofs.Routing.Operations

/-!
# Stems in use

Beside a run we keep a list of the groups that are open, which knows of every group whether it was
opened on the table in use.  The list looks at the operations and at whether they replaced the
table, never at the stems of the table: those are what it is compared with.  A group is left by
closing it or, together with others, because of a failure; the table drops its innermost stem then,
whosoever it is.  No stem of another group is ever dropped, since the groups that were opened on a
table that is gone are the outermost ones.

* `Session.Inside.perform`, `Session.Inside.performAll` — the list stays right, operation by
  operation;
* `Session.Inside.routes_perform` — what an operation registers, and that nothing else becomes of
  the routes;
* `Session.stems_scoped` — stems and registered paths at any moment of a run.
-/

namespace PathRouter

variable {α : Type}

/-! ## Open groups -/

/-- A group that is open. -/
structure OpenGroup where
  /-- The stem of the group. -/
  stem : String
  /-- Whether the group was opened on the table in use. -/
  current : Bool

namespace OpenGroup

/-- The group after the table has been replaced. -/
def outdate (g : OpenGroup) : OpenGroup :=
  { g with current := false }

/-- The stems of the groups that were opened on the table in use. -/
def activeStems (groups : List OpenGroup) : List String :=
  (groups.filter OpenGroup.current).map OpenGroup.stem

theorem activeStems_concat (groups : List OpenGroup) (g : OpenGroup) :
    activeStems (groups ++ [g]) = activeStems groups ++ if g.current then [g.stem] else [] := by
  obtain ⟨stem, current⟩ := g
  rw [activeStems, List.filter_append, List.map_append]
  cases current <;> rfl

end OpenGroup

/-- Whether an operation with this result put another table in the place of the one in use. -/
def Operation.replacesTable : Operation α → Result α → Bool
  | .replace _, _ => true
  | .step .reset, _ => true
  | .step (.adopt _), .done => true
  | .step (.load _), .done => true
  | .step (.create ..), .created _ none => true
  | _, _ => false

/-- The routes that an operation registers inside groups with these stems. -/
def Operation.registrations : {α : Type} → List String → Operation α → List (Registration α)
  | _, stems, .step (.add path target methods) => [⟨stems, { path, methods, target }⟩]
  | _, stems, .register f => f.registrations stems
  | _, _, _ => []

/-- The groups that are open after an operation with this result. -/
def Operation.openGroups (o : Operation α) (result : Result α) (groups : List OpenGroup) :
    List OpenGroup :=
  match o with
  | .step (.openGroup stem) => groups ++ [⟨stem, true⟩]
  | .step .closeGroup => groups.dropLast
  | .step (.abandon levels) => groups.take (groups.length - levels)
  | o => if o.replacesTable result then groups.map OpenGroup.outdate else groups

/-- The groups that are open after some operations, the outermost first. -/
def openGroupsAfter (groups : List OpenGroup) (os : List (Operation α))
    (results : List (Result α)) :
    List OpenGroup :=
  (os.zip results).foldl (fun groups o => o.1.openGroups o.2 groups) groups

/-! ## One operation -/

/-- A table that was made of routes, or taken from a cache file, has no open groups. -/
theorem stems_createTable [ToJson α] [FromJson α] {files : Files} {cache : Option String}
    {routes : List (Route α)} {t : Table α}
    (h : (createTable files cache fun t => t.addRoutes routes).value.table = .ok t) :
    t.stems = [] := by
  have hadd : (Table.addRoutes {} routes).value.compile.value.1.stems = [] := by
    rw [Table.stems_compile, Table.addRoutes_eq]
    rfl
  obtain ⟨built, e, he⟩ | ⟨records, hloaded⟩ | ⟨files', hbuilt⟩ :=
    createTable_cases files cache fun t => t.addRoutes routes
  · rw [he] at h
    cases h
  · rw [hloaded] at h
    cases h
    rfl
  · rw [hbuilt] at h
    cases h
    exact hadd

namespace Session

/-- A session is inside some groups: those opened on a table that is gone come first, and the stems
of the others are the stems in use. -/
structure Inside (s : Session α) (groups : List OpenGroup) : Prop where
  /-- Every group is of one kind or the other. -/
  stems : ∃ outer : List String,
    groups = outer.map (OpenGroup.mk · false) ++ s.table.stems.map (OpenGroup.mk · true)
  /-- No group has been left. -/
  openGroups : s.openGroups = groups.length

namespace Inside

variable {s : Session α} {groups : List OpenGroup}

theorem stems_eq (h : s.Inside groups) : s.table.stems = OpenGroup.activeStems groups := by
  obtain ⟨outer, rfl⟩ := h.stems
  have houter : (outer.map (OpenGroup.mk · false)).filter OpenGroup.current = [] := by
    simp [List.filter_eq_nil_iff]
  have hinner : (s.table.stems.map (OpenGroup.mk · true)).filter OpenGroup.current =
      s.table.stems.map (OpenGroup.mk · true) := by
    simp [List.filter_eq_self]
  rw [OpenGroup.activeStems, List.filter_append, houter, hinner, List.nil_append, List.map_map]
  exact (List.map_id _).symm

/-- Only the stems and the number of groups count. -/
theorem of_eq {s' : Session α} (h : s.Inside groups) (hstems : s'.table.stems = s.table.stems)
    (hopen : s'.openGroups = s.openGroups) : s'.Inside groups where
  stems := hstems ▸ h.stems
  openGroups := hopen.trans h.openGroups

/-- A table that has just been put in place has no stems. -/
theorem replaced {s' : Session α} (h : s.Inside groups) (hstems : s'.table.stems = [])
    (hopen : s'.openGroups = s.openGroups) : s'.Inside (groups.map OpenGroup.outdate) where
  stems := by
    obtain ⟨outer, rfl⟩ := h.stems
    refine ⟨outer ++ s.table.stems, ?_⟩
    rw [hstems, List.map_append, List.map_append, List.map_map, List.map_map]
    exact (List.append_nil _).symm
  openGroups := by rw [hopen, h.openGroups, List.length_map]

theorem openGroup (h : s.Inside groups) (stem : String) :
    ({ s with table := s.table.openGroup stem, openGroups := s.openGroups + 1 } : Session α).Inside
      (groups ++ [⟨stem, true⟩]) where
  stems := by
    obtain ⟨outer, rfl⟩ := h.stems
    exact ⟨outer, by simp [Table.openGroup]⟩
  openGroups := by rw [h.openGroups, List.length_append, List.length_singleton]

/-- Groups are left from the inside out, and a table that has no stem left drops none. -/
theorem leave (h : s.Inside groups) (levels : Nat) :
    (s.leave levels).Inside (groups.take (groups.length - levels)) where
  stems := by
    obtain ⟨outer, hgroups⟩ := h.stems
    have hlength : groups.length = outer.length + s.table.stems.length := by simp [hgroups]
    have hdrop : groups.length - levels - outer.length =
        s.table.stems.length - min levels s.openGroups := by
      rw [h.openGroups]
      omega
    have htake (k : Nat) : groups.take k = (outer.map (OpenGroup.mk · false)).take k ++
        (s.table.stems.map (OpenGroup.mk · true)).take (k - outer.length) := by
      rw [hgroups, List.take_append, List.length_map]
    refine ⟨outer.take (groups.length - levels), ?_⟩
    show _ = _ ++ (s.table.closeGroups (min levels s.openGroups)).stems.map _
    rw [Table.stems_closeGroups, ← hdrop, List.map_take, List.map_take]
    exact htake _
  openGroups := by
    show s.openGroups - min levels s.openGroups = _
    rw [h.openGroups, List.length_take]
    omega

theorem length_stems_le (h : s.Inside groups) : s.table.stems.length ≤ s.openGroups := by
  obtain ⟨outer, hgroups⟩ := h.stems
  rw [h.openGroups, hgroups, List.length_append, List.length_map, List.length_map]
  exact Nat.le_add_left ..

theorem eq_nil (h : s.Inside groups) (hopen : s.openGroups = 0) : groups = [] :=
  List.length_eq_zero_iff.1 (h.openGroups.symm.trans hopen)

theorem start (given : Option (List (CompiledRoute α))) (files : Files) :
    ({ table := .start given, files } : Session α).Inside [] where
  stems := ⟨[], by cases given <;> rfl⟩
  openGroups := rfl

variable [ToJson α] [FromJson α]

theorem step (h : s.Inside groups) (step : Step α) : (s.step step).value.1.Inside
    ((Operation.step step).openGroups (s.step step).value.2 groups) := by
  cases step with
  | openGroup stem => exact h.openGroup stem
  | closeGroup =>
      show Inside _ groups.dropLast
      simp only [Session.step]
      split
      next hopen =>
        obtain rfl := h.eq_nil hopen
        exact h
      · rw [List.dropLast_eq_take]
        exact h.leave 1
  | abandon levels =>
      show Inside _ (groups.take (groups.length - levels))
      simp only [Session.step]
      split
      next hopen =>
        obtain rfl := h.eq_nil hopen
        rw [List.take_nil]
        exact h
      · exact h.leave levels
  | reset => exact h.replaced rfl rfl
  | adopt text =>
      simp only [Session.step]
      split
      · exact h
      · exact h.replaced rfl rfl
  | load path =>
      simp only [Session.step, Logged.value_bind]
      split
      · exact h
      · exact h.replaced rfl rfl
  | create cache routes =>
      simp only [Session.step, Logged.value_bind]
      split
      · exact h.of_eq rfl rfl
      next htable => exact h.replaced (stems_createTable htable) rfl
  | compile => exact h.of_eq s.table.stems_compile rfl
  | request queries => exact h.of_eq (s.table.apply_requestAll Table.stems_compile queries) rfl
  | save path =>
      have hkept : (s.save path).value.1.Inside groups :=
        h.of_eq ((congrArg Table.stems (s.table_save path)).trans s.table.stems_compile)
          (s.openGroups_save path)
      exact hkept
  | write path content =>
      simp only [Session.step]
      split <;> exact h.of_eq rfl rfl
  | add path target methods => exact h.of_eq rfl rfl
  | makeDirectory path => exact h.of_eq rfl rfl
  | list => exact h
  | frozen queries => exact h
  | read path => exact h

/-- An operation does to the session what the list of open groups says. -/
theorem perform (h : s.Inside groups) (o : Operation α) :
    (s.perform o).1.Inside (o.openGroups (s.perform o).2 groups) := by
  cases o with
  | step step => exact h.step step
  | register f =>
      refine h.of_eq ?_ rfl
      show (s.table.register f).value.stems = s.table.stems
      rw [Table.register_eq]
      rfl
  | replace given => exact h.replaced (by cases given <;> rfl) rfl

theorem routes_step (h : s.Inside groups) (step : Step α)
    (hsame : (Operation.step step).replacesTable (s.step step).value.2 = false) :
    (s.step step).value.1.table.routes = s.table.routes ++
      ((Operation.step step).registrations s.table.stems).map Registration.registered := by
  have hledger : Ledger.Describes ⟨s.table.stems, []⟩ s.table.routes s :=
    ⟨(List.append_nil _).symm, rfl, h.length_stems_le⟩
  cases step with
  | reset => cases hsame
  | adopt text =>
      simp only [Session.step] at hsame ⊢
      split at hsame
      · exact (List.append_nil _).symm
      · cases hsame
  | load path =>
      simp only [Session.step, Logged.value_bind] at hsame ⊢
      split at hsame
      · exact (List.append_nil _).symm
      · cases hsame
  | create cache routes =>
      simp only [Session.step, Logged.value_bind] at hsame ⊢
      split at hsame
      · exact (List.append_nil _).symm
      · cases hsame
  | _ => exact (hledger.step rfl).routes

/-- As long as an operation does not replace the table, all its routes stay, and the ones that are
registered come behind them. -/
theorem routes_perform (h : s.Inside groups) (o : Operation α)
    (hsame : o.replacesTable (s.perform o).2 = false) : (s.perform o).1.table.routes =
      s.table.routes ++ (o.registrations s.table.stems).map Registration.registered := by
  cases o with
  | step step => exact h.routes_step step hsame
  | register f =>
      show (s.table.register f).value.routes = _
      rw [Table.register_eq]
      rfl
  | replace given => cases hsame

/-! ## Runs -/

theorem performAll (h : s.Inside groups) (os : List (Operation α)) :
    (s.performAll os).1.Inside (openGroupsAfter groups os (s.performAll os).2) := by
  induction os generalizing s groups with
  | nil => exact h
  | cons o os ih => exact ih (h.perform o)

end Inside

/-- At any moment of a run the stems in use are those of the groups that are still open and were
opened since the table was last replaced, and they go in front of every path that is registered.
An operation that does not replace the table keeps its routes, so however groups are left, the
routes stay; of the stems only those of the groups that are left go, and a group opened on a table
that is gone takes no stem with it.  When no group is left open, paths are registered as given. -/
theorem stems_scoped [ToJson α] [FromJson α] (given : Option (List (CompiledRoute α)))
    (files : Files) (os : List (Operation α)) :
    let r := ({ table := .start given, files } : Session α).performAll os
    let groups := openGroupsAfter [] os r.2
    let active := OpenGroup.activeStems groups
    r.1.table.stems = active ∧ r.1.openGroups = groups.length ∧
      (∀ path target methods, (r.1.perform (.step (.add path target methods))).1.table.routes =
        r.1.table.routes ++ [{
          path := if (String.join active ++ path).isEmpty then "/" else String.join active ++ path
          methods := methods
          target := target }]) ∧
      (∀ o, o.replacesTable (r.1.perform o).2 = false → (r.1.perform o).1.table.routes =
        r.1.table.routes ++ (o.registrations active).map Registration.registered) ∧
      (∀ levels, let left := (r.1.perform (.step (.abandon levels))).1.table
        left.routes = r.1.table.routes ∧
          left.stems = OpenGroup.activeStems (groups.take (groups.length - levels))) ∧
      (∀ outer g, groups = outer ++ [g] → let closed := (r.1.perform (.step .closeGroup)).1.table
        closed.routes = r.1.table.routes ∧ closed.stems = OpenGroup.activeStems outer ∧
          active = OpenGroup.activeStems outer ++ if g.current then [g.stem] else []) ∧
      (groups = [] → ∀ path target methods,
        (r.1.perform (.step (.add path target methods))).1.table.routes =
          r.1.table.routes ++ [{
            path := if path.isEmpty then "/" else path
            methods := methods
            target := target }]) := by
  intro r groups active
  have h : r.1.Inside groups := (Inside.start given files).performAll os
  have hroutes (o : Operation α) (hsame : o.replacesTable (r.1.perform o).2 = false) :
      (r.1.perform o).1.table.routes =
        r.1.table.routes ++ (o.registrations active).map Registration.registered := by
    rw [h.routes_perform o hsame, h.stems_eq]
  have hadd (path : String) (target : α) (methods : Methods) :
      (r.1.perform (.step (.add path target methods))).1.table.routes =
        r.1.table.routes ++ [{ path := fullPath active path, methods, target }] :=
    hroutes (.step (.add path target methods)) rfl
  refine ⟨h.stems_eq, h.openGroups, hadd, hroutes, fun levels => ⟨?_, ?_⟩,
    fun outer g hgroups => ⟨?_, ?_, ?_⟩, ?_⟩
  · exact (hroutes (.step (.abandon levels)) rfl).trans (List.append_nil _)
  · exact (h.perform (.step (.abandon levels))).stems_eq
  · exact (hroutes (.step .closeGroup) rfl).trans (List.append_nil _)
  · have hclosed := (h.perform (.step .closeGroup)).stems_eq
    rw [hclosed]
    show OpenGroup.activeStems groups.dropLast = _
    rw [hgroups, List.dropLast_concat]
  · show OpenGroup.activeStems groups = _
    rw [hgroups, OpenGroup.activeStems_concat]
  · intro hnil path target methods
    have hjoin : String.join active ++ path = path := by
      show String.join (OpenGroup.activeStems groups) ++ path = path
      rw [hnil]
      exact String.empty_append
    rw [hadd, fullPath, hjoin]

/-- A table is replaced inside two groups, and a group inside them is left because of a failure. -/
def interruptedRun : List (Operation String) :=
  [.step (.openGroup "/api"), .step (.add "/x" "x" .any), .step (.openGroup "/v1"), .replace none,
    .step (.openGroup "/new"), .step (.openGroup "/deep"), .step (.abandon 1),
    .step (.add "" "y" .any), .step .closeGroup]

/-- Closing the groups that were opened before the replacement changes nothing, and then paths are
registered as given, those of a route file, too. -/
theorem stems_scoped_interrupted :
    let s : Session String := {}
    let os := interruptedRun ++ [.step .closeGroup, .step .closeGroup]
    let r := s.performAll interruptedRun
    let closed := s.performAll os
    let o : Operation String := .register { routes := [{ path := "/w", target := "w" }] }
    openGroupsAfter [] interruptedRun r.2 = [⟨"/api", false⟩] ++ [⟨"/v1", false⟩] ∧
      (r.1.perform (.step .closeGroup)).1.table.routes = r.1.table.routes ∧
      o.replacesTable (closed.1.perform o).2 = false ∧
      (closed.1.perform o).1.table.routes = closed.1.table.routes ++
        (o.registrations (OpenGroup.activeStems (openGroupsAfter [] os closed.2))).map
          Registration.registered ∧
      openGroupsAfter [] os closed.2 = [] ∧
      (closed.1.perform (.step (.add "" "z" .any))).1.table.routes =
        closed.1.table.routes ++ [{ path := "/", methods := .any, target := "z" }] := by
  intro s os r closed o
  have hopen : openGroupsAfter [] interruptedRun r.2 = [⟨"/api", false⟩] ++ [⟨"/v1", false⟩] := rfl
  have hclosed : openGroupsAfter [] os closed.2 = [] := rfl
  obtain ⟨-, -, -, -, -, hclose, -⟩ := stems_scoped (α := String) none {} interruptedRun
  obtain ⟨-, -, -, hroutes, -, -, hnone⟩ := stems_scoped (α := String) none {} os
  exact ⟨hopen, (hclose [⟨"/api", false⟩] ⟨"/v1", false⟩ hopen).1, rfl, hroutes o rfl, hclosed,
    hnone hclosed "" "z" .any⟩

end Session

end PathRouter

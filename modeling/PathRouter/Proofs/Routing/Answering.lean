import Mathlib.Data.Fintype.EquivFin
import PathRouter.Proofs.Routing.Uncached

/-!
# Answers to requests

What a list of compiled routes answers, said without the scan.  The first route that recognises the
path and accepts the method answers.  If there is none, the answer lists the names of all routes
that recognise the path, and if no route recognises the path either, it says so.

The scan tells the last two cases apart by whether it has collected a name.  A route that refuses a
method is restricted, and a restriction has a name in it (`Methods.toList_eq_nil_iff`); so a scan
that has met a route which recognises the path, and has found no answer, has a name to list.

* `Verdict.scan_of_answers`, `Verdict.scan_of_not_answers` — the two ways in which a scan ends, for
  any names collected before;
* `Session.request_answered` — the answers of the table of a run;
* `Session.access_unique` — the answers for one path and all methods at once.
-/

namespace PathRouter

variable {α : Type}

/-! ## Routes that answer -/

namespace CompiledRoute

/-- Whether the route recognises a path. -/
def recognises (r : CompiledRoute α) (path : String) : Bool :=
  (r.matchPath path).isSome

/-- Whether the route recognises the path of a request and accepts its method. -/
def answers (r : CompiledRoute α) (path method : String) : Bool :=
  r.recognises path && r.methods.accepts method

theorem answers_iff {r : CompiledRoute α} {path method : String} : r.answers path method = true ↔
    r.recognises path = true ∧ (method = "" ∨ r.methods = .any ∨ method ∈ r.methods.toList) := by
  rw [answers, Bool.and_eq_true, Methods.accepts_iff]

/-- The names of the methods that are accepted by routes which recognise a path. -/
def namesAt (path : String) (routes : List (CompiledRoute α)) : List String :=
  (routes.filter (·.recognises path)).flatMap fun r => r.methods.toList

theorem mem_namesAt {path : String} {routes : List (CompiledRoute α)} {n : String} :
    n ∈ namesAt path routes ↔ ∃ r ∈ routes, r.recognises path = true ∧ n ∈ r.methods.toList := by
  simp [namesAt, and_assoc]

theorem mem_ofList_namesAt {path : String} {routes : List (CompiledRoute α)} {n : String} :
    n ∈ NameSet.ofList (namesAt path routes) ↔
      ∃ r ∈ routes, r.recognises path = true ∧ n ∈ r.methods.toList :=
  NameSet.mem_ofList.trans mem_namesAt

end CompiledRoute

open CompiledRoute

/-! ## The scan -/

theorem NameSet.insertAll_append (s : NameSet) (l l' : List String) :
    s.insertAll (l ++ l') = (s.insertAll l).insertAll l' :=
  List.foldl_append

namespace Verdict

variable {path method : String} {allowed : NameSet}

/-- The first route that answers ends the scan, whatever comes after it. -/
theorem scan_of_answers {before after : List (CompiledRoute α)} {r : CompiledRoute α}
    {captures : Captures} (hbefore : ∀ b ∈ before, b.answers path method = false)
    (hmatch : r.matchPath path = some captures) (haccepts : r.methods.accepts method = true) :
    scan path method allowed (before ++ r :: after) = found r captures := by
  induction before generalizing allowed with
  | nil => simp [scan, hmatch, haccepts]
  | cons b bs ih =>
      rw [List.forall_mem_cons] at hbefore
      simp only [List.cons_append, scan]
      split
      · exact ih hbefore.2
      next hb =>
        have hrefused : b.methods.accepts method = false := by
          simpa [answers, recognises, hb] using hbefore.1
        rw [hrefused]
        exact ih hbefore.2

/-- Routes that do not answer are passed over, and leave the names of those that recognise the
path. -/
theorem scan_append_of_not_answers {routes : List (CompiledRoute α)}
    (h : ∀ r ∈ routes, r.answers path method = false) (rest : List (CompiledRoute α)) :
    scan path method allowed (routes ++ rest) =
      scan path method (allowed.insertAll (namesAt path routes)) rest := by
  induction routes generalizing allowed with
  | nil => rfl
  | cons r rs ih =>
      rw [List.forall_mem_cons] at h
      simp only [List.cons_append, scan]
      split
      next hr =>
        have hnames : namesAt path (r :: rs) = namesAt path rs := by
          simp [namesAt, recognises, hr]
        rw [ih h.2, hnames]
      next hr =>
        have hrefused : r.methods.accepts method = false := by
          simpa [answers, recognises, hr] using h.1
        have hnames : namesAt path (r :: rs) = r.methods.toList ++ namesAt path rs := by
          simp [namesAt, recognises, hr]
        rw [hrefused, if_neg Bool.false_ne_true, ih h.2, hnames, NameSet.insertAll_append]

/-- A scan without an answer goes to the end, and collects the names of all routes that recognise
the path. -/
theorem scan_of_not_answers {routes : List (CompiledRoute α)}
    (h : ∀ r ∈ routes, r.answers path method = false) : scan path method allowed routes =
      let names := allowed.insertAll (namesAt path routes)
      if names.isEmpty then notFound else notAllowed names := by
  have hscan : scan path method allowed (routes ++ []) = _ := scan_append_of_not_answers h []
  rw [List.append_nil] at hscan
  exact hscan

end Verdict

/-! ## Answers of some routes -/

section Answers

variable {routes : List (CompiledRoute α)} {path method : String}

/-- If a route answers, there is a first one that does. -/
theorem exists_first_answer (h : ∃ r ∈ routes, r.answers path method = true) :
    ∃ before r after captures, routes = before ++ r :: after ∧
      (∀ b ∈ before, b.answers path method = false) ∧
      r.matchPath path = some captures ∧ r.methods.accepts method = true := by
  obtain ⟨r, hr⟩ := Option.isSome_iff_exists.1 (List.find?_isSome.2 h)
  obtain ⟨hanswers, before, after, rfl, hbefore⟩ := List.find?_eq_some_iff_append.1 hr
  rw [answers, Bool.and_eq_true] at hanswers
  obtain ⟨captures, hmatch⟩ := Option.isSome_iff_exists.1 hanswers.1
  exact ⟨before, r, after, captures, rfl, fun b hb => by simpa using hbefore b hb, hmatch,
    hanswers.2⟩

/-- The first route that answers is heard. -/
theorem matchRoutes_of_first {before after : List (CompiledRoute α)} {r : CompiledRoute α}
    {captures : Captures} (hbefore : ∀ b ∈ before, b.answers path method = false)
    (hmatch : r.matchPath path = some captures) (haccepts : r.methods.accepts method = true) :
    matchRoutes (before ++ r :: after) path method = .found r.target captures :=
  congrArg Verdict.outcome (Verdict.scan_of_answers hbefore hmatch haccepts)

/-- If a route answers, then the first one that does is heard. -/
theorem matchRoutes_of_answers (h : ∃ r ∈ routes, r.answers path method = true) :
    ∃ target captures, matchRoutes routes path method = .found target captures := by
  obtain ⟨before, r, after, captures, rfl, hbefore, hmatch, haccepts⟩ := exists_first_answer h
  exact ⟨r.target, captures, matchRoutes_of_first hbefore hmatch haccepts⟩

/-- A route that recognises the path and does not answer has a name to list. -/
theorem matchRoutes_of_recognises (h : ∀ r ∈ routes, r.answers path method = false)
    (hrecognises : ∃ r ∈ routes, r.recognises path = true) :
    matchRoutes routes path method = .notAllowed (.ofList (namesAt path routes)) := by
  obtain ⟨r, hr, hpath⟩ := hrecognises
  have hrestricted : r.methods ≠ .any := by
    intro hany
    have hanswers : r.answers path method = true := answers_iff.2 ⟨hpath, .inr (.inl hany)⟩
    rw [h r hr] at hanswers
    cases hanswers
  obtain ⟨n, hn⟩ := List.exists_mem_of_ne_nil _ (mt Methods.toList_eq_nil_iff.1 hrestricted)
  have hmem : n ∈ NameSet.ofList (namesAt path routes) :=
    mem_ofList_namesAt.2 ⟨r, hr, hpath, hn⟩
  have hnonempty : ¬(NameSet.ofList (namesAt path routes)).isEmpty = true := by
    intro hempty
    exact NameSet.isEmpty_iff.1 hempty n hmem
  rw [matchRoutes, Verdict.ofRoutes, Verdict.scan_of_not_answers h]
  exact congrArg Verdict.outcome (if_neg hnonempty)

theorem matchRoutes_of_not_recognises (h : ∀ r ∈ routes, r.recognises path = false) :
    matchRoutes routes path method = .notFound := by
  have hanswers : ∀ r ∈ routes, r.answers path method = false := by
    intro r hr
    rw [answers, h r hr, Bool.false_and]
  have hnames : namesAt path routes = [] := by
    rw [namesAt, List.filter_eq_nil_iff.2 fun r hr => ne_true_of_eq_false (h r hr),
      List.flatMap_nil]
  rw [matchRoutes, Verdict.ofRoutes, Verdict.scan_of_not_answers hanswers, hnames]
  rfl

/-- The ways to come by an answer: there is a first route that answers, or routes recognise the
path and do not answer, or no route recognises it. -/
theorem matchRoutes_cases (routes : List (CompiledRoute α)) (path method : String) :
    (∃ before r after captures, routes = before ++ r :: after ∧
      (∀ b ∈ before, b.answers path method = false) ∧
      r.matchPath path = some captures ∧ r.methods.accepts method = true ∧
      matchRoutes routes path method = .found r.target captures) ∨
    ((∀ r ∈ routes, r.answers path method = false) ∧ (∃ r ∈ routes, r.recognises path = true) ∧
      matchRoutes routes path method = .notAllowed (.ofList (namesAt path routes))) ∨
    ((∀ r ∈ routes, r.recognises path = false) ∧ matchRoutes routes path method = .notFound) := by
  by_cases hanswers : ∃ r ∈ routes, r.answers path method = true
  · obtain ⟨before, r, after, captures, rfl, hbefore, hmatch, haccepts⟩ :=
      exists_first_answer hanswers
    exact .inl ⟨before, r, after, captures, rfl, hbefore, hmatch, haccepts,
      matchRoutes_of_first hbefore hmatch haccepts⟩
  · have hrefused : ∀ r ∈ routes, r.answers path method = false := by
      simpa using hanswers
    by_cases hpath : ∃ r ∈ routes, r.recognises path = true
    · exact .inr (.inl ⟨hrefused, hpath, matchRoutes_of_recognises hrefused hpath⟩)
    · have hnone : ∀ r ∈ routes, r.recognises path = false := by
        simpa using hpath
      exact .inr (.inr ⟨hnone, matchRoutes_of_not_recognises hnone⟩)

/-- A route answers at a position if none before it does. -/
theorem matchRoutes_of_getElem? {i : Nat} {r : CompiledRoute α} {captures : Captures}
    (hr : routes[i]? = some r) (hmatch : r.matchPath path = some captures)
    (haccepts : r.methods.accepts method = true)
    (hleast : ∀ j < i, ∀ b, routes[j]? = some b → b.answers path method = false) :
    matchRoutes routes path method = .found r.target captures := by
  obtain ⟨hi, rfl⟩ := List.getElem?_eq_some_iff.1 hr
  have hbefore : ∀ b ∈ routes.take i, b.answers path method = false := by
    intro b hb
    obtain ⟨j, hj, rfl⟩ := List.mem_take_iff_getElem.1 hb
    exact hleast j (by omega) _ (List.getElem?_eq_getElem (by omega))
  have hfirst : matchRoutes (routes.take i ++ routes[i] :: routes.drop (i + 1)) path method =
      .found routes[i].target captures := matchRoutes_of_first hbefore hmatch haccepts
  rw [List.getElem_cons_drop, List.take_append_drop] at hfirst
  exact hfirst

end Answers

/-! ## Tables -/

namespace Session

variable [ToJson α] [FromJson α]

/-- The answer of the table of a run, if it compiles.  The compiled routes are the registered ones,
in their order.  If one of them answers, the answer is the target of the first one that does, with
what its pattern captures; if routes recognise the path and none answers, the answer lists the
names of all of them; and it is that there is no route exactly if none recognises the path. -/
theorem request_answered (given : Option (List (CompiledRoute α))) (files : Files)
    (os : List (Operation α)) (path method : String) :
    let t := (({ table := .start given, files } : Session α).performAll os).1.table
    ∀ outcome, (t.request path method).value.2 = .ok outcome →
      ∃ routes, t.compile.value.2 = .ok routes ∧ routes.map CompiledRoute.route = t.routes ∧
        (∀ (i : Nat) (r : CompiledRoute α) (captures : Captures), routes[i]? = some r →
          r.matchPath path = some captures → r.methods.accepts method = true →
          (∀ j < i, ∀ b : CompiledRoute α, routes[j]? = some b → b.answers path method = false) →
          outcome = .found r.target captures) ∧
        ((∀ r ∈ routes, r.answers path method = false) → (∃ r ∈ routes, r.recognises path = true) →
          ∃ allowed, outcome = .notAllowed allowed ∧
            ∀ n, n ∈ allowed ↔ ∃ r ∈ routes, r.recognises path = true ∧ n ∈ r.methods.toList) ∧
        (outcome = .notFound ↔ ∀ r ∈ routes, r.recognises path = false) := by
  intro t outcome hrequest
  rw [Table.snd_request] at hrequest
  cases hcompiled : t.compile.value.2 with
  | error e =>
      rw [hcompiled] at hrequest
      cases hrequest
  | ok routes =>
      rw [hcompiled] at hrequest
      cases hrequest
      refine ⟨routes, rfl, map_route_performAll given files os routes hcompiled, ?_, ?_, ?_⟩
      · intro i r captures hr hmatch haccepts hleast
        exact matchRoutes_of_getElem? hr hmatch haccepts hleast
      · intro hanswers hrecognises
        exact ⟨_, matchRoutes_of_recognises hanswers hrecognises, fun _ => mem_ofList_namesAt⟩
      · refine ⟨fun hnone r hr => ?_, matchRoutes_of_not_recognises⟩
        by_contra hpath
        rw [Bool.not_eq_false] at hpath
        by_cases hanswers : ∃ r ∈ routes, r.answers path method = true
        · obtain ⟨target, captures, hfound⟩ := matchRoutes_of_answers hanswers
          cases hfound.symm.trans hnone
        · have hrefused : ∀ r ∈ routes, r.answers path method = false := by
            simpa using hanswers
          cases (matchRoutes_of_recognises hrefused ⟨r, hr, hpath⟩).symm.trans hnone

end Session

/-- Two routes for one path that accept different methods, and a route of a route file. -/
def sharedPathRun : List (Operation String) :=
  [.step (.add "/x" "read" (.single "GET")), .step (.openGroup "/x"),
    .step (.add "" "write" (.ofList ["PUT", "", "PATCH"])), .step .closeGroup,
    .register { routes := [{ path := "/y", target := "other" }] }]

/-- The answer to a request with another method lists the names of both routes, and of no other
one. -/
theorem request_answered_sharedPath :
    let t := (({} : Session String).performAll sharedPathRun).1.table
    let allowed := NameSet.ofList ["GET", "PUT", "PATCH"]
    (t.request "/x" "POST").value.2 = .ok (.notAllowed allowed) ∧ ∃ routes,
      t.compile.value.2 = .ok routes ∧ routes.map CompiledRoute.route = t.routes ∧
        ∃ r ∈ routes, r.recognises "/x" = true := by
  intro t allowed
  have hrequest : (t.request "/x" "POST").value.2 = .ok (.notAllowed allowed) := by decide +kernel
  obtain ⟨routes, hcompile, hroutes, -, -, hnone⟩ :=
    Session.request_answered none {} sharedPathRun "/x" "POST" _ hrequest
  refine ⟨hrequest, routes, hcompile, hroutes, ?_⟩
  by_contra hpath
  cases hnone.2 (by simpa using hpath)

/-! ## All methods at once -/

/-- What a path is open to. -/
inductive Access where
  /-- No method. -/
  | nothing
  /-- Every method. -/
  | everything
  /-- The methods in a set. -/
  | listed (allowed : NameSet)

/-- Whether a method is admitted. No method is admitted as soon as any is. -/
def Access.Admits : Access → String → Prop
  | nothing, _ => False
  | everything, _ => True
  | listed allowed, method => method = "" ∨ method ∈ allowed

namespace Table

/-- Some route answers a request. -/
def Answers (t : Table α) (path method : String) : Prop :=
  ∃ target captures, (t.request path method).value.2 = .ok (.found target captures)

/-- The answers for a path, for all methods. A list of methods is not empty, and holds no empty
name. -/
def Grants (t : Table α) (path : String) : Access → Prop
  | .nothing => ∀ method, (t.request path method).value.2 = .ok .notFound
  | .everything => ∀ method, t.Answers path method
  | .listed allowed => (∃ n, n ∈ allowed) ∧ "" ∉ allowed ∧
      (∀ method, method = "" ∨ method ∈ allowed → t.Answers path method) ∧
      ∀ method, method ≠ "" → method ∉ allowed →
        (t.request path method).value.2 = .ok (.notAllowed allowed)

variable {t : Table α} {routes : List (CompiledRoute α)} {path method : String}

theorem snd_request_of_compile (h : t.compile.value.2 = .ok routes) (path method : String) :
    (t.request path method).value.2 = .ok (matchRoutes routes path method) := by
  rw [snd_request, h]
  rfl

theorem answers_of_routes (h : t.compile.value.2 = .ok routes)
    (hanswers : ∃ r ∈ routes, r.answers path method = true) : t.Answers path method := by
  obtain ⟨target, captures, hfound⟩ := matchRoutes_of_answers hanswers
  exact ⟨target, captures, by rw [snd_request_of_compile h, hfound]⟩

theorem not_answers_of_eq {outcome : Outcome α} (h : (t.request path method).value.2 = .ok outcome)
    (houtcome : outcome.isFound = false) : ¬t.Answers path method := by
  rintro ⟨target, captures, hfound⟩
  cases h.symm.trans hfound
  cases houtcome

/-- The names of routes that recognise a path are the methods it is open to, unless one of the
routes is without restriction. -/
theorem grants_listed (h : t.compile.value.2 = .ok routes)
    (hpath : ∃ r ∈ routes, r.recognises path = true)
    (hrestricted : ∀ r ∈ routes, r.recognises path = true → r.methods ≠ .any) :
    t.Grants path (.listed (.ofList (namesAt path routes))) := by
  refine ⟨?_, ?_, ?_, ?_⟩
  · obtain ⟨r, hr, hrpath⟩ := hpath
    have hnames := mt Methods.toList_eq_nil_iff.1 (hrestricted r hr hrpath)
    obtain ⟨n, hn⟩ := List.exists_mem_of_ne_nil _ hnames
    exact ⟨n, mem_ofList_namesAt.2 ⟨r, hr, hrpath, hn⟩⟩
  · intro hempty
    obtain ⟨r, -, -, hn⟩ := mem_ofList_namesAt.1 hempty
    exact r.methods.empty_not_mem_toList hn
  · rintro method (rfl | hn)
    · obtain ⟨r, hr, hrpath⟩ := hpath
      exact answers_of_routes h ⟨r, hr, answers_iff.2 ⟨hrpath, .inl rfl⟩⟩
    · obtain ⟨r, hr, hrpath, hn⟩ := mem_ofList_namesAt.1 hn
      exact answers_of_routes h ⟨r, hr, answers_iff.2 ⟨hrpath, .inr (.inr hn)⟩⟩
  · intro method hmethod hn
    have hrefused : ∀ r ∈ routes, r.answers path method = false := by
      intro r hr
      rw [← Bool.not_eq_true, answers_iff]
      rintro ⟨hrpath, hempty | hany | hname⟩
      · exact hmethod hempty
      · exact hrestricted r hr hrpath hany
      · exact hn (mem_ofList_namesAt.2 ⟨r, hr, hrpath, hname⟩)
    rw [snd_request_of_compile h, matchRoutes_of_recognises hrefused hpath]

/-- The routes that recognise a path decide together what it is open to. -/
theorem exists_grants (h : t.compile.value.2 = .ok routes) (path : String) :
    ∃ access, t.Grants path access := by
  by_cases hpath : ∃ r ∈ routes, r.recognises path = true
  · by_cases hany : ∃ r ∈ routes, r.recognises path = true ∧ r.methods = .any
    · obtain ⟨r, hr, hrpath, hrany⟩ := hany
      refine ⟨.everything, fun method => ?_⟩
      exact answers_of_routes h ⟨r, hr, answers_iff.2 ⟨hrpath, .inr (.inl hrany)⟩⟩
    · push Not at hany
      exact ⟨_, grants_listed h hpath hany⟩
  · refine ⟨.nothing, fun method => ?_⟩
    have hnone : ∀ r ∈ routes, r.recognises path = false := by simpa using hpath
    rw [snd_request_of_compile h, matchRoutes_of_not_recognises hnone]

/-- A request is answered if its method is admitted. -/
theorem Grants.answers_iff {access : Access} (h : t.Grants path access) (method : String) :
    t.Answers path method ↔ access.Admits method := by
  cases access with
  | nothing => exact iff_of_false (not_answers_of_eq (h method) rfl) id
  | everything => exact iff_of_true (h method) trivial
  | listed allowed =>
      obtain ⟨-, -, hanswers, hrefused⟩ := h
      by_cases hadmits : method = "" ∨ method ∈ allowed
      · exact iff_of_true (hanswers method hadmits) hadmits
      · have hnot := not_or.1 hadmits
        exact iff_of_false (not_answers_of_eq (hrefused method hnot.1 hnot.2) rfl) hadmits

end Table

/-- A list of methods never admits all of them, as there are more names than it holds. -/
theorem Access.exists_not_admits (allowed : NameSet) :
    ∃ method, ¬(listed allowed).Admits method := by
  obtain ⟨n, hn⟩ := Infinite.exists_notMem_finset ("" :: allowed.names).toFinset
  rw [List.mem_toFinset, List.mem_cons] at hn
  exact ⟨n, hn⟩

/-- Whatever is listed is told from what is not by the requests that are answered. -/
theorem Table.Grants.unique {t : Table α} {path : String} {a b : Access} (ha : t.Grants path a)
    (hb : t.Grants path b) : a = b := by
  have hsame (method : String) : a.Admits method ↔ b.Admits method :=
    (ha.answers_iff method).symm.trans (hb.answers_iff method)
  cases a with
  | nothing =>
      cases b with
      | nothing => rfl
      | everything => exact ((hsame "").2 trivial).elim
      | listed allowed => exact ((hsame "").2 (.inl rfl)).elim
  | everything =>
      cases b with
      | nothing => exact ((hsame "").1 trivial).elim
      | everything => rfl
      | listed allowed =>
          obtain ⟨n, hn⟩ := Access.exists_not_admits allowed
          exact absurd ((hsame n).1 trivial) hn
  | listed allowed =>
      cases b with
      | nothing => exact ((hsame "").1 (.inl rfl)).elim
      | everything =>
          obtain ⟨n, hn⟩ := Access.exists_not_admits allowed
          exact absurd ((hsame n).2 trivial) hn
      | listed allowed' =>
          obtain ⟨-, hempty, -, -⟩ := ha
          obtain ⟨-, hempty', -, -⟩ := hb
          refine congrArg Access.listed (NameSet.ext_mem fun n => ⟨fun hn => ?_, fun hn => ?_⟩)
          · exact ((hsame n).1 (.inr hn)).resolve_left (ne_of_mem_of_not_mem hn hempty)
          · exact ((hsame n).2 (.inr hn)).resolve_left (ne_of_mem_of_not_mem hn hempty')

/-- The answers of the table of a run for one path are of exactly one kind, if it compiles: there
is no route for any method, or one for every method, or there is a set of methods, not empty and
without the empty name, such that a request is answered if it has one of them or no method, and is
told the set otherwise.  So of the methods there are, those that are told are the ones with which a
request is answered afterwards. -/
theorem Session.access_unique [ToJson α] [FromJson α] (given : Option (List (CompiledRoute α)))
    (files : Files) (os : List (Operation α)) (path : String) :
    let t := (({ table := .start given, files } : Session α).performAll os).1.table
    ∀ routes, t.compile.value.2 = .ok routes →
      (∃! access, t.Grants path access) ∧
        ∀ method allowed, (t.request path method).value.2 = .ok (.notAllowed allowed) →
          ∀ again, again ≠ "" →
            ((t.request path method).value.1.Answers path again ↔ again ∈ allowed) := by
  intro t routes hcompile
  obtain ⟨access, haccess⟩ := Table.exists_grants hcompile path
  refine ⟨⟨access, haccess, fun other hother => hother.unique haccess⟩, ?_⟩
  intro method allowed hrefused again hagain
  have hkept (again : String) : (t.request path method).value.1.Answers path again ↔
      t.Answers path again := by
    rw [Table.Answers, Table.Answers, Table.fst_request, Table.snd_request, Table.snd_request,
      Table.snd_compile_compile]
  rw [hkept, haccess.answers_iff]
  have hnot : ¬access.Admits method :=
    mt (haccess.answers_iff method).2 (Table.not_answers_of_eq hrefused rfl)
  cases access with
  | nothing => cases (haccess method).symm.trans hrefused
  | everything => exact absurd trivial hnot
  | listed names =>
      obtain ⟨-, -, -, hlisted⟩ := haccess
      have hmethod := not_or.1 hnot
      cases (hlisted method hmethod.1 hmethod.2).symm.trans hrefused
      exact or_iff_right hagain

/-- A request that was refused is answered with a method that it was told, and with no other
one. -/
theorem access_unique_sharedPath :
    let t := (({} : Session String).performAll sharedPathRun).1.table
    let after := (t.request "/x" "POST").value.1
    t.compile.value.2.isOk = true ∧ (∃! access, t.Grants "/x" access) ∧
      after.Answers "/x" "PATCH" ∧ ¬after.Answers "/x" "DELETE" := by
  intro t after
  have hcompile : t.compile.value.2.isOk = true := by decide +kernel
  have hrefused : (t.request "/x" "POST").value.2 =
      .ok (.notAllowed (.ofList ["GET", "PUT", "PATCH"])) := by decide +kernel
  obtain ⟨routes, hroutes⟩ : ∃ routes, t.compile.value.2 = .ok routes := by
    cases h : t.compile.value.2 with
    | error e => rw [h] at hcompile; cases hcompile
    | ok routes => exact ⟨routes, rfl⟩
  obtain ⟨hunique, hagain⟩ := Session.access_unique none {} sharedPathRun "/x" routes hroutes
  refine ⟨hcompile, hunique, (hagain _ _ hrefused _ (by decide)).2 (by simp), ?_⟩
  exact mt (hagain _ _ hrefused _ (by decide)).1 (by simp)

end PathRouter

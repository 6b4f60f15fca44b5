import PathRouter.Proofs.Routing.Answering
import PathRouter.Proofs.Routing.Continuing

/-!
# Answers after more routes

Routes that are registered later stand behind the ones a table has.  A route that answers is heard
before all of them; if there is none, they are asked, with the names that have been collected.  So
an answer is only ever changed by a route that is added and recognises the path.

* `matchRoutes_append_of_found`, `matchRoutes_append_of_notAllowed`,
  `matchRoutes_append_of_notFound` — the three answers;
* `Session.answer_extended` — runs.
-/

namespace PathRouter

open CompiledRoute

variable {α : Type}

section Answers

variable {cs : List (CompiledRoute α)} {path method : String}

/-- A route that answers is heard before the ones behind it. -/
theorem matchRoutes_append_of_found {target : α} {captures : Captures}
    (h : matchRoutes cs path method = .found target captures) (new : List (CompiledRoute α)) :
    matchRoutes (cs ++ new) path method = .found target captures := by
  obtain ⟨before, r, after, captures', rfl, hbefore, hmatch, haccepts, hfound⟩ | ⟨-, -,
      hnone⟩ | ⟨-, hnone⟩ :=
    matchRoutes_cases cs path method
  · rw [← h, hfound, List.append_assoc, List.cons_append,
      matchRoutes_of_first hbefore hmatch haccepts]
  · cases h.symm.trans hnone
  · cases h.symm.trans hnone

/-- If routes recognise the path, and do not accept the method, then either one of the routes
behind them answers, or these only add names. -/
theorem matchRoutes_append_of_notAllowed {allowed : NameSet}
    (h : matchRoutes cs path method = .notAllowed allowed) (new : List (CompiledRoute α)) :
    (∃ r ∈ new, ∃ captures, r.matchPath path = some captures ∧ r.methods.accepts method = true ∧
      matchRoutes (cs ++ new) path method = .found r.target captures) ∨
    ∃ allowed', matchRoutes (cs ++ new) path method = .notAllowed allowed' ∧ ∀ n ∈ allowed,
      n ∈ allowed' := by
  obtain ⟨before, r, after, captures, -, -, -, -, hfound⟩ | ⟨hrefused, ⟨r, hr, hpath⟩,
      hnames⟩ | ⟨-, hnone⟩ :=
    matchRoutes_cases cs path method
  · cases h.symm.trans hfound
  · cases h.symm.trans hnames
    by_cases hanswers : ∃ r ∈ new, r.answers path method = true
    · obtain ⟨before, r, after, captures, rfl, hbefore, hmatch, haccepts⟩ :=
        exists_first_answer hanswers
      have hbefore' : ∀ b ∈ cs ++ before, b.answers path method = false :=
        List.forall_mem_append.2 ⟨hrefused, hbefore⟩
      refine .inl ⟨r, by simp, captures, hmatch, haccepts, ?_⟩
      rw [← List.append_assoc]
      exact matchRoutes_of_first hbefore' hmatch haccepts
    · have hrefused' : ∀ r ∈ cs ++ new, r.answers path method = false :=
        List.forall_mem_append.2 ⟨hrefused, by simpa using hanswers⟩
      have hpath' : ∃ r ∈ cs ++ new, r.recognises path = true :=
        ⟨r, List.mem_append_left _ hr, hpath⟩
      refine .inr ⟨_, matchRoutes_of_recognises hrefused' hpath', fun n hn => ?_⟩
      obtain ⟨b, hb, hn⟩ := mem_ofList_namesAt.1 hn
      exact mem_ofList_namesAt.2 ⟨b, List.mem_append_left _ hb, hn⟩
  · cases h.symm.trans hnone

/-- Routes that do not recognise the path make no difference to the ones behind them. -/
theorem matchRoutes_append_of_notFound (h : matchRoutes cs path method = .notFound)
    (new : List (CompiledRoute α)) :
    matchRoutes (cs ++ new) path method = matchRoutes new path method := by
  obtain ⟨before, r, after, captures, -, -, -, -, hfound⟩ | ⟨-, -, hnames⟩ | ⟨hnone, -⟩ :=
    matchRoutes_cases cs path method
  · cases h.symm.trans hfound
  · cases h.symm.trans hnames
  · have hrefused : ∀ r ∈ cs, r.answers path method = false := by
      intro r hr
      rw [answers, hnone r hr, Bool.false_and]
    have hnames : namesAt path cs = [] := by
      rw [namesAt, List.filter_eq_nil_iff.2 fun r hr => ne_true_of_eq_false (hnone r hr),
        List.flatMap_nil]
    rw [matchRoutes, Verdict.ofRoutes, Verdict.scan_append_of_not_answers hrefused, hnames]
    rfl

end Answers

/-! ## Runs -/

namespace Session

variable [ToJson α] [FromJson α]

/-- A table is used in a run that takes no table made of compiled routes, and is then used on
without being replaced.  If it compiles afterwards, it did before, and the routes that have been
added do.  An answer that was there stays; where routes refused the method, either one of the added
routes answers, or more methods may be listed; and where there was no route, the answer is that of
a table with the added routes alone. -/
theorem answer_extended (files : Files) (os later : List (Operation α)) :
    let s₀ : Session α := { files }
    let s := (s₀.performAll os).1
    let t := s.table
    let t' := (s.performAll later).1.table
    s₀.NeverGiven os → s.KeepsTable later → ∀ compiled, t'.compile.value.2 = .ok compiled →
      ∃ added new, t'.routes = t.routes ++ added ∧ compileRoutes added = .ok new ∧ ∀ path method,
        (∃ outcome, (t.request path method).value.2 = .ok outcome) ∧
        (∀ target captures, (t.request path method).value.2 = .ok (.found target captures) →
          (t'.request path method).value.2 = .ok (.found target captures)) ∧
        (∀ allowed, (t.request path method).value.2 = .ok (.notAllowed allowed) →
          (∃ r ∈ new, ∃ captures, r.matchPath path = some captures ∧
            r.methods.accepts method = true ∧
            (t'.request path method).value.2 = .ok (.found r.target captures)) ∨
          ∃ allowed', (t'.request path method).value.2 = .ok (.notAllowed allowed') ∧
            ∀ n ∈ allowed, n ∈ allowed') ∧
        ((t.request path method).value.2 = .ok .notFound →
          (t'.request path method).value.2 =
            (({ routes := added } : Table α).request path method).value.2) := by
  intro s₀ s t t' hgiven hkeeps compiled hcompiled
  have hinside := (Inside.start none files).performAll os
  obtain ⟨added, hadded⟩ : ∃ added, t'.routes = t.routes ++ added :=
    hinside.routes_performAll hkeeps
  have hderived : t.Derived := derived_performAll (s := s₀) rfl hgiven
  have hderived' : t'.Derived := derived_performAll hderived hkeeps.neverGiven
  -- the compiled form is that of the routes, which splits where the new ones begin
  obtain ⟨cs, new, hcs, hnew, rfl⟩ : ∃ cs new, compileRoutes t.routes = .ok cs ∧
      compileRoutes added = .ok new ∧ cs ++ new = compiled := by
    rw [hderived', hadded, compileRoutes_append] at hcompiled
    cases hcs : compileRoutes t.routes with
    | error e =>
        rw [hcs] at hcompiled
        cases hcompiled
    | ok cs =>
        rw [hcs] at hcompiled
        obtain ⟨new, hnew, hcompiled⟩ := map_eq_ok_iff.1 hcompiled
        exact ⟨cs, new, rfl, hnew, hcompiled⟩
  have hbefore := Table.snd_request_of_compile (hderived.trans hcs)
  have hafter := Table.snd_request_of_compile hcompiled
  have halone : (({ routes := added } : Table α)).compile.value.2 = .ok new := by
    rw [Table.snd_compile]
    exact hnew
  refine ⟨added, new, hadded, hnew, fun path method => ⟨⟨_, hbefore path method⟩, ?_, ?_, ?_⟩⟩
  · intro target captures hfound
    rw [hbefore] at hfound
    rw [hafter, matchRoutes_append_of_found (Except.ok.inj hfound)]
  · intro allowed hallowed
    rw [hbefore] at hallowed
    rw [hafter]
    obtain ⟨r, hr, captures, hmatch, haccepts, hfound⟩ | ⟨allowed', hallowed', hsubset⟩ :=
      matchRoutes_append_of_notAllowed (Except.ok.inj hallowed) new
    · exact .inl ⟨r, hr, captures, hmatch, haccepts, congrArg Except.ok hfound⟩
    · exact .inr ⟨allowed', congrArg Except.ok hallowed', hsubset⟩
  · intro hnone
    rw [hbefore] at hnone
    rw [hafter, Table.snd_request_of_compile halone,
      matchRoutes_append_of_notFound (Except.ok.inj hnone)]

end Session

/-- A route for one method, compiled once. -/
def readingRun : List (Operation String) :=
  [.step (.add "/x" "read" (.single "GET")), .step .compile]

/-- A route for another method in a group, a request in between, and a route file. -/
def writingRun : List (Operation String) :=
  [.step (.openGroup "/x"), .step (.add "" "write" (.single "PUT")), .step .closeGroup,
    .step (.request [("/y", "")]), .register { routes := [{ path := "/y", target := "other" }] }]

/-- What was found is still found, and what was missing is answered as by the new routes alone. -/
theorem answer_extended_writing :
    let s₀ : Session String := {}
    let s := (s₀.performAll readingRun).1
    let t := (s.performAll writingRun).1.table
    s₀.NeverGiven readingRun ∧ s.KeepsTable writingRun ∧
      (t.request "/x" "GET").value.2 = .ok (.found "read" []) ∧
      ∃ added, t.routes = s.table.routes ++ added ∧
        (t.request "/y" "").value.2 =
          (({ routes := added } : Table String).request "/y" "").value.2 := by
  intro s₀ s t
  have hgiven : s₀.NeverGiven readingRun := by
    unfold Session.NeverGiven
    decide +kernel
  have hkeeps : s.KeepsTable writingRun := by
    unfold Session.KeepsTable
    decide +kernel
  have hok : t.compile.value.2.isOk = true := by decide +kernel
  obtain ⟨compiled, hcompiled⟩ := isOk_iff_exists.1 hok
  obtain ⟨added, new, hadded, -, hanswers⟩ :=
    Session.answer_extended {} readingRun writingRun hgiven hkeeps compiled hcompiled
  have hfound : (s.table.request "/x" "GET").value.2 = .ok (.found "read" []) := by decide +kernel
  have hnone : (s.table.request "/y" "").value.2 = .ok .notFound := by decide +kernel
  have hkept := (hanswers "/x" "GET").2.1 "read" [] hfound
  have halone := (hanswers "/y" "").2.2.2 hnone
  refine ⟨hgiven, hkeeps, ?_⟩
  dsimp only [t, s, s₀]
  exact ⟨hkept, added, hadded, halone⟩

end PathRouter

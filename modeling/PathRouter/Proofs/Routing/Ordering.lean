import PathRouter.Proofs.Routing.Answering

/-!
# The order of routes

What a list of compiled routes answers when it is put into another order.  The order decides which
of the routes that answer is heard, and nothing else: whether there is one, whether a route
recognises the path, and the names of those that do can be told without it.  A scan collects the
names one after the other, but what it has at the end is a set.

* `status_matchRoutes`, `matchRoutes_eq_notAllowed_iff` — the status and the names that are listed,
  said by membership;
* `exists_perm_matchRoutes_eq` — each route that answers is heard in some order;
* `matchRoutes_reordered` — one list of routes in two orders.
-/

namespace PathRouter

open CompiledRoute

variable {α : Type} {routes routes' : List (CompiledRoute α)} {path method : String}

/-! ## What does not depend on the order -/

/-- The status tells whether some route answers, and if none does, whether some route recognises
the path. -/
theorem status_matchRoutes : (matchRoutes routes path method).status =
    if routes.any (·.answers path method) then 200
    else if routes.any (·.recognises path) then 405
    else 404 := by
  obtain ⟨before, r, after, captures, rfl, -, hmatch, haccepts, hfound⟩ | ⟨hrefused,
      hpath, hnames⟩ |
      ⟨hnone, hnotFound⟩ := matchRoutes_cases routes path method
  · have hanswers : (before ++ r :: after).any (·.answers path method) = true := by
      simp [answers, recognises, hmatch, haccepts]
    rw [hfound, if_pos hanswers]
    rfl
  · have hanswers : routes.any (·.answers path method) = false :=
      List.any_eq_false.2 (by simpa using hrefused)
    rw [hnames, hanswers, if_neg Bool.false_ne_true, if_pos (List.any_eq_true.2 hpath)]
    rfl
  · have hanswers : routes.any (·.answers path method) = false := by
      simp +contextual [answers, hnone]
    have hrecognises : routes.any (·.recognises path) = false :=
      List.any_eq_false.2 (by simpa using hnone)
    rw [hnotFound, hanswers, hrecognises, if_neg Bool.false_ne_true, if_neg Bool.false_ne_true]
    rfl

/-- Names are listed if no route answers and some route recognises the path, and then they are
those of all routes that do. -/
theorem matchRoutes_eq_notAllowed_iff {allowed : NameSet} :
    matchRoutes routes path method = .notAllowed allowed ↔
    (∀ r ∈ routes, r.answers path method = false) ∧ (∃ r ∈ routes, r.recognises path = true) ∧
      ∀ n, n ∈ allowed ↔ ∃ r ∈ routes, r.recognises path = true ∧ n ∈ r.methods.toList := by
  constructor
  · intro h
    obtain ⟨before, r, after, captures, -, -, -, -, hfound⟩ | ⟨hrefused, hpath, hnames⟩ | ⟨-,
        hnotFound⟩ :=
      matchRoutes_cases routes path method
    · cases h.symm.trans hfound
    · cases h.symm.trans hnames
      exact ⟨hrefused, hpath, fun n => mem_ofList_namesAt⟩
    · cases h.symm.trans hnotFound
  · rintro ⟨hrefused, hpath, hnames⟩
    have hallowed : NameSet.ofList (namesAt path routes) = allowed :=
      NameSet.ext_mem fun n => mem_ofList_namesAt.trans (hnames n).symm
    rw [matchRoutes_of_recognises hrefused hpath, hallowed]

/-- The answer is that of the routes that answer, if there are any. -/
theorem matchRoutes_filter_answers (h : ∃ r ∈ routes, r.answers path method = true) :
    matchRoutes (routes.filter (·.answers path method)) path method =
      matchRoutes routes path method := by
  obtain ⟨before, r, after, captures, rfl, hbefore, hmatch, haccepts⟩ := exists_first_answer h
  have hanswers : r.answers path method = true := by simp [answers, recognises, hmatch, haccepts]
  have hnone : before.filter (·.answers path method) = [] :=
    List.filter_eq_nil_iff.2 (by simpa using hbefore)
  have hfirst :
      (r :: after).filter (·.answers path method) = r :: after.filter (·.answers path method) :=
    List.filter_cons_of_pos hanswers
  rw [List.filter_append, hnone, List.nil_append, hfirst,
    matchRoutes_of_first hbefore hmatch haccepts]
  exact matchRoutes_of_first (List.forall_mem_nil _) hmatch haccepts

/-! ## Another order -/

/-- A route that answers is heard if it is put in front of the others. -/
theorem exists_perm_matchRoutes_eq {r : CompiledRoute α} {captures : Captures} (hr : r ∈ routes)
    (hmatch : r.matchPath path = some captures) (haccepts : r.methods.accepts method = true) :
    ∃ routes', routes.Perm routes' ∧ matchRoutes routes' path method =
      .found r.target captures := by
  obtain ⟨before, after, rfl⟩ := List.append_of_mem hr
  refine ⟨r :: (before ++ after), List.perm_middle, ?_⟩
  exact matchRoutes_of_first (List.forall_mem_nil _) hmatch haccepts

/-- A list with one route at most has one order. -/
theorem eq_of_perm_of_length_le_one {l l' : List (CompiledRoute α)} (h : l.Perm l')
    (hlength : l.length ≤ 1) :
    l = l' := by
  match l, hlength with
  | [], _ => exact h.nil_eq
  | [r], _ => exact h.singleton_eq

/-- If at most one route answers, the order makes no difference. -/
theorem matchRoutes_eq_of_perm (h : routes.Perm routes')
    (hone : routes.countP (·.answers path method) ≤ 1) :
    matchRoutes routes path method = matchRoutes routes' path method := by
  by_cases hanswers : ∃ r ∈ routes, r.answers path method = true
  · have hanswers' :
        ∃ r ∈ routes', r.answers path method = true := by simpa [h.mem_iff] using hanswers
    have hsame : routes.filter (·.answers path method) = routes'.filter (·.answers path method) :=
      eq_of_perm_of_length_le_one (h.filter _) (by rwa [← List.countP_eq_length_filter])
    rw [← matchRoutes_filter_answers hanswers, ← matchRoutes_filter_answers hanswers', hsame]
  · have hrefused : ∀ r ∈ routes, r.answers path method = false := by simpa using hanswers
    have hrefused' : ∀ r ∈ routes', r.answers path method = false := by
      simpa [h.mem_iff] using hrefused
    by_cases hpath : ∃ r ∈ routes, r.recognises path = true
    · have hnames := matchRoutes_of_recognises hrefused hpath
      rw [hnames]
      rw [matchRoutes_eq_notAllowed_iff] at hnames
      simp only [h.mem_iff] at hnames
      exact (matchRoutes_eq_notAllowed_iff.2 hnames).symm
    · have hnone : ∀ r ∈ routes, r.recognises path = false := by simpa using hpath
      have hnone' : ∀ r ∈ routes', r.recognises path = false := by simpa [h.mem_iff] using hnone
      rw [matchRoutes_of_not_recognises hnone, matchRoutes_of_not_recognises hnone']

/-- Routes in two orders answer with the same status, and if the answer lists methods, with the
same ones.  If at most one of the routes recognises the path and accepts the method, the answers
are the same, with target and captures.  Otherwise each of those that do is heard in some order. -/
theorem matchRoutes_reordered (h : routes.Perm routes') (path method : String) :
    (matchRoutes routes path method).status = (matchRoutes routes' path method).status ∧
      (∀ allowed, matchRoutes routes path method = .notAllowed allowed ↔
        matchRoutes routes' path method = .notAllowed allowed) ∧
      (routes.countP (fun r => (r.matchPath path).isSome && r.methods.accepts method) ≤ 1 →
        matchRoutes routes path method = matchRoutes routes' path method) ∧
      ∀ r ∈ routes, ∀ captures, r.matchPath path = some captures →
      r.methods.accepts method = true →
        ∃ order, routes.Perm order ∧ matchRoutes order path method = .found r.target captures := by
  refine ⟨?_, fun allowed => ?_, matchRoutes_eq_of_perm h, fun r hr captures hmatch haccepts => ?_⟩
  · rw [status_matchRoutes, status_matchRoutes, h.any_eq, h.any_eq]
  · simp only [matchRoutes_eq_notAllowed_iff, h.mem_iff]
  · exact exists_perm_matchRoutes_eq hr hmatch haccepts

/-- Two routes for one path, with methods that overlap, and one for another path. -/
def overlappingRoutes : List (CompiledRoute String) :=
  [{ path := "/x", methods := .single "GET", target := "read", matcher := .literal },
    { path := "/x", methods := .ofList ["PUT", "GET"], target := "write", matcher := .literal },
    { path := "/y", methods := .any, target := "other", matcher := .literal }]

/-- In the opposite order the second route for the path is heard, a refusal lists the same methods,
and a request that one route alone answers is answered as before. -/
theorem matchRoutes_reordered_overlapping :
    let reversed := overlappingRoutes.reverse
    overlappingRoutes.Perm reversed ∧ matchRoutes overlappingRoutes "/x" "GET" = .found "read" [] ∧
      matchRoutes reversed "/x" "GET" = .found "write" [] ∧
      (matchRoutes overlappingRoutes "/x" "GET").status =
        (matchRoutes reversed "/x" "GET").status ∧
      matchRoutes reversed "/x" "POST" = .notAllowed (.ofList ["GET", "PUT"]) ∧
      matchRoutes overlappingRoutes "/x" "PUT" = matchRoutes reversed "/x" "PUT" := by
  intro reversed
  have hperm : overlappingRoutes.Perm reversed := (List.reverse_perm _).symm
  have hlisted :
      matchRoutes overlappingRoutes "/x" "POST" = .notAllowed (.ofList ["GET", "PUT"]) := by decide
  refine ⟨hperm, by decide, by decide, (matchRoutes_reordered hperm "/x" "GET").1, ?_, ?_⟩
  · exact ((matchRoutes_reordered hperm "/x" "POST").2.1 _).1 hlisted
  · exact (matchRoutes_reordered hperm "/x" "PUT").2.2.1 (by decide)

end PathRouter

import PathRouter.Proofs.Regex.Walking

/-!
# What a search finds

A plan leads from one place to another if some choice at its forks and some number of rounds of its
loops takes it there.  A search is only a way to go about the choices, so what it finds is a place
to which the plan leads.

* `Plan.Leads` — the places to which a plan leads from a place, without a word about preference and
  marks;
* `Plan.leads_of_run` — if a search succeeds, then the rest of it has succeeded at such a place;
* `Plan.leads_of_searchFrom`, `Node.leads_of_search` — the same for a search through a whole text.
-/

namespace PathRouter.Regex

/-- The place in a text after a number of its characters. -/
def Place.nth (text : List Char) (i : Nat) : Place where
  position := i
  before := (text.take i).getLast?
  rest := text.drop i
  found := []

theorem Place.nth_append (u v : List Char) : nth (u ++ v) u.length =
    { position := u.length, before := u.getLast?, rest := v, found := [] } := by
  rw [nth, List.take_left, List.drop_left]

/-! ## Where a plan leads -/

/-- A plan leads from one place to another. -/
inductive Plan.Leads : Plan → Place → Place → Prop
  /-- Nothing leads nowhere else. -/
  | done {p : Place} : Leads .done p p
  /-- A set leads across one of its characters. -/
  | set {s : CharSet} {p : Place} {c : Char} {rest : List Char} :
      p.rest = c :: rest → s.contains c = true → Leads (.set s) p (p.after c rest)
  /-- A condition has to hold. -/
  | anchor {a : Anchor} {p : Place} : a.holds p = true → Leads (.anchor a) p p
  /-- One plan after the other. -/
  | seq {l r : Plan} {p q e : Place} : Leads l p q → Leads r q e → Leads (.seq l r) p e
  /-- The first way of a fork. -/
  | left {mark : Nat} {l r : Plan} {p q : Place} : Leads l p q → Leads (.fork mark l r) p q
  /-- The second way of a fork. -/
  | right {mark : Nat} {l r : Plan} {p q : Place} : Leads r p q → Leads (.fork mark l r) p q
  /-- No further round. -/
  | stop {mark : Nat} {greedy : Bool} {body : Plan} {p : Place} :
    Leads (.star mark greedy body) p p
  /-- One more round. -/
  | round {mark : Nat} {greedy : Bool} {body : Plan} {p q e : Place} :
      Leads body p q → Leads (.star mark greedy body) q e → Leads (.star mark greedy body) p e
  /-- A first round. -/
  | again {mark : Nat} {greedy : Bool} {body : Plan} {p q e : Place} :
      Leads body p q → Leads (.star mark greedy body) q e → Leads (.again mark greedy body) p e
  /-- What has been passed is recorded. -/
  | record {name : String} {body : Plan} {p q : Place} :
      Leads body p q → Leads (.record name body) p (q.record p name)

/-! ## Searches -/

variable {α : Type} {marks marks' : Marks} {result : α}

theorem Search.of_orElse_eq_some {a b : Search α} (h : orElse a b marks = (some result, marks')) :
    ∃ m, a m = (some result, marks') ∨ b m = (some result, marks') := by
  rw [orElse] at h
  split at h
  next heq => exact ⟨marks, Or.inl (heq.trans h)⟩
  next heq => exact ⟨_, Or.inr h⟩

theorem Search.of_mark_eq_some {key : Nat × Nat} {first : Bool} {a b : Search α}
    (h : mark key first a b marks = (some result, marks')) :
    ∃ m, a m = (some result, marks') ∨ b m = (some result, marks') := by
  rw [mark] at h
  split at h
  · cases h
  · split at h
    · exact of_orElse_eq_some h
    · obtain ⟨m, hm⟩ := of_orElse_eq_some h
      exact ⟨m, hm.symm⟩

namespace Plan

/-- A body through which a search leads, in rounds. -/
theorem leads_of_rounds {number : Nat} {greedy : Bool} {body : Plan}
    (hbody : ∀ {k : Place → Search α} {p : Place} {marks marks' : Marks} {result : α},
      body.run k p marks = (some result, marks') →
        ∃ q m, body.Leads p q ∧ k q m = (some result, marks'))
    {fuel : Nat} {k : Place → Search α} {p : Place} {marks marks' : Marks} {result : α}
    (h : Way.rounds number greedy body.run fuel k p marks = (some result, marks')) :
    ∃ q m, (star number greedy body).Leads p q ∧ k q m = (some result, marks') := by
  induction fuel generalizing p marks with
  | zero => cases h
  | succ fuel ih =>
      rw [Way.rounds] at h
      obtain ⟨m, h | h⟩ := Search.of_mark_eq_some h
      · obtain ⟨q, m', hround, h⟩ := hbody h
        obtain ⟨e, m'', hrounds, h⟩ := ih h
        exact ⟨e, m'', .round hround hrounds, h⟩
      · exact ⟨p, m, .stop, h⟩

/-- If a search succeeds, then the rest of it has succeeded at a place to which the plan leads. -/
theorem leads_of_run {plan : Plan} {k : Place → Search α} {p : Place}
    (h : plan.run k p marks = (some result, marks')) :
    ∃ q m, plan.Leads p q ∧ k q m = (some result, marks') := by
  induction plan generalizing k p marks marks' result with
  | done => exact ⟨p, marks, .done, h⟩
  | set s =>
      rw [run] at h
      split at h
      · cases h
      next c rest hrest =>
        split at h
        next hc => exact ⟨_, marks, .set hrest hc, h⟩
        · cases h
  | anchor a =>
      rw [run] at h
      split at h
      next ha => exact ⟨p, marks, .anchor ha, h⟩
      · cases h
  | seq l r hl hr =>
      obtain ⟨q, m, hleft, h⟩ := hl h
      obtain ⟨e, m', hright, h⟩ := hr h
      exact ⟨e, m', .seq hleft hright, h⟩
  | fork number l r hl hr =>
      obtain ⟨m, h | h⟩ := Search.of_mark_eq_some h
      · obtain ⟨q, m', hleads, h⟩ := hl h
        exact ⟨q, m', .left hleads, h⟩
      · obtain ⟨q, m', hleads, h⟩ := hr h
        exact ⟨q, m', .right hleads, h⟩
  | star number greedy body hbody => exact leads_of_rounds hbody h
  | again number greedy body hbody =>
      obtain ⟨q, m, hround, h⟩ := hbody h
      obtain ⟨e, m', hrounds, h⟩ := leads_of_rounds hbody h
      exact ⟨e, m', .again hround hrounds, h⟩
  | record name body hbody =>
      obtain ⟨q, m, hleads, h⟩ := hbody h
      exact ⟨_, m, .record hleads, h⟩

theorem leads_of_run_some {plan : Plan} {p q : Place}
    (h : plan.run (fun q marks => (some q, marks)) p marks = (some q, marks')) :
    plan.Leads p q := by
  obtain ⟨e, m, hleads, he⟩ := leads_of_run h
  cases he
  exact hleads

/-- What a search through a text finds is a place to which the plan leads from some place in the
text. -/
theorem leads_of_searchFrom {plan : Plan} {u v : List Char} {q : Place}
    (h : plan.searchFrom u.length u.getLast? v marks = (some q, marks')) :
    ∃ i, i ≤ (u ++ v).length ∧ plan.Leads (Place.nth (u ++ v) i) q := by
  induction v generalizing u marks with
  | nil =>
      rw [searchFrom, ← Place.nth_append] at h
      split at h
      next heq => exact ⟨u.length, by simp, leads_of_run_some (heq.trans h)⟩
      · cases h
  | cons c rest ih =>
      rw [searchFrom, ← Place.nth_append] at h
      split at h
      next heq => exact ⟨u.length, by simp, leads_of_run_some (heq.trans h)⟩
      next m _ =>
        have hnext : plan.searchFrom (u ++ [c]).length (u ++ [c]).getLast? rest m =
            (some q, marks') := by
          rw [List.length_append, List.getLast?_concat]
          exact h
        obtain ⟨i, hi, hleads⟩ := ih hnext
        rw [List.append_assoc] at hi hleads
        exact ⟨i, hi, hleads⟩

end Plan

/-- What a search finds is a place to which the plan of the expression leads from some place in the
text. -/
theorem Node.leads_of_search {n : Node} {text : List Char} {q : Place}
    (h : n.search text = some q) :
    ∃ i, i ≤ text.length ∧ n.plan.Leads (Place.nth text i) q := by
  obtain ⟨marks, hm⟩ : ∃ marks, n.plan.searchFrom 0 none text ∅ = (some q, marks) :=
    ⟨_, Prod.ext h rfl⟩
  have hstart : n.plan.searchFrom ([] : List Char).length ([] : List Char).getLast? text ∅ =
      (some q, marks) := hm
  exact Plan.leads_of_searchFrom hstart

end PathRouter.Regex

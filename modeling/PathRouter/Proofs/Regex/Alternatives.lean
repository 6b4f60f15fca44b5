import PathRouter.Proofs.Regex.Stepping

/-!
# The alternatives of an expression

An expression is a choice between the alternatives at its top level.  What the first of them starts
with cannot be changed any more as soon as something follows: later text goes on after it, into a
group after it, or into another alternative.

* `alternatives` — the alternatives at the top level;
* `Node.eq_of_parse` — what is read is the choice between them;
* `State.StartsWith` — the first alternative starts with some pieces, and it is no longer possible
  to change them; no change ends that (`State.StartsWith.change`).
-/

namespace PathRouter.Regex

namespace State

/-- The alternatives of the current group. -/
def alternatives (st : State) : List Piece :=
  (st.branch :: st.branches).reverse

/-- The alternatives before, and the pieces, at the top level. -/
def outermost (st : State) : List Piece × List Piece :=
  match st.frames.getLast? with
  | none => (st.branches, st.items)
  | some f => (f.branches, f.items)

/-- The first alternative at the top level starts with some pieces, the newest of which comes first
in `base`.  Either it is still being read, and there is something after them or in the making, or
it has ended. -/
def StartsWith (base : List Piece) (st : State) : Prop :=
  (st.outermost.1 = [] ∧ ∃ above, st.outermost.2 = above ++ base ∧ (st.frames = [] → above ≠ [])) ∨
    ∃ above, above ≠ [] ∧ st.outermost.1.getLast? = some (.concat (above ++ base).reverse)

theorem outermost_of_nil {st : State} (h : st.frames = []) :
    st.outermost = (st.branches, st.items) := by
  rw [outermost, h]
  rfl

theorem outermost_of_getLast? {st st' : State} (h : st'.frames.getLast? = st.frames.getLast?)
    (hne : st.frames ≠ []) : st'.outermost = st.outermost := by
  cases hlast : st.frames.getLast? with
  | none => exact absurd (List.getLast?_eq_none_iff.1 hlast) hne
  | some f => rw [outermost, outermost, h, hlast]

theorem StartsWith.of_open {base : List Piece} {st st' : State} (h : StartsWith base st)
    (houter : st'.outermost = st.outermost) (hframes : st'.frames ≠ []) : StartsWith base st' := by
  rw [StartsWith, houter]
  rcases h with ⟨hbranches, above, hitems, -⟩ | h
  · exact Or.inl ⟨hbranches, above, hitems, fun h => absurd h hframes⟩
  · exact Or.inr h

/-- At the top level, pieces may be added and the last one may be changed. -/
theorem StartsWith.of_items {base : List Piece} {st st' : State} (h : StartsWith base st)
    (hframes : st'.frames = []) (hbranches : st'.branches = st.outermost.1)
    (hitems : ∀ above, st.outermost.2 = above ++ base → (st.frames = [] → above ≠ []) →
      ∃ above', above' ≠ [] ∧ st'.items = above' ++ base) : StartsWith base st' := by
  rw [StartsWith, outermost_of_nil hframes, hbranches]
  rcases h with ⟨hnil, above, heq, hne⟩ | h
  · obtain ⟨above', hne', heq'⟩ := hitems above heq hne
    exact Or.inl ⟨hnil, above', heq', fun _ => hne'⟩
  · exact Or.inr h

/-- At the top level, the current alternative is the last one so far, and the first one starts with
the pieces and goes on after them. -/
theorem StartsWith.getLast?_branches {base : List Piece} {st : State} (h : StartsWith base st)
    (hframes : st.frames = []) : ∃ above, above ≠ [] ∧
      (st.branch :: st.branches).getLast? = some (.concat (above ++ base).reverse) := by
  rw [StartsWith, outermost_of_nil hframes] at h
  rcases h with ⟨hnil, above, heq, hne⟩ | ⟨above, hne, heq⟩
  · refine ⟨above, hne hframes, ?_⟩
    dsimp only at hnil heq
    rw [hnil, branch, heq]
    rfl
  · refine ⟨above, hne, ?_⟩
    rw [List.getLast?_cons, heq]
    rfl

/-- What the first alternative starts with stays when something changes at the top level. -/
theorem StartsWith.change_outside {base : List Piece} {st st' : State} (h : StartsWith base st)
    (hframes : st.frames = []) (hchange : st.Change st') : StartsWith base st' := by
  have houter := outermost_of_nil hframes
  cases hchange with
  | push node depth isSetting flags leaf =>
      refine h.of_items hframes (by rw [houter]) ?_
      intro above heq _
      rw [houter] at heq
      exact ⟨_ :: above, by simp, by rw [List.cons_append, ← heq]⟩
  | again p items least most greedy last =>
      refine h.of_items hframes (by rw [houter]) ?_
      intro above heq hne
      rw [houter, last] at heq
      cases above with
      | nil => exact absurd rfl (hne hframes)
      | cons q above =>
          obtain ⟨-, rfl⟩ := List.cons.inj heq
          exact ⟨_ :: above, by simp, rfl⟩
  | opened capturing flags names groups name =>
      refine h.of_open ?_ (by simp [openGroup])
      rw [houter, outermost, openGroup, hframes]
      rfl
  | closed frame frames last =>
      rw [hframes] at last
      cases last
  | next =>
      have hframes' : st.nextBranch.frames = [] := hframes
      rw [StartsWith, outermost_of_nil hframes']
      exact Or.inr (h.getLast?_branches hframes)

/-- What the first alternative starts with stays when something changes inside a group. -/
theorem StartsWith.change_inside {base : List Piece} {st st' : State} (h : StartsWith base st)
    (hframes : st.frames ≠ []) (hchange : st.Change st') : StartsWith base st' := by
  cases hchange with
  | push node depth isSetting flags leaf =>
      exact h.of_open (outermost_of_getLast? rfl hframes) hframes
  | again p items least most greedy last =>
      exact h.of_open (outermost_of_getLast? rfl hframes) hframes
  | opened capturing flags names groups name =>
      refine h.of_open (outermost_of_getLast? ?_ hframes) (by simp [openGroup])
      rw [openGroup, List.getLast?_cons, List.getLast?_eq_some_getLast hframes]
      rfl
  | closed frame frames last =>
      by_cases hrest : frames = []
      · have houter : st.outermost = (frame.branches, frame.items) := by
          rw [outermost, last, hrest]
          rfl
        refine h.of_items hrest (by rw [houter]) ?_
        intro above heq _
        rw [houter] at heq
        exact ⟨_ :: above, by simp, by rw [List.cons_append, ← heq]⟩
      · refine h.of_open (outermost_of_getLast? ?_ hframes) hrest
        rw [last, List.getLast?_cons, List.getLast?_eq_some_getLast hrest]
        rfl
  | next => exact h.of_open (outermost_of_getLast? rfl hframes) hframes

/-- What the first alternative starts with stays. -/
theorem StartsWith.change {base : List Piece} {st st' : State} (h : StartsWith base st)
    (hchange : st.Change st') : StartsWith base st' := by
  by_cases hframes : st.frames = []
  · exact h.change_outside hframes hchange
  · exact h.change_inside hframes hchange

theorem StartsWith.changes {base : List Piece} {st st' : State} (h : StartsWith base st)
    (hchanges : Relation.ReflTransGen Change st st') : StartsWith base st' := by
  induction hchanges with
  | refl => exact h
  | tail _ hchange ih => exact ih.change hchange

/-- At the end, the first alternative is the pieces it starts with, and some more. -/
theorem StartsWith.alternatives {base : List Piece} {st : State} (h : StartsWith base st)
    (hframes : st.frames = []) :
    ∃ rest others, rest ≠ [] ∧ st.alternatives = .concat (base.reverse ++ rest) :: others := by
  obtain ⟨above, hne, hlast⟩ := h.getLast?_branches hframes
  obtain ⟨others, hothers⟩ := List.getLast?_eq_some_iff.1 hlast
  refine ⟨above.reverse, others.reverse, by simpa using hne, ?_⟩
  rw [State.alternatives, hothers]
  simp

end State

/-- The alternatives of an expression at the top level, as they are written, in order.  There are
none if it cannot be read. -/
def alternatives (source : List Char) : List Node :=
  match State.reached source.length {} source with
  | .error _ => []
  | .ok st => st.alternatives.map Piece.node

/-- What has been read is the choice between the alternatives. -/
theorem Node.eq_of_parse {cs : List Char} {n : Node} (h : Node.parse cs = .ok n) :
    alternatives cs = [n] ∨ (2 ≤ (alternatives cs).length ∧ n = .choice (alternatives cs)) := by
  obtain ⟨st, hreached, -, rfl⟩ := Node.exists_reached_of_parse h
  rw [alternatives, hreached]
  have hne : st.alternatives ≠ [] := by simp [State.alternatives]
  show st.alternatives.map Piece.node = [(Piece.choice st.alternatives).node] ∨
    2 ≤ (st.alternatives.map Piece.node).length ∧
      (Piece.choice st.alternatives).node = .choice (st.alternatives.map Piece.node)
  match st.alternatives, hne with
  | [p], _ => exact Or.inl rfl
  | p :: q :: ps, _ => exact Or.inr ⟨by simp, rfl⟩

end PathRouter.Regex

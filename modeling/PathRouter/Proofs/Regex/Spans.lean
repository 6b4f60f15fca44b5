import PathRouter.Proofs.Regex.Soundness

/-!
# Which part of a text an expression matches

`Node.Spans` says between which positions of a text an expression can match, with no word about
preference, marks and records.  A plan says the same: it has other loops, but they allow the same
numbers of rounds.

* `Node.Spans`, `Plan.Spans`, `Node.Matches` — what expressions and plans match;
* `Node.spans_planning` — a plan of an expression matches what the expression matches;
* `Plan.Leads.spans` — a plan leads only to places up to which it matches.
-/

namespace PathRouter.Regex

/-- A relation between positions, a number of times. -/
def Rounds (R : Nat → Nat → Prop) : Nat → Nat → Nat → Prop
  | 0, i, j => i = j
  | n + 1, i, j => ∃ m, R i m ∧ Rounds R n m j

theorem Rounds.add {R : Nat → Nat → Prop} {a b i j : Nat} :
    Rounds R (a + b) i j ↔ ∃ m, Rounds R a i m ∧ Rounds R b m j := by
  induction a generalizing i with
  | zero =>
      rw [Nat.zero_add]
      exact ⟨fun h => ⟨i, rfl, h⟩, by rintro ⟨m, rfl, h⟩; exact h⟩
  | succ a ih =>
      rw [Nat.succ_add]
      constructor
      · rintro ⟨m, hm, h⟩
        obtain ⟨e, he, h⟩ := ih.1 h
        exact ⟨e, ⟨m, hm, he⟩, h⟩
      · rintro ⟨e, ⟨m, hm, he⟩, h⟩
        exact ⟨m, hm, ih.2 ⟨e, he, h⟩⟩

theorem Rounds.one {R : Nat → Nat → Prop} {i j : Nat} : Rounds R 1 i j ↔ R i j :=
  ⟨by rintro ⟨m, h, rfl⟩; exact h, fun h => ⟨j, h, rfl⟩⟩

/-- One more round makes at most one more: a round first, or none. -/
theorem Rounds.exists_le_succ {R : Nat → Nat → Prop} {count i j : Nat} :
    (∃ n, n ≤ count + 1 ∧ Rounds R n i j) ↔
      (∃ m, R i m ∧ ∃ n, n ≤ count ∧ Rounds R n m j) ∨ i = j := by
  constructor
  · rintro ⟨n, hn, h⟩
    cases n with
    | zero => exact Or.inr h
    | succ n =>
        obtain ⟨m, hm, h⟩ := h
        exact Or.inl ⟨m, hm, n, Nat.le_of_succ_le_succ hn, h⟩
  · rintro (⟨m, hm, n, hn, h⟩ | rfl)
    · exact ⟨n + 1, Nat.succ_le_succ hn, m, hm, h⟩
    · exact ⟨0, Nat.zero_le _, rfl⟩

/-- A number of rounds, and then at most some more. -/
theorem Rounds.exists_between {R : Nat → Nat → Prop} {least more i j : Nat} :
    (∃ n, least ≤ n ∧ n ≤ least + more ∧ Rounds R n i j) ↔
      ∃ m, Rounds R least i m ∧ ∃ n, n ≤ more ∧ Rounds R n m j := by
  constructor
  · rintro ⟨n, hlow, hhigh, h⟩
    obtain ⟨n, rfl⟩ := Nat.exists_eq_add_of_le hlow
    obtain ⟨m, hm, h⟩ := Rounds.add.1 h
    exact ⟨m, hm, n, Nat.le_of_add_le_add_left hhigh, h⟩
  · rintro ⟨m, hm, n, hn, h⟩
    exact ⟨least + n, Nat.le_add_right least n, Nat.add_le_add_left hn least,
      Rounds.add.2 ⟨m, hm, h⟩⟩

/-- A number of rounds, and then at least one more. -/
theorem Rounds.exists_ge {R : Nat → Nat → Prop} {least i j : Nat} :
    (∃ n, least + 1 ≤ n ∧ Rounds R n i j) ↔
      ∃ m, Rounds R least i m ∧ ∃ n, Rounds R (n + 1) m j := by
  constructor
  · rintro ⟨n, hlow, h⟩
    obtain ⟨n, rfl⟩ := Nat.exists_eq_add_of_le hlow
    rw [Nat.add_assoc, Nat.add_comm 1 n] at h
    obtain ⟨m, hm, h⟩ := Rounds.add.1 h
    exact ⟨m, hm, n, h⟩
  · rintro ⟨m, hm, n, h⟩
    exact ⟨least + (n + 1), Nat.add_le_add_left (Nat.le_add_left 1 n) least,
      Rounds.add.2 ⟨m, hm, h⟩⟩

theorem Rounds.congr {R S : Nat → Nat → Prop} (h : ∀ i j, R i j ↔ S i j) {n i j : Nat} :
    Rounds R n i j ↔ Rounds S n i j := by
  obtain rfl : R = S := funext fun i => funext fun j => propext (h i j)
  exact Iff.rfl

/-- An expression matches the part of a text between two positions. -/
def Node.Spans (text : List Char) : Node → Nat → Nat → Prop
  | empty, i, j => i = j
  | set s, i, j => j = i + 1 ∧ ∃ c, text[i]? = some c ∧ s.contains c = true
  | anchor a, i, j => i = j ∧ a.holds (Place.nth text i) = true
  | seq l r, i, j => ∃ m, l.Spans text i m ∧ r.Spans text m j
  | alt l r, i, j => l.Spans text i j ∨ r.Spans text i j
  | rep least most _ body, i, j =>
    ∃ n, least ≤ n ∧ (∀ m, most = some m → n ≤ max least m) ∧ Rounds (body.Spans text) n i j
  | capture _ _ body, i, j => body.Spans text i j

/-- A plan matches the part of a text between two positions. -/
def Plan.Spans (text : List Char) : Plan → Nat → Nat → Prop
  | done, i, j => i = j
  | set s, i, j => j = i + 1 ∧ ∃ c, text[i]? = some c ∧ s.contains c = true
  | anchor a, i, j => i = j ∧ a.holds (Place.nth text i) = true
  | seq l r, i, j => ∃ m, l.Spans text i m ∧ r.Spans text m j
  | fork _ l r, i, j => l.Spans text i j ∨ r.Spans text i j
  | star _ _ body, i, j => ∃ n, Rounds (body.Spans text) n i j
  | again _ _ body, i, j => ∃ n, Rounds (body.Spans text) (n + 1) i j
  | record _ body, i, j => body.Spans text i j

/-- An expression matches some part of a text. -/
def Node.Matches (n : Node) (text : List Char) : Prop :=
  ∃ i j, i ≤ text.length ∧ n.Spans text i j

/-! ## Plans of expressions -/

namespace Planning

variable {text : List Char} {pl l r : Planning} {R S : Nat → Nat → Prop}

/-- Whatever its marks are, the plan matches between the positions of a relation. -/
def Amounts (text : List Char) (pl : Planning) (R : Nat → Nat → Prop) : Prop :=
  ∀ a i j, (pl a).1.Spans text i j ↔ R i j

theorem Amounts.done : Amounts text .done fun i j => i = j :=
  fun _ _ _ => Iff.rfl

theorem Amounts.seq (hl : Amounts text l R) (hr : Amounts text r S) :
    Amounts text (l.seq r) fun i j => ∃ m, R i m ∧ S m j := by
  intro a i j
  exact exists_congr fun m => and_congr (hl a i m) (hr _ m j)

theorem Amounts.fork (first : Bool) (hl : Amounts text l R) (hr : Amounts text r S) :
    Amounts text (.fork first l r) fun i j => R i j ∨ S i j := by
  intro a i j
  cases first with
  | true => exact or_congr (hl _ i j) (hr _ i j)
  | false => exact (or_congr (hr _ i j) (hl _ i j)).trans or_comm

theorem Amounts.copies (h : Amounts text pl R) (count : Nat) :
    Amounts text (.copies pl count) (Rounds R count) := by
  induction count with
  | zero => exact .done
  | succ count ih =>
      cases count with
      | zero => exact fun a i j => (h a i j).trans Rounds.one.symm
      | succ count => exact h.seq ih

theorem Amounts.atMost (greedy : Bool) (h : Amounts text pl R) (count : Nat) :
    Amounts text (.atMost greedy pl count) fun i j => ∃ n, n ≤ count ∧ Rounds R n i j := by
  induction count with
  | zero =>
      intro a i j
      refine ⟨fun h => ⟨0, Nat.le_refl 0, h⟩, ?_⟩
      rintro ⟨n, hn, h⟩
      obtain rfl := Nat.le_zero.1 hn
      exact h
  | succ count ih =>
      intro a i j
      refine Iff.trans ?_ Rounds.exists_le_succ.symm
      cases count with
      | zero =>
          refine (h.fork greedy .done a i j).trans (or_congr_left ?_)
          refine ⟨fun h => ⟨j, h, 0, Nat.le_refl 0, rfl⟩, ?_⟩
          rintro ⟨m, hm, n, hn, h⟩
          obtain rfl := Nat.le_zero.1 hn
          obtain rfl : m = j := h
          exact hm
      | succ count => exact (h.seq ih).fork greedy .done a i j

theorem Amounts.star (greedy : Bool) (h : Amounts text pl R) :
    Amounts text (.star greedy pl) fun i j => ∃ n, Rounds R n i j :=
  fun _ _ _ => exists_congr fun _ => Rounds.congr (h _)

theorem Amounts.again (greedy : Bool) (h : Amounts text pl R) :
    Amounts text (.again greedy pl) fun i j => ∃ n, Rounds R (n + 1) i j :=
  fun _ _ _ => exists_congr fun _ => Rounds.congr (h _)

theorem Amounts.record (name : Option String) (h : Amounts text pl R) :
    Amounts text (.record name pl) R := by
  cases name with
  | none => exact h
  | some name => exact fun a => h a

/-- Copies for the rounds that are needed, and optional ones for those that are allowed. -/
theorem Amounts.repeated_some (least most : Nat) (greedy neverEmpty : Bool)
    (h : Amounts text pl R) :
    Amounts text (.repeated least (some most) greedy neverEmpty pl) fun i j =>
      ∃ n, least ≤ n ∧ n ≤ max least most ∧ Rounds R n i j := by
  intro a i j
  cases least with
  | zero =>
      refine (h.atMost greedy most a i j).trans (exists_congr fun n => ?_)
      simp
  | succ least =>
      show (Plan.Spans text ((if least + 1 = most then _ else _ : Planning) a).1 i j) ↔ _
      split
      next heq =>
        subst heq
        refine (h.copies (least + 1) a i j).trans ⟨fun h => ⟨_, Nat.le_refl _, by simp, h⟩, ?_⟩
        rintro ⟨n, hlow, hhigh, h⟩
        rw [Nat.max_self] at hhigh
        obtain rfl := Nat.le_antisymm hhigh hlow
        exact h
      next hne =>
        have hmax : max (least + 1) most = least + 1 + (most - (least + 1)) := by omega
        rw [hmax]
        exact ((h.copies (least + 1)).seq (h.atMost greedy (most - (least + 1))) a i j).trans
          Rounds.exists_between.symm

/-- Copies for the rounds that are needed, and a loop. -/
theorem Amounts.repeated_none (least : Nat) (greedy neverEmpty : Bool) (h : Amounts text pl R) :
    Amounts text (.repeated least none greedy neverEmpty pl) fun i j =>
      ∃ n, least ≤ n ∧ Rounds R n i j := by
  intro a i j
  match least with
  | 0 =>
      cases neverEmpty with
      | true => exact (h.star greedy a i j).trans (exists_congr fun n => by simp)
      | false =>
          refine ((h.again greedy).fork greedy .done a i j).trans ?_
          constructor
          · rintro (⟨n, h⟩ | rfl)
            · exact ⟨n + 1, Nat.zero_le _, h⟩
            · exact ⟨0, Nat.zero_le _, rfl⟩
          · rintro ⟨n, -, h⟩
            cases n with
            | zero => exact Or.inr h
            | succ n => exact Or.inl ⟨n, h⟩
  | 1 =>
      refine (h.again greedy a i j).trans (Iff.trans ?_ Rounds.exists_ge.symm)
      refine ⟨fun h => ⟨i, rfl, h⟩, ?_⟩
      rintro ⟨m, rfl, h⟩
      exact h
  | least + 2 =>
      exact ((h.copies (least + 1)).seq (h.again greedy) a i j).trans Rounds.exists_ge.symm

theorem Amounts.repeated (least : Nat) (most : Option Nat) (greedy neverEmpty : Bool)
    (h : Amounts text pl R) :
    Amounts text (.repeated least most greedy neverEmpty pl) fun i j =>
      ∃ n, least ≤ n ∧ (∀ m, most = some m → n ≤ max least m) ∧ Rounds R n i j := by
  intro a i j
  cases most with
  | some most =>
      refine (h.repeated_some least most greedy neverEmpty a i j).trans (exists_congr fun n => ?_)
      simp
  | none =>
      refine (h.repeated_none least greedy neverEmpty a i j).trans (exists_congr fun n => ?_)
      simp

end Planning

/-- A plan of an expression matches what the expression matches. -/
theorem Node.spans_planning (text : List Char) (n : Node) :
    Planning.Amounts text n.planning (n.Spans text) := by
  induction n with
  | empty => exact fun _ _ _ => Iff.rfl
  | set s => exact fun _ _ _ => Iff.rfl
  | anchor a => exact fun _ _ _ => Iff.rfl
  | seq l r hl hr => exact hl.seq hr
  | alt l r hl hr => exact hl.fork true hr
  | rep least most greedy body h => exact h.repeated least most greedy _
  | capture index name body h => exact h.record name

/-! ## Places -/

/-- A place in a text, after a number of its characters, whatever has been recorded. -/
structure Place.At (text : List Char) (i : Nat) (p : Place) : Prop where
  /-- The position. -/
  position : p.position = i
  /-- The character before the place. -/
  before : p.before = (text.take i).getLast?
  /-- The text after the place. -/
  rest : p.rest = text.drop i

namespace Place

variable {text : List Char} {i : Nat} {p : Place}

theorem At.nth (text : List Char) (i : Nat) : At text i (nth text i) := ⟨rfl, rfl, rfl⟩

theorem At.after (h : At text i p) {c : Char} {rest : List Char} (hp : p.rest = c :: rest) :
    At text (i + 1) (p.after c rest) := by
  have hdrop : text.drop i = c :: rest := h.rest ▸ hp
  have hget : text[i]? = some c := by rw [← List.head?_drop, hdrop]; rfl
  refine ⟨congrArg (· + 1) h.position, ?_, ?_⟩
  · show some c = (text.take (i + 1)).getLast?
    rw [List.take_add_one, hget]
    simp
  · show rest = text.drop (i + 1)
    rw [← List.drop_drop, hdrop]
    rfl

theorem At.holds (h : At text i p) (a : Anchor) : a.holds p = a.holds (Place.nth text i) := by
  unfold Anchor.holds
  rw [h.before, h.rest]
  rfl

theorem At.getElem? (h : At text i p) {c : Char} {rest : List Char} (hp : p.rest = c :: rest) :
    text[i]? = some c := by
  rw [← List.head?_drop, ← h.rest, hp]
  rfl

end Place

/-- A plan leads only to places up to which it matches. -/
theorem Plan.Leads.spans {text : List Char} {plan : Plan} {p q : Place} (h : plan.Leads p q)
    {i : Nat} (hp : p.At text i) : ∃ j, q.At text j ∧ plan.Spans text i j := by
  induction h generalizing i with
  | done => exact ⟨i, hp, rfl⟩
  | set hrest hc => exact ⟨i + 1, hp.after hrest, rfl, _, hp.getElem? hrest, hc⟩
  | anchor ha => exact ⟨i, hp, rfl, hp.holds _ ▸ ha⟩
  | seq _ _ hl hr =>
      obtain ⟨m, hm, hl⟩ := hl hp
      obtain ⟨j, hj, hr⟩ := hr hm
      exact ⟨j, hj, m, hl, hr⟩
  | left _ ih =>
      obtain ⟨j, hj, h⟩ := ih hp
      exact ⟨j, hj, Or.inl h⟩
  | right _ ih =>
      obtain ⟨j, hj, h⟩ := ih hp
      exact ⟨j, hj, Or.inr h⟩
  | stop => exact ⟨i, hp, 0, rfl⟩
  | round _ _ hbody hrounds =>
      obtain ⟨m, hm, hbody⟩ := hbody hp
      obtain ⟨j, hj, n, hrounds⟩ := hrounds hm
      exact ⟨j, hj, n + 1, m, hbody, hrounds⟩
  | again _ _ hbody hrounds =>
      obtain ⟨m, hm, hbody⟩ := hbody hp
      obtain ⟨j, hj, n, hrounds⟩ := hrounds hm
      exact ⟨j, hj, n, m, hbody, hrounds⟩
  | record _ ih =>
      obtain ⟨j, hj, h⟩ := ih hp
      exact ⟨j, ⟨hj.position, hj.before, hj.rest⟩, h⟩

/-- If a search finds something, then the expression matches. -/
theorem Node.matches_of_search {n : Node} {text : List Char} (h : (n.search text).isSome = true) :
    n.Matches text := by
  obtain ⟨q, hq⟩ := Option.isSome_iff_exists.1 h
  obtain ⟨i, hi, hleads⟩ := Node.leads_of_search hq
  obtain ⟨j, -, hspans⟩ := hleads.spans (Place.At.nth text i)
  exact ⟨i, j, hi, (n.spans_planning text 0 i j).1 hspans⟩

end PathRouter.Regex

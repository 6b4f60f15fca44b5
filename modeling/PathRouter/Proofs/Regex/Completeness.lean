import PathRouter.Proofs.Regex.Marks

/-!
# Nothing is missed by a search

A search never takes up a marked place again, and what it has not taken up is not lost.  When a
part of the search fails, then from every mark it has left both ways on are blocked: they end
before the rest of the search begins, or at a mark (`Plan.Settled`).  Marks that are left later
change nothing about that.  So when the whole search has failed, no path leads from one mark past
all others to the end.

* `Plan.exhausts_run` — a part of a search that fails leaves marks from which nothing leads on;
* `Plan.blocked_of_spans` — where all marks are like that, nothing that matches gets past them;
* `Node.isSome_search_iff` — a search finds something exactly if the expression matches.
-/

namespace PathRouter.Regex

open Marks

/-! ## Blocked ways -/

namespace Plan

variable {text : List Char} {K : Marks → Nat → Prop} {m : Marks}

/-- What a failed search for a plan has made sure of, at a position: a way through the plan ends,
comes to a mark, or leads to where `K` holds. -/
def Blocked (text : List Char) : Plan → (Marks → Nat → Prop) → Marks → Nat → Prop
  | done, K => K
  | set s, K => fun m i => ∀ c, text[i]? = some c → s.contains c = true → K m (i + 1)
  | anchor a, K => fun m i => a.holds (Place.nth text i) = true → K m i
  | seq l r, K => l.Blocked text (r.Blocked text K)
  | fork n _ _, _ => Marked n
  | star n _ _, _ => Marked n
  | again n _ body, _ => body.Blocked text (Marked n)
  | record _ body, K => body.Blocked text K

/-- At a position, both ways from the mark with a number are blocked, if it is one of the plan. -/
def Settled (text : List Char) : Plan → (Marks → Nat → Prop) → Nat → Marks → Nat → Prop
  | done, _, _, _, _ | set _, _, _, _, _ | anchor _, _, _, _, _ => True
  | seq l r, K, k, m, i => l.Settled text (r.Blocked text K) k m i ∧ r.Settled text K k m i
  | fork n l r, K, k, m, i =>
    (k = n → l.Blocked text K m i ∧ r.Blocked text K m i) ∧ l.Settled text K k m i ∧
      r.Settled text K k m i
  | star n _ body, K, k, m, i | again n _ body, K, k, m, i =>
    (k = n → body.Blocked text (Marked n) m i ∧ K m i) ∧ body.Settled text (Marked n) k m i
  | record _ body, K, k, m, i => body.Settled text K k m i

theorem lasting_blocked (plan : Plan) (h : Lasting K) : Lasting (plan.Blocked text K) := by
  induction plan generalizing K with
  | done => exact h
  | set s => exact fun m m' i hm hblocked c hc hs => h m m' _ hm (hblocked c hc hs)
  | anchor a => exact fun m m' i hm hblocked ha => h m m' i hm (hblocked ha)
  | seq l r hl hr => exact hl (hr h)
  | fork n l r hl hr => exact lasting_marked n
  | star n greedy body hbody => exact lasting_marked n
  | again n greedy body hbody => exact hbody (lasting_marked n)
  | record name body hbody => exact hbody h

theorem lasting_loop {n k : Nat} {body : Plan} (h : Lasting K)
    (hbody : Lasting (body.Settled text (Marked n) k)) :
    Lasting fun m i => (k = n → body.Blocked text (Marked n) m i ∧ K m i) ∧
      body.Settled text (Marked n) k m i := by
  intro m m' i hm hsettled
  refine ⟨?_, hbody m m' i hm hsettled.2⟩
  intro e
  obtain ⟨hround, hstop⟩ := hsettled.1 e
  exact ⟨body.lasting_blocked (lasting_marked n) m m' i hm hround, h m m' i hm hstop⟩

theorem lasting_settled (plan : Plan) (h : Lasting K) (k : Nat) :
    Lasting (plan.Settled text K k) := by
  induction plan generalizing K with
  | done => exact fun _ _ _ _ h => h
  | set s => exact fun _ _ _ _ h => h
  | anchor a => exact fun _ _ _ _ h => h
  | seq l r hl hr =>
      exact fun m m' i hm hsettled => ⟨hl (r.lasting_blocked h) m m' i hm hsettled.1,
        hr h m m' i hm hsettled.2⟩
  | fork n l r hl hr =>
      intro m m' i hm hsettled
      refine ⟨?_, hl h m m' i hm hsettled.2.1, hr h m m' i hm hsettled.2.2⟩
      intro e
      obtain ⟨hleft, hright⟩ := hsettled.1 e
      exact ⟨l.lasting_blocked h m m' i hm hleft, r.lasting_blocked h m m' i hm hright⟩
  | star n greedy body hbody => exact lasting_loop h (hbody (lasting_marked n))
  | again n greedy body hbody => exact lasting_loop h (hbody (lasting_marked n))
  | record name body hbody => exact hbody h

/-- A mark of another part of the expression. -/
theorem settled_of_not_mem {plan : Plan} {k : Nat} (hk : k ∉ plan.marks) (i : Nat) :
    plan.Settled text K k m i := by
  induction plan generalizing K with
  | done => trivial
  | set s => trivial
  | anchor a => trivial
  | seq l r hl hr =>
      rw [marks, List.mem_append, not_or] at hk
      exact ⟨hl hk.1, hr hk.2⟩
  | fork n l r hl hr =>
      rw [marks, List.mem_cons, List.mem_append, not_or, not_or] at hk
      exact ⟨fun e => absurd e hk.1, hl hk.2.1, hr hk.2.2⟩
  | star n greedy body hbody =>
      rw [marks, List.mem_cons, not_or] at hk
      exact ⟨fun e => absurd e hk.1, hbody hk.2⟩
  | again n greedy body hbody =>
      rw [marks, List.mem_cons, not_or] at hk
      exact ⟨fun e => absurd e hk.1, hbody hk.2⟩
  | record name body hbody => exact hbody hk

end Plan

/-! ## Failed searches -/

/-- What a search that fails does to the marks: it only leaves new ones, and those are settled. -/
structure Search.Settles (S : Nat → Marks → Nat → Prop) (m m' : Marks) : Prop where
  /-- No mark is taken away. -/
  within : m.Within m'
  /-- New marks are settled. -/
  settled : ∀ k j, m'.contains (k, j) = true → m.contains (k, j) = true ∨ S k m' j

/-- From a position on, and with some marks, the rest of a search fails only where `K` holds then,
and leaves only marks that are settled. -/
def Search.Exhausts {α : Type} (text : List Char) (S : Nat → Marks → Nat → Prop) (low : Nat)
    (base : Marks) (K : Marks → Nat → Prop) (k : Place → Search α) : Prop :=
  ∀ p i m m', p.At text i → low ≤ i → i ≤ text.length → base.Within m → k p m = (none, m') →
    Settles S m m' ∧ K m' i

variable {α : Type} {text : List Char} {S : Nat → Marks → Nat → Prop} {K : Marks → Nat → Prop}
  {m m' : Marks}

namespace Search

theorem Settles.refl (S : Nat → Marks → Nat → Prop) (m : Marks) : Settles S m m :=
  ⟨.refl m, fun _ _ h => Or.inl h⟩

theorem Settles.trans {m'' : Marks} (hS : ∀ k, Lasting (S k)) (h : Settles S m m')
    (h' : Settles S m' m'') : Settles S m m'' where
  within := h.within.trans h'.within
  settled k j hk := by
    rcases h'.settled k j hk with hk | hk
    · rcases h.settled k j hk with hk | hk
      · exact Or.inl hk
      · exact Or.inr (hS k m' m'' j h'.within hk)
    · exact Or.inr hk

theorem of_orElse_eq_none {a b : Search α} (h : orElse a b m = (none, m')) :
    ∃ m₁, a m = (none, m₁) ∧ b m₁ = (none, m') := by
  rw [orElse] at h
  split at h
  · cases h
  next heq => exact ⟨_, heq, h⟩

/-- A mark is settled once both ways on have been tried. -/
theorem settles_mark {n i : Nat} {first : Bool} {a b : Search α} {A B : Marks → Nat → Prop}
    (hS : ∀ k, Lasting (S k)) (hA : Lasting A) (hB : Lasting B)
    (ha : ∀ m₁ m₂, Marks.Within (m.insert (n, i)) m₁ → a m₁ = (none, m₂) →
      Settles S m₁ m₂ ∧ A m₂ i)
    (hb : ∀ m₁ m₂, Marks.Within (m.insert (n, i)) m₁ → b m₁ = (none, m₂) →
      Settles S m₁ m₂ ∧ B m₂ i)
    (hs : ∀ m, A m i → B m i → S n m i) (h : mark (n, i) first a b m = (none, m')) :
    Settles S m m' ∧ Marked n m' i := by
  rw [mark] at h
  split at h
  next hmarked =>
    cases h
    exact ⟨.refl S _, hmarked⟩
  · have hboth : Settles S (m.insert (n, i)) m' ∧ A m' i ∧ B m' i := by
      cases first with
      | true =>
          obtain ⟨m₁, h₁, h₂⟩ := of_orElse_eq_none h
          obtain ⟨hsettles, hA₁⟩ := ha _ _ (.refl _) h₁
          obtain ⟨hsettles', hB'⟩ := hb _ _ hsettles.within h₂
          exact ⟨hsettles.trans hS hsettles', hA _ _ _ hsettles'.within hA₁, hB'⟩
      | false =>
          obtain ⟨m₁, h₁, h₂⟩ := of_orElse_eq_none h
          obtain ⟨hsettles, hB₁⟩ := hb _ _ (.refl _) h₁
          obtain ⟨hsettles', hA'⟩ := ha _ _ hsettles.within h₂
          exact ⟨hsettles.trans hS hsettles', hA', hB _ _ _ hsettles'.within hB₁⟩
    obtain ⟨hsettles, hA', hB'⟩ := hboth
    have hmarked : Marked n m' i := hsettles.within _ ((contains_insert_iff _ _ _).2 (Or.inl rfl))
    refine ⟨⟨(within_insert m _).trans hsettles.within, fun k j hk => ?_⟩, hmarked⟩
    rcases hsettles.settled k j hk with hk | hk
    · rcases (contains_insert_iff _ _ _).1 hk with e | hk
      · cases e
        exact Or.inr (hs m' hA' hB')
      · exact Or.inl hk
    · exact Or.inr hk

theorem Exhausts.of_le {low low' : Nat} {base base' : Marks} {k : Place → Search α}
    (h : Exhausts text S low base K k) (hlow : low ≤ low') (hbase : base.Within base') :
    Exhausts text S low' base' K k :=
  fun p i m m' hp hi hlength hm hk =>
    h p i m m' hp (Nat.le_trans hlow hi) hlength (hbase.trans hm) hk

/-- With fuel for every position that is not marked yet, the rounds of a loop come to an end only
because of marks. -/
theorem exhausts_rounds (hS : ∀ k, Lasting (S k)) {n : Nat} {greedy : Bool} {body : Plan}
    (hbody : ∀ {low : Nat} {base : Marks} {k : Place → Search α}, Exhausts text S low base
      (Marked n) k → Exhausts text S low base (body.Blocked text (Marked n)) (body.run k))
    (hK : Lasting K) (hs : ∀ m i, body.Blocked text (Marked n) m i → K m i → S n m i)
    {fuel low : Nat} {base : Marks} {k : Place → Search α} (hk : Exhausts text S low base K k)
    (hfuel : (base.free text n low).card ≤ fuel) :
    Exhausts text S low base (Marked n) (Way.rounds n greedy body.run fuel k) := by
  induction fuel generalizing low base with
  | zero =>
      intro p i m m' hp hlow hi hbase h
      cases h
      refine ⟨.refl S _, hbase _ ?_⟩
      have hnone : i ∉ base.free text n low := by
        rw [Finset.card_eq_zero.1 (Nat.le_zero.1 hfuel)]
        exact Finset.notMem_empty i
      simpa [Marks.mem_free, hlow, hi] using hnone
  | succ fuel ih =>
      intro p i m m' hp hlow hi hbase h
      rw [Way.rounds, hp.position] at h
      by_cases hmarked : m.contains (n, i) = true
      · rw [mark, if_pos hmarked] at h
        cases h
        exact ⟨.refl S _, hmarked⟩
      · have hbase' : base.Within (m.insert (n, i)) := hbase.trans (within_insert m _)
        have hfewer :=
          Nat.le_of_lt_succ (Nat.lt_of_lt_of_le (card_free_lt hlow hi hbase hmarked) hfuel)
        have hrounds := ih (hk.of_le hlow hbase') hfewer
        refine settles_mark hS (body.lasting_blocked (lasting_marked n)) hK ?_ ?_ (hs · i) h
        · intro m₁ m₂ hm₁ h₁
          exact hbody hrounds p i m₁ m₂ hp (Nat.le_refl i) hi hm₁ h₁
        · intro m₁ m₂ hm₁ h₁
          exact hk p i m₁ m₂ hp hlow hi (hbase'.trans hm₁) h₁

end Search

open Search

namespace Plan

variable {low : Nat} {base : Marks} {k : Place → Search α}

theorem exhausts_set (s : CharSet) (hk : Exhausts text S low base K k) :
    Exhausts text S low base ((set s).Blocked text K) ((set s).run k) := by
  intro p i m m' hp hlow hi hbase h
  rw [run] at h
  split at h
  next hrest =>
    cases h
    refine ⟨.refl S m, ?_⟩
    intro c hc _
    rw [← List.head?_drop, ← hp.rest, hrest] at hc
    cases hc
  next c rest hrest =>
    have hget := hp.getElem? hrest
    split at h
    next hc =>
      have hi' : i + 1 ≤ text.length := (List.getElem?_eq_some_iff.1 hget).1
      obtain ⟨hsettles, hK'⟩ := hk _ (i + 1) m m' (hp.after hrest) (by omega) hi' hbase h
      exact ⟨hsettles, fun _ _ _ => hK'⟩
    next hc =>
      cases h
      refine ⟨.refl S m, fun d hd hs => absurd hs ?_⟩
      obtain rfl : c = d := Option.some.inj (hget.symm.trans hd)
      exact hc

theorem exhausts_anchor (a : Anchor) (hk : Exhausts text S low base K k) :
    Exhausts text S low base ((anchor a).Blocked text K) ((anchor a).run k) := by
  intro p i m m' hp hlow hi hbase h
  rw [run, hp.holds] at h
  split at h
  next ha =>
    obtain ⟨hsettles, hK'⟩ := hk p i m m' hp hlow hi hbase h
    exact ⟨hsettles, fun _ => hK'⟩
  next ha =>
    cases h
    exact ⟨.refl S m, fun ha' => absurd ha' ha⟩

theorem exhausts_fork (hS : ∀ k, Lasting (S k)) (hK : Lasting K) {n : Nat} {l r : Plan}
    (hleft : Exhausts text S low base (l.Blocked text K) (l.run k))
    (hright : Exhausts text S low base (r.Blocked text K) (r.run k))
    (hs : ∀ m i, l.Blocked text K m i → r.Blocked text K m i → S n m i) :
    Exhausts text S low base (Marked n) ((fork n l r).run k) := by
  intro p i m m' hp hlow hi hbase h
  rw [run, hp.position] at h
  have hbase' : base.Within (m.insert (n, i)) := hbase.trans (within_insert m _)
  have hl : Lasting (l.Blocked text K) := l.lasting_blocked hK
  have hr : Lasting (r.Blocked text K) := r.lasting_blocked hK
  refine settles_mark hS hl hr ?_ ?_ (hs · i) h
  · exact fun m₁ m₂ hm₁ h₁ => hleft p i m₁ m₂ hp hlow hi (hbase'.trans hm₁) h₁
  · exact fun m₁ m₂ hm₁ h₁ => hright p i m₁ m₂ hp hlow hi (hbase'.trans hm₁) h₁

/-- What is settled in a loop: the marks of a round, and its own, if both ways on are blocked
there. -/
theorem of_settled_loop {n : Nat} {body : Plan} (hn : n ∉ body.marks)
    (hsettled : ∀ k ∈ n :: body.marks, ∀ m i, (k = n → body.Blocked text (Marked n) m i ∧ K m i) ∧
      body.Settled text (Marked n) k m i → S k m i) :
    (∀ k ∈ body.marks, ∀ m i, body.Settled text (Marked n) k m i → S k m i) ∧
      ∀ m i, body.Blocked text (Marked n) m i → K m i → S n m i := by
  constructor
  · intro k hk m i h
    exact hsettled k (List.mem_cons_of_mem n hk) m i ⟨fun e => absurd (e ▸ hk) hn, h⟩
  · intro m i hround hstop
    exact hsettled n List.mem_cons_self m i ⟨fun _ => ⟨hround, hstop⟩, settled_of_not_mem hn i⟩

/-- A loop has fuel for all positions that are left. -/
theorem exhausts_loop (hS : ∀ k, Lasting (S k)) {n : Nat} {greedy : Bool} {body : Plan}
    (hround : ∀ {low : Nat} {base : Marks} {k : Place → Search α}, Exhausts text S low base
      (Marked n) k → Exhausts text S low base (body.Blocked text (Marked n)) (body.run k))
    (hK : Lasting K) (hs : ∀ m i, body.Blocked text (Marked n) m i → K m i → S n m i) {i : Nat}
    (hk : Exhausts text S i m K k) {p : Place} (hp : p.At text i) (hi : i ≤ text.length) :
    Exhausts text S i m (Marked n) (Way.rounds n greedy body.run (p.rest.length + 1) k) :=
  exhausts_rounds hS hround hK hs hk (Marks.card_free_le hp hi m)

/-- A search for a plan fails only where the plan is blocked, and leaves only marks that are
settled. -/
theorem exhausts_run {plan : Plan} (hS : ∀ k, Lasting (S k)) (hK : Lasting K)
    (hnodup : plan.marks.Nodup)
    (hsettled : ∀ k ∈ plan.marks, ∀ m i, plan.Settled text K k m i → S k m i)
    (hk : Exhausts text S low base K k) :
    Exhausts text S low base (plan.Blocked text K) (plan.run k) := by
  induction plan generalizing K low base k with
  | done => exact hk
  | set s => exact exhausts_set s hk
  | anchor a => exact exhausts_anchor a hk
  | seq l r hl hr =>
      rw [marks, List.nodup_append] at hnodup
      obtain ⟨hnodupl, hnodupr, hne⟩ := hnodup
      have hright := hr hK hnodupr (fun k hk m i h => hsettled k (List.mem_append_right _ hk) m i
        ⟨settled_of_not_mem (fun hk' => hne k hk' k hk rfl) i, h⟩) hk
      exact hl (r.lasting_blocked hK) hnodupl (fun k hk m i h =>
        hsettled k (List.mem_append_left _ hk) m i
        ⟨h, settled_of_not_mem (fun hk' => hne k hk k hk' rfl) i⟩) hright
  | fork n l r hl hr =>
      rw [marks, List.nodup_cons, List.mem_append, not_or, List.nodup_append] at hnodup
      obtain ⟨⟨hnl, hnr⟩, hnodupl, hnodupr, hne⟩ := hnodup
      have hleft := hl hK hnodupl (fun k hk m i h => hsettled k (by simp [marks, hk]) m i
        ⟨fun e => absurd (e ▸ hk) hnl, h, settled_of_not_mem (fun hk' => hne k hk k hk' rfl) i⟩) hk
      have hright := hr hK hnodupr (fun k hk m i h => hsettled k (by simp [marks, hk]) m i
        ⟨fun e => absurd (e ▸ hk) hnr, settled_of_not_mem (fun hk' => hne k hk' k hk rfl) i, h⟩) hk
      exact exhausts_fork hS hK hleft hright fun m i hl' hr' =>
        hsettled n (List.mem_cons_self ..) m i
        ⟨fun _ => ⟨hl', hr'⟩, settled_of_not_mem hnl i, settled_of_not_mem hnr i⟩
  | star n greedy body hbody =>
      rw [marks, List.nodup_cons] at hnodup
      obtain ⟨hinner, hown⟩ := of_settled_loop hnodup.1 hsettled
      intro p i m m' hp hlow hi hbase h
      exact exhausts_loop hS (hbody (lasting_marked n) hnodup.2 hinner) hK hown
        (hk.of_le hlow hbase) hp hi
        p i m m' hp (Nat.le_refl i) hi (.refl m) h
  | again n greedy body hbody =>
      rw [marks, List.nodup_cons] at hnodup
      obtain ⟨hinner, hown⟩ := of_settled_loop hnodup.1 hsettled
      have hround : ∀ {low : Nat} {base : Marks} {k : Place → Search α},
          Exhausts text S low base (Marked n) k →
            Exhausts text S low base (body.Blocked text (Marked n)) (body.run k) :=
        hbody (lasting_marked n) hnodup.2 hinner
      intro p i m m' hp hlow hi hbase h
      exact hround (exhausts_loop hS hround hK hown (hk.of_le hlow hbase) hp hi)
        p i m m' hp (Nat.le_refl i) hi (.refl m) h
  | record name body hbody =>
      intro p i m m' hp hlow hi hbase h
      have hrecord : Exhausts text S low base K fun q => k (q.record p name) :=
        fun q j m m' hq => hk (q.record p name) j m m' ⟨hq.position, hq.before, hq.rest⟩
      exact hbody hK hnodup hsettled hrecord p i m m' hp hlow hi hbase h

/-! ## Where all marks are settled -/

theorem blocked_of_rounds {n count i j : Nat} {body : Plan}
    (hbody : ∀ {i j}, body.Blocked text (Marked n) m i → body.Spans text i j → Marked n m j)
    (hsettled : ∀ i, Marked n m i → body.Blocked text (Marked n) m i ∧ K m i) (hi : Marked n m i)
    (h : Rounds (body.Spans text) count i j) : K m j := by
  induction count generalizing i with
  | zero =>
      obtain rfl : i = j := h
      exact (hsettled i hi).2
  | succ count ih =>
      obtain ⟨e, hround, h⟩ := h
      exact ih (hbody (hsettled i hi).1 hround) h

/-- Where all marks are settled, a way through a plan that is blocked leads only to where `K`
holds. -/
theorem blocked_of_spans {plan : Plan} {i j : Nat}
    (hsettled : ∀ k i, Marked k m i → plan.Settled text K k m i)
    (hblocked : plan.Blocked text K m i) (h : plan.Spans text i j) : K m j := by
  induction plan generalizing K i j with
  | done =>
      obtain rfl : i = j := h
      exact hblocked
  | set s =>
      obtain ⟨rfl, c, hc, hs⟩ := h
      exact hblocked c hc hs
  | anchor a =>
      obtain ⟨rfl, ha⟩ := h
      exact hblocked ha
  | seq l r hl hr =>
      obtain ⟨e, hleft, hright⟩ := h
      exact hr (fun k i hk => (hsettled k i hk).2)
        (hl (fun k i hk => (hsettled k i hk).1) hblocked hleft)
        hright
  | fork n l r hl hr =>
      obtain ⟨hleft, hright⟩ := (hsettled n i hblocked).1 rfl
      rcases h with h | h
      · exact hl (fun k i hk => (hsettled k i hk).2.1) hleft h
      · exact hr (fun k i hk => (hsettled k i hk).2.2) hright h
  | star n greedy body hbody =>
      obtain ⟨count, h⟩ := h
      exact blocked_of_rounds (hbody fun k i hk => (hsettled k i hk).2)
        (fun i hi => (hsettled n i hi).1 rfl) hblocked h
  | again n greedy body hbody =>
      obtain ⟨count, e, hround, h⟩ := h
      have hbody' : ∀ {i j}, body.Blocked text (Marked n) m i → body.Spans text i j →
          Marked n m j :=
        hbody fun k i hk => (hsettled k i hk).2
      exact blocked_of_rounds hbody' (fun i hi => (hsettled n i hi).1 rfl)
        (hbody' hblocked hround) h
  | record name body hbody => exact hbody hsettled hblocked h

/-! ## Searches through a whole text -/

theorem settles_searchAt {plan : Plan} (hnodup : plan.marks.Nodup) {i : Nat} (hi : i ≤ text.length)
    (h : plan.run (fun q marks => (some q, marks)) (Place.nth text i) m = (none, m')) :
    Settles (plan.Settled text fun _ _ => False) m m' ∧
      plan.Blocked text (fun _ _ => False) m' i := by
  have hfalse : Lasting fun _ _ => False := fun _ _ _ _ h => h
  have hfound : Exhausts text (plan.Settled text fun _ _ => False) i m (fun _ _ => False)
      fun q marks => (some q, marks) := fun _ _ _ _ _ _ _ _ h => by cases h
  exact exhausts_run (plan.lasting_settled hfalse) hfalse hnodup (fun _ _ _ _ h =>
    h) hfound _ i m m'
    (Place.At.nth text i) (Nat.le_refl i) hi (.refl m) h

/-- A search through a text that fails has been through all of it. -/
theorem settles_searchFrom {plan : Plan} (hnodup : plan.marks.Nodup) {u v : List Char}
    (h : plan.searchFrom u.length u.getLast? v m = (none, m')) :
    Settles (plan.Settled (u ++ v) fun _ _ => False) m m' ∧
      ∀ i, u.length ≤ i → i ≤ (u ++ v).length → plan.Blocked (u ++ v) (fun _ _ => False) m' i := by
  have hfalse : Lasting fun _ _ => False := fun _ _ _ _ h => h
  induction v generalizing u m with
  | nil =>
      rw [searchFrom, ← Place.nth_append] at h
      split at h
      · cases h
      next m₁ heq =>
        cases h
        obtain ⟨hsettles, hblocked⟩ := settles_searchAt hnodup (by simp) heq
        refine ⟨hsettles, ?_⟩
        intro i hlow hi
        rw [List.append_nil] at hi
        obtain rfl := Nat.le_antisymm hi hlow
        exact hblocked
  | cons c rest ih =>
      rw [searchFrom, ← Place.nth_append] at h
      split at h
      · cases h
      next m₁ heq =>
        obtain ⟨hsettles, hblocked⟩ := settles_searchAt hnodup (by simp) heq
        have hnext : plan.searchFrom (u ++ [c]).length (u ++ [c]).getLast? rest m₁ =
            (none, m') := by
          rw [List.length_append, List.getLast?_concat]
          exact h
        obtain ⟨hsettles', hblocked'⟩ := ih hnext
        rw [List.append_assoc] at hsettles' hblocked'
        refine ⟨hsettles.trans (plan.lasting_settled hfalse) hsettles', ?_⟩
        intro i hlow hi
        rcases Nat.eq_or_lt_of_le hlow with rfl | hlow
        · exact plan.lasting_blocked hfalse _ _ _ hsettles'.within hblocked
        · exact hblocked' i (by rw [List.length_append]; exact hlow) hi

end Plan

/-- A search finds something exactly if the expression matches some part of the text. -/
theorem Node.isSome_search_iff {n : Node} {text : List Char} :
    (n.search text).isSome = true ↔ n.Matches text := by
  refine ⟨matches_of_search, ?_⟩
  rintro ⟨i, j, hi, h⟩
  by_contra hnone
  rw [Bool.not_eq_true, Option.isSome_eq_false_iff, Option.isNone_iff_eq_none] at hnone
  obtain ⟨m, hm⟩ :
      ∃ m, n.plan.searchFrom ([] : List Char).length ([] : List Char).getLast? text ∅ =
      (none, m) := ⟨_, Prod.ext hnone rfl⟩
  obtain ⟨hsettles, hblocked⟩ := Plan.settles_searchFrom (n.fresh_planning.nodup 0) hm
  refine Plan.blocked_of_spans (fun k j hk => ?_) (hblocked i (Nat.zero_le i) hi)
    ((n.spans_planning text 0 i j).2 h)
  -- there were no marks at the start
  rcases hsettles.settled k j hk with hk | hk
  · cases hk
  · exact hk

end PathRouter.Regex

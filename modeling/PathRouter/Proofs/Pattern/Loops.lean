import PathRouter.Proofs.Pattern.Filling
import PathRouter.Proofs.Regex.Walking

/-!
# Searching with loops

The search for the tree of a template finds the longest filling of the text, and fails if there is
none. The search leaves marks and does not look twice at a marked place, so this is said together
with the reason why no filling is lost that way: from the marked places on, everything has been
tried in vain.

* `Finds` — what a search for the rest of a template has to do, with `Fruitless` standing for what
  the marks left by it are known to mean;
* `finds_end`, `finds_char` — the end of the text and literal characters;
* `answersRun_rounds` — rounds of a loop of characters in front of such a search find the longest
  run of characters after which the template can be filled.
-/

namespace PathRouter

open Regex

namespace Template

/-- What a search records for a filling, newest first. -/
def recorded : Template → List (List Char) → List (String × String)
  | [], _ => []
  | .char _ :: t, vs => recorded t vs
  | .placeholder p :: t, vs =>
    recorded t vs.tail ++ [(String.ofList p.name, String.ofList (vs.headD []))]

/-- What a search for a template answers at a place: the longest filling of what is left of the
text, or nothing if there is none.  In the second case the marks it leaves are fruitless, and those
with numbers below `least` are as they were. -/
def Answers (least : Nat) (t : Template) (Fruitless : Marks → Prop) (q : Place) (m : Marks)
    (r : Option Place × Marks) : Prop :=
  (∃ vs e, r.1 = some e ∧ IsLongest t vs q.rest ∧ e.found = recorded t vs ++ q.found) ∨
    (r.1 = none ∧ (∀ vs, ¬ Fills t vs q.rest) ∧ Fruitless r.2 ∧
      ∀ x : Nat × Nat, x.1 < least → r.2.contains x = m.contains x)

/-- A search finds the longest filling of what is left of a text at every place, as long as all
marks with numbers from `least` on are fruitless. -/
structure Finds (text : List Char) (least : Nat) (t : Template) (Fruitless : Marks → Prop)
    (k : Place → Search Place) : Prop where
  /-- Marks with smaller numbers mean nothing to the search. -/
  congr : ∀ m m' : Marks, (∀ x : Nat × Nat, least ≤ x.1 → m.contains x = m'.contains x) →
    Fruitless m → Fruitless m'
  /-- Without marks nothing has been tried in vain. -/
  fresh : Fruitless ∅
  /-- The answer. -/
  answers : ∀ (q : Place) (m : Marks), q.On text → Fruitless m →
    Answers least t Fruitless q m (k q m)

/-! ## The end of a template and its literal characters -/

theorem finds_end (text : List Char) (least : Nat) :
    Finds text least [] (fun _ => True)
      ((Plan.anchor .textEnd).run fun q marks => (some q, marks)) where
  congr _ _ _ h := h
  fresh := trivial
  answers q m hq _ := by
    cases hrest : q.rest with
    | nil =>
        refine Or.inl ⟨[], q, ?_, by rw [hrest]; exact isLongest_nil, rfl⟩
        rw [Plan.run, Anchor.holds, hrest]
        rfl
    | cons c cs =>
        rw [Plan.run, Anchor.holds, hrest]
        refine Or.inr ⟨rfl, ?_, trivial, fun _ _ => rfl⟩
        intro vs h
        rw [hrest] at h
        exact absurd (fills_nil_iff.1 h).2 (by simp)

theorem finds_char {text : List Char} {least : Nat} {t : Template} {F : Marks → Prop}
    {k : Place → Search Place} (hk : Finds text least t F k) (c : Char) :
    Finds text least (.char c :: t) F ((Plan.set (.single c)).run k) where
  congr := hk.congr
  fresh := hk.fresh
  answers q m hq hm := by
    cases hrest : q.rest with
    | nil =>
        rw [Plan.run_set_nil hrest m]
        refine Or.inr ⟨rfl, ?_, hm, fun _ _ => rfl⟩
        intro vs h
        obtain ⟨cs', e, -⟩ := fills_char_iff.1 h
        exact absurd (hrest.symm.trans e) (by simp)
    | cons d cs =>
        rw [Plan.run_set_cons hrest, CharSet.contains_single]
        by_cases hd : d = c
        · subst hd
          rw [decide_eq_true rfl, if_pos rfl]
          rcases hk.answers _ m (hq.after hrest) hm with ⟨vs, e, hrun, hvs,
            hfound⟩ | ⟨hrun, hno, hF⟩
          · exact Or.inl ⟨vs, e, hrun, by rw [hrest]; exact hvs.char d, hfound⟩
          · refine Or.inr ⟨hrun, ?_, hF⟩
            intro vs h
            obtain ⟨cs', e, h⟩ := fills_char_iff.1 h
            exact hno vs ((List.cons.inj (hrest.symm.trans e)).2 ▸ h)
        · rw [decide_eq_false hd, if_neg Bool.false_ne_true]
          refine Or.inr ⟨rfl, ?_, hm, fun _ _ => rfl⟩
          intro vs h
          obtain ⟨cs', e, -⟩ := fills_char_iff.1 h
          exact hd (List.cons.inj (hrest.symm.trans e)).1

/-! ## Loops -/

/-- Nothing can come of going on with characters of `s` and then the template from a position of
the text. -/
def Barren (text : List Char) (t : Template) (s : CharSet) (position : Nat) : Prop :=
  ∀ v rest vs, text.drop position = v ++ rest → (∀ c ∈ v, s.contains c = true) → ¬ Fills t vs rest

/-- Of the texts of characters of `s` that `cs` starts with, `v` is the longest one after which the
template can be filled, and `vs` is the longest filling there. -/
structure IsLongestRun (t : Template) (s : CharSet) (cs v : List Char) (vs : List (List Char)) :
    Prop where
  /-- The characters are in the set. -/
  all : ∀ c ∈ v, s.contains c = true
  /-- What comes after them. -/
  isLongest : ∃ rest, cs = v ++ rest ∧ IsLongest t vs rest
  /-- There is no longer one. -/
  max : ∀ w rest ws, cs = w ++ rest → (∀ c ∈ w, s.contains c = true) → v.length < w.length →
    ¬ Fills t ws rest

/-- A longest run after one character is a longest run with it. -/
theorem IsLongestRun.cons {t : Template} {s : CharSet} {c : Char} {cs v : List Char}
    {vs : List (List Char)} (hc : s.contains c = true) (h : IsLongestRun t s cs v vs) :
    IsLongestRun t s (c :: cs) (c :: v) vs where
  all := List.forall_mem_cons.2 ⟨hc, h.all⟩
  isLongest := by
    obtain ⟨rest, rfl, hvs⟩ := h.isLongest
    exact ⟨rest, rfl, hvs⟩
  max w rest ws e hw hlt := by
    cases w with
    | nil => simp at hlt
    | cons d w =>
        exact h.max w rest ws (List.cons.inj e).2 (List.forall_mem_cons.1 hw).2
          (by simpa using hlt)

/-- Rounds of a loop from a position on have turned the marks `m` into `m'`, and nothing came of
it. -/
structure Tried (text : List Char) (number : Nat) (t : Template) (Fruitless : Marks → Prop)
    (s : CharSet) (position : Nat) (m m' : Marks) : Prop where
  /-- The marks of the search for the template are fruitless. -/
  fruitless : Fruitless m'
  /-- Nothing can come of going on from the marked positions after this one. -/
  barren : ∀ i, position < i → m'.contains (number, i) = true → Barren text t s i
  /-- The marks before the position are as they were. -/
  earlier : ∀ i, i < position → m'.contains (number, i) = m.contains (number, i)
  /-- Marks with smaller numbers are as they were. -/
  low : ∀ x : Nat × Nat, x.1 < number → m'.contains x = m.contains x

section

variable {text : List Char} {number position : Nat} {t : Template} {F : Marks → Prop} {s : CharSet}
  {k : Place → Search Place} {m m' m'' : Marks}

theorem Tried.refl (hF : F m)
    (hbarren : ∀ i, position < i → m.contains (number, i) = true → Barren text t s i) :
    Tried text number t F s position m m :=
  ⟨hF, hbarren, fun _ _ => rfl, fun _ _ => rfl⟩

/-- The mark of the position itself tells nothing about the places after it. -/
theorem Tried.insert (hk : Finds text (number + 1) t F k) (hF : F m)
    (hbarren : ∀ i, position < i → m.contains (number, i) = true → Barren text t s i) :
    Tried text number t F s position m (m.insert (number, position)) := by
  have hother : ∀ x : Nat × Nat, x ≠ (number, position) →
      (m.insert (number, position)).contains x = m.contains x :=
    fun x hx => Marks.contains_insert_of_ne (Ne.symm hx)
  refine ⟨hk.congr m _ (fun x hx => (hother x ?_).symm) hF, fun i hi hmark => ?_, fun i hi => ?_,
    fun x hx => hother x ?_⟩
  · rintro rfl
    exact Nat.not_succ_le_self number hx
  · rw [hother _ (by simp; omega)] at hmark
    exact hbarren i hi hmark
  · exact hother _ (by simp; omega)
  · rintro rfl
    exact Nat.lt_irrefl _ hx

/-- First the rounds from the next position on, after which nothing can come of going on from
there. -/
theorem Tried.trans (h : Tried text number t F s position m m')
    (h' : Tried text number t F s (position + 1) m' m'') (hnext : Barren text t s (position + 1)) :
    Tried text number t F s position m m'' where
  fruitless := h'.fruitless
  barren i hi hmark := by
    rcases Nat.lt_or_eq_of_le (Nat.succ_le_of_lt hi) with hlt | rfl
    · exact h'.barren i hlt hmark
    · exact hnext
  earlier i hi := (h'.earlier i (Nat.lt_succ_of_lt hi)).trans (h.earlier i hi)
  low x hx := (h'.low x hx).trans (h.low x hx)

/-- Then the search for the template, which leaves the marks of the loop alone. -/
theorem Tried.keep (h : Tried text number t F s position m m') (hF : F m'')
    (hsame : ∀ x : Nat × Nat, x.1 < number + 1 → m''.contains x = m'.contains x) :
    Tried text number t F s position m m'' where
  fruitless := hF
  barren i hi hmark := h.barren i hi (hsame (number, i) (Nat.lt_succ_self number) ▸ hmark)
  earlier i hi := (hsame (number, i) (Nat.lt_succ_self number)).trans (h.earlier i hi)
  low x hx := (hsame x (Nat.lt_succ_of_lt hx)).trans (h.low x hx)

/-- What a search answers that goes on with characters of a set, then records what has been taken,
`u` and what follows, and then searches for a template.  `number` is the number of its marks. -/
def AnswersRun (text : List Char) (number : Nat) (t : Template) (Fruitless : Marks → Prop)
    (s : CharSet) (name : String) (u : List Char) (q : Place) (m : Marks)
    (r : Option Place × Marks) :
    Prop :=
  (∃ v vs e, r.1 = some e ∧ IsLongestRun t s q.rest v vs ∧
      e.found = recorded t vs ++ (name, String.ofList (u ++ v)) :: q.found) ∨
    (r.1 = none ∧ Barren text t s q.position ∧ Tried text number t Fruitless s q.position m r.2)

variable {name : String} {p q : Place} {u : List Char}

/-- A search that ends the run where it is: what it answers decides if going on has been in
vain. -/
theorem answersRun_stop (hk : Finds text (number + 1) t F k) (hq : q.On text)
    (hu : p.rest = u ++ q.rest) (hpos : q.position = p.position + u.length)
    (htried : Tried text number t F s q.position m m')
    (hvain : ∀ v rest vs, q.rest = v ++ rest → v ≠ [] → (∀ c ∈ v, s.contains c = true) →
      ¬ Fills t vs rest) :
    AnswersRun text number t F s name u q m (k (q.record p name) m') := by
  have htext : p.textTo q = u := by
    rw [Place.textTo, hu, hpos, Nat.add_sub_cancel_left, List.take_left]
  rcases hk.answers (q.record p name) m' (hq.record p name) htried.fruitless with
    ⟨vs, e, hrun, hvs, hfound⟩ | ⟨hrun, hno, hF, hsame⟩
  · refine Or.inl ⟨[], vs, e, hrun, ⟨by simp, ⟨q.rest, rfl, hvs⟩, ?_⟩, ?_⟩
    · intro w rest ws e hw hlt
      exact hvain w rest ws e (by rintro rfl; simp at hlt) hw
    · rw [hfound, Place.record, htext, List.append_nil]
  · refine Or.inr ⟨hrun, ?_, htried.keep hF hsame⟩
    intro v rest vs e hv
    rw [← hq.rest_eq] at e
    by_cases hnil : v = []
    · subst hnil
      rw [List.nil_append] at e
      exact e ▸ hno vs
    · exact hvain v rest vs e hnil hv

/-- A search that goes on with a character first, and ends the run where it is if nothing comes of
that. -/
theorem AnswersRun.orElse (hk : Finds text (number + 1) t F k) (hq : q.On text)
    (hu : p.rest = u ++ q.rest) (hpos : q.position = p.position + u.length)
    (htried : Tried text number t F s q.position m m') {c : Char} {cs : List Char}
    (hrest : q.rest = c :: cs) (hc : s.contains c = true) {a : Search Place}
    (h : AnswersRun text number t F s name (u ++ [c]) (q.after c cs) m' (a m')) :
    AnswersRun text number t F s name u q m (Search.orElse a (k (q.record p name)) m') := by
  rcases h with ⟨v, vs, e, hrun, hlong, hfound⟩ | ⟨hrun, hbarren, htried'⟩
  · refine Or.inl ⟨c :: v, vs, e, Search.orElse_of_some hrun, ?_, ?_⟩
    · rw [hrest]
      exact hlong.cons hc
    · rw [hfound, List.append_assoc]
      rfl
  · rw [Search.orElse_of_none hrun]
    apply answersRun_stop hk hq hu hpos (htried.trans htried' hbarren)
    intro v rest vs e hv hall
    cases v with
    | nil => exact absurd rfl hv
    | cons d v =>
        refine hbarren v rest vs ?_ (List.forall_mem_cons.1 hall).2
        rw [← (hq.after hrest).rest_eq]
        exact (List.cons.inj (hrest.symm.trans e)).2

/-- Rounds of a loop: the search goes on as long as it can, and ends the loop at the last place
where the rest of the template can be filled. -/
theorem answersRun_rounds (hk : Finds text (number + 1) t F k) {fuel : Nat}
    (hfuel : q.rest.length < fuel) (hq : q.On text) (hu : p.rest = u ++ q.rest)
    (hpos : q.position = p.position + u.length) (hF : F m)
    (hbarren : ∀ i, q.position ≤ i → m.contains (number, i) = true → Barren text t s i) :
    AnswersRun text number t F s name u q m
      (Way.rounds number true (Plan.set s).run fuel (fun r => k (r.record p name)) q m) := by
  induction fuel generalizing q u m with
  | zero => exact absurd hfuel (Nat.not_lt_zero _)
  | succ fuel ih =>
      have hlater : ∀ i, q.position < i → m.contains (number, i) = true → Barren text t s i :=
        fun i hi => hbarren i (Nat.le_of_lt hi)
      rw [Way.rounds, Search.mark]
      by_cases hmark : m.contains (number, q.position) = true
      · rw [if_pos hmark]
        exact Or.inr ⟨rfl, hbarren _ (Nat.le_refl _) hmark, .refl hF hlater⟩
      rw [if_neg hmark, if_pos rfl]
      have htried : Tried text number t F s q.position m (m.insert (number, q.position)) :=
        .insert hk hF hlater
      cases hrest : q.rest with
      | nil =>
          rw [Search.orElse_of_none (by rw [Plan.run_set_nil hrest]), Plan.run_set_nil hrest]
          apply answersRun_stop hk hq hu hpos htried
          intro v rest vs e hv
          rw [hrest] at e
          exact absurd (List.append_eq_nil_iff.1 e.symm).1 hv
      | cons c cs =>
          have hstep : ∀ k' m', (Plan.set s).run k' q m' =
              if s.contains c then k' (q.after c cs) m' else ((none : Option Place), m') :=
            fun k' m' => Plan.run_set_cons hrest m'
          by_cases hc : s.contains c = true
          · simp only [hstep, hc, if_true]
            refine AnswersRun.orElse hk hq hu hpos htried hrest hc (ih ?_ (hq.after hrest) ?_ ?_
              htried.fruitless fun i hi => htried.barren i hi)
            · rw [hrest] at hfuel
              simpa [Place.after] using hfuel
            · rw [hu, hrest]
              simp [Place.after]
            · rw [Place.after_position, hpos, List.length_append]
              rfl
          · simp only [hstep, hc]
            rw [Search.orElse_of_none rfl]
            apply answersRun_stop hk hq hu hpos htried
            intro v rest vs e hv hall
            cases v with
            | nil => exact absurd rfl hv
            | cons d v =>
                obtain ⟨rfl, -⟩ := List.cons.inj (hrest.symm.trans e)
                exact absurd (List.forall_mem_cons.1 hall).1 hc

end

end Template

end PathRouter

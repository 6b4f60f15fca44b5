import PathRouter.Proofs.Pattern.Assertions
import PathRouter.Proofs.Pattern.Loops

/-!
# Searching for the longest filling

The search for the tree of a template finds the longest filling of the text, and fails if there is
none. Most placeholders are a first character and a loop of letters; that of a colour code has no
choice to make.

* `finds_loop`, `finds_hex` — the two kinds of placeholders;
* `Template.search_node` — the search for the whole tree.
-/

namespace PathRouter

open Regex

namespace Template

/-! ## Placeholders -/

/-- What is recorded for the value of a placeholder. -/
theorem recorded_cons (p : Placeholder) (t : Template) (v : List Char) (vs : List (List Char))
    (found : List (String × String)) :
    recorded t vs ++ (String.ofList p.name, String.ofList v) :: found =
      recorded (.placeholder p :: t) (v :: vs) ++ found := by
  rw [recorded, List.headD_cons, List.tail_cons, List.append_assoc]
  rfl

/-- The longest run of letters after the first character makes the longest filling. -/
theorem IsLongestRun.placeholder {t : Template} {p : Placeholder} {a : Assertion}
    (ha : p.assertion? = some a) (hne : a ≠ .hex) {c : Char} (hc : a.first.contains c = true)
    {cs v : List Char} {vs : List (List Char)} (h : IsLongestRun t a.letters cs v vs) :
    IsLongest (.placeholder p :: t) ((c :: v) :: vs) (c :: cs) := by
  obtain ⟨rest, hcs, hvs⟩ := h.isLongest
  have hv : a.Takes (c :: v) := (Assertion.takes_iff hne _).2 ⟨c, v, rfl, hc, h.all⟩
  have heq : c :: cs = (c :: v) ++ rest := congrArg (List.cons c) hcs
  rw [heq]
  refine .placeholder ha hv hvs ?_
  intro w ws cs' e hw hlt
  obtain ⟨d, ds, rfl, -, hds⟩ := (Assertion.takes_iff hne w).1 hw
  have e' : cs = ds ++ cs' := hcs.trans (List.cons.inj e).2
  exact h.max ds cs' ws e' hds (by simpa using hlt)

/-- A filling has a first character, and letters after it from which the template can be filled. -/
theorem exists_of_fills_placeholder {t : Template} {p : Placeholder} {a : Assertion}
    (ha : p.assertion? = some a) (hne : a ≠ .hex) {cs : List Char} {ws : List (List Char)}
    (h : Fills (.placeholder p :: t) ws cs) :
    ∃ c v rest vs, cs = c :: (v ++ rest) ∧ a.first.contains c = true ∧
      (∀ d ∈ v, a.letters.contains d = true) ∧ Fills t vs rest := by
  obtain ⟨v, vs, rest, -, rfl, hv, hf⟩ := (fills_placeholder_iff ha).1 h
  obtain ⟨c, v, rfl, hc, hletters⟩ := (Assertion.takes_iff hne v).1 hv
  exact ⟨c, v, rest, vs, rfl, hc, hletters, hf⟩

/-- A placeholder whose texts are a character to start with and any number of letters.  `body` is
the plan for them: the first character, and then rounds of a loop. -/
theorem finds_loop {text : List Char} {number : Nat} {t : Template} {F : Marks → Prop}
    {k : Place → Search Place} (hk : Finds text (number + 1) t F k) {p : Placeholder}
    {a : Assertion} (ha : p.assertion? = some a) (hne : a ≠ .hex) {body : Plan}
    (hnil : ∀ (k : Place → Search Place) (q : Place) m, q.rest = [] → body.run k q m = (none, m))
    (hcons : ∀ (k : Place → Search Place) (q : Place) m c cs, q.rest = c :: cs →
      ∃ fuel, cs.length < fuel ∧ body.run k q m = if a.first.contains c then Way.rounds number true
        (Plan.set a.letters).run fuel k (q.after c cs) m else (none, m)) :
    Finds text number (.placeholder p :: t)
      (fun m => F m ∧ ∀ i, m.contains (number, i) = true → Barren text t a.letters i)
      ((Plan.record (String.ofList p.name) body).run k) where
  congr m m' h hm := by
    refine ⟨hk.congr m m' (fun x hx => h x (Nat.le_of_succ_le hx)) hm.1, fun i hi => hm.2 i ?_⟩
    rwa [h (number, i) (Nat.le_refl _)]
  fresh := ⟨hk.fresh, fun i hi => by simp at hi⟩
  answers q m hq hm := by
    rw [Plan.run]
    cases hrest : q.rest with
    | nil =>
        rw [hnil _ q m hrest]
        refine Or.inr ⟨rfl, ?_, hm, fun _ _ => rfl⟩
        intro ws h
        obtain ⟨c, v, rest, vs, e, -⟩ := exists_of_fills_placeholder ha hne h
        cases hrest.symm.trans e
    | cons c cs =>
        obtain ⟨fuel, hfuel, hrun⟩ :=
          hcons (fun r => k (r.record q (String.ofList p.name))) q m c cs hrest
        rw [hrun]
        by_cases hc : a.first.contains c = true
        · rw [if_pos hc]
          have hanswer :
              AnswersRun text number t F a.letters (String.ofList p.name) [c] (q.after c cs) m _ :=
            answersRun_rounds hk (p := q) hfuel (hq.after hrest) hrest rfl hm.1 fun i _ => hm.2 i
          rcases hanswer with ⟨v, vs, e, hsome, hlong, hfound⟩ | ⟨hnone, hbarren, htried⟩
          · refine Or.inl ⟨(c :: v) :: vs, e, hsome, ?_, hfound.trans (recorded_cons p t _ vs _)⟩
            rw [hrest]
            exact hlong.placeholder ha hne hc
          · refine Or.inr ⟨hnone, fun ws h => ?_, ⟨htried.fruitless, fun i hi => ?_⟩, htried.low⟩
            · obtain ⟨d, v, rest, vs, e, -, hletters, hf⟩ := exists_of_fills_placeholder ha hne h
              refine hbarren v rest vs ?_ hletters hf
              rw [← (hq.after hrest).rest_eq]
              exact (List.cons.inj (hrest.symm.trans e)).2
            · rcases Nat.lt_trichotomy i (q.after c cs).position with hlt | rfl | hlt
              · exact hm.2 i (htried.earlier i hlt ▸ hi)
              · exact hbarren
              · exact htried.barren i hlt hi
        · rw [if_neg hc]
          refine Or.inr ⟨rfl, ?_, hm, fun _ _ => rfl⟩
          intro ws h
          obtain ⟨d, v, rest, vs, e, hd, -⟩ := exists_of_fills_placeholder ha hne h
          exact hc ((List.cons.inj (hrest.symm.trans e)).1 ▸ hd)

/-- A placeholder for a colour code, which has no choice to make. -/
theorem finds_hex {text : List Char} {least : Nat} {t : Template} {F : Marks → Prop}
    {k : Place → Search Place} (hk : Finds text least t F k) {p : Placeholder}
    (ha : p.assertion? = some .hex) (a : Nat) :
    Finds text least (.placeholder p :: t) F
      ((Plan.record (String.ofList p.name)
        (Planning.copies (fun n => (Plan.set Assertion.hex.letters, n)) 6 a).1).run k) where
  congr := hk.congr
  fresh := hk.fresh
  answers q m hq hm := by
    rw [Plan.run]
    rcases Plan.run_copies Assertion.hex.letters (fun r => k (r.record q (String.ofList p.name)))
      6 a hq m with ⟨v, r, hlen, hv, hrest, hr, hpos, hfound, hrun⟩ | ⟨hno, hrun⟩
    · have htakes : Assertion.hex.Takes v :=
        ⟨hlen, fun c hc => (Assertion.contains_hex_iff c).1 (hv c hc)⟩
      have htext : q.textTo r = v := by
        rw [Place.textTo, hrest, hpos, Nat.add_sub_cancel_left, ← hlen, List.take_left]
      rw [hrun]
      rcases hk.answers _ m (hr.record q (String.ofList p.name)) hm with
        ⟨vs, e, hsome, hvs, hfound'⟩ | ⟨hnone, hvain, hF⟩
      · refine Or.inl ⟨v :: vs, e, hsome, ?_, ?_⟩
        · rw [hrest]
          refine .placeholder ha htakes hvs ?_
          intro w ws cs' _ hw hlt
          exact absurd hlt (by rw [hlen, hw.1]; exact Nat.lt_irrefl 6)
        · rw [hfound', Place.record, htext, hfound]
          exact recorded_cons p t v vs q.found
      · refine Or.inr ⟨hnone, ?_, hF⟩
        intro ws h
        obtain ⟨w, vs, cs', -, e, hw, hf⟩ := (fills_placeholder_iff ha).1 h
        obtain ⟨-, rfl⟩ := List.append_inj (hrest.symm.trans e) (hlen.trans hw.1.symm)
        exact hvain vs hf
    · rw [hrun]
      refine Or.inr ⟨rfl, ?_, hm, fun _ _ => rfl⟩
      intro ws h
      obtain ⟨w, vs, cs', -, e, hw, -⟩ := (fills_placeholder_iff ha).1 h
      exact hno w cs' e hw.1 fun c hc => (Assertion.contains_hex_iff c).2 (hw.2 c hc)

/-- The plan for one or more letters. -/
theorem finds_again {text : List Char} {number : Nat} {t : Template} {F : Marks → Prop}
    {k : Place → Search Place} (hk : Finds text (number + 1) t F k) {p : Placeholder}
    {a : Assertion} (ha : p.assertion? = some a) (hne : a ≠ .hex) (hfirst : a.first = a.letters) :
    ∃ F, Finds text number (.placeholder p :: t) F
      ((Plan.record (String.ofList p.name) (.again number true (.set a.letters))).run k) := by
  refine ⟨_, finds_loop hk ha hne (fun k q m hq => ?_) fun k q m c cs hq => ?_⟩
  · rw [Plan.run, Plan.run_set_nil hq]
  · refine ⟨q.rest.length + 1, by rw [hq, List.length_cons]; omega, ?_⟩
    rw [Plan.run, Plan.run_set_cons hq, hfirst]

/-- The plan for one character and then any number of letters. -/
theorem finds_star {text : List Char} {number : Nat} {t : Template} {F : Marks → Prop}
    {k : Place → Search Place} (hk : Finds text (number + 1) t F k) {p : Placeholder}
    {a : Assertion} (ha : p.assertion? = some a) (hne : a ≠ .hex) :
    ∃ F, Finds text number (.placeholder p :: t) F
      ((Plan.record (String.ofList p.name)
        (.seq (.set a.first) (.star number true (.set a.letters)))).run k) := by
  refine ⟨_, finds_loop hk ha hne (fun k q m hq => ?_) fun k q m c cs hq => ?_⟩
  · rw [Plan.run_seq, Plan.run_set_nil hq]
  · refine ⟨cs.length + 1, Nat.lt_succ_self _, ?_⟩
    rw [Plan.run_seq, Plan.run_set_cons hq]
    rfl

/-! ## Templates -/

/-- Loops are told apart from expressions that match the empty text. -/
theorem planning_catchAll (number : Nat) :
    (Assertion.node .catchAll).planning number =
      (.seq (.set (.compl .white)) (.star number true (.set Assertion.catchAll.letters)),
        number + 1) := by
  have hne : ((Node.set Assertion.catchAll.letters).minLength.any (0 < ·)) = true := by decide
  show (Planning.seq _ (Planning.repeated 0 none true _ _)) number = _
  rw [hne]
  rfl

/-- The search for what a template is read as, up to the end of the text. -/
theorem exists_finds {text : List Char} {t : Template}
    (hknown : ∀ p ∈ t.placeholders, p.assertion?.isSome = true) (index number : Nat) :
    ∃ F, Finds text number t F
      (((Node.ofParts (nodes index t ++ [.anchor .textEnd])).planning number).1.run
        fun q marks => (some q, marks)) := by
  induction t generalizing index number with
  | nil => exact ⟨_, finds_end text number⟩
  | cons x t ih =>
      cases x with
      | char c =>
          obtain ⟨F, hF⟩ := ih hknown index number
          refine ⟨F, ?_⟩
          rw [nodes_char, List.cons_append, Node.run_ofParts]
          exact finds_char hF c
      | placeholder p =>
          simp only [placeholders_placeholder, List.forall_mem_cons] at hknown
          obtain ⟨a, ha⟩ := Option.isSome_iff_exists.1 hknown.1
          obtain ⟨F, hF⟩ := ih hknown.2 (index + 1) (number + 1)
          obtain ⟨G, hG⟩ := ih hknown.2 (index + 1) number
          rw [nodes_placeholder, List.cons_append, Node.run_ofParts, Placeholder.node,
            Placeholder.assertion_eq ha]
          cases a with
          | hex => exact ⟨G, finds_hex hG ha number⟩
          | catchAll =>
              rw [Node.planning, Planning.record, planning_catchAll]
              exact finds_star hF ha (by decide)
          | segment => exact finds_again hF ha (by decide) rfl
          | alpha => exact finds_again hF ha (by decide) rfl
          | alphaNumeric => exact finds_again hF ha (by decide) rfl
          | digits => exact finds_again hF ha (by decide) rfl

/-- The search for the tree of a template finds the longest filling of the text, and nothing if
there is no filling. -/
theorem search_node {t : Template} (hknown : ∀ p ∈ t.placeholders, p.assertion?.isSome = true)
    (text : List Char) :
    (∃ vs e, t.node.search text = some e ∧ IsLongest t vs text ∧ e.found = recorded t vs) ∨
      (t.node.search text = none ∧ ∀ vs, ¬ Fills t vs text) := by
  obtain ⟨F, hF⟩ : ∃ F, Finds text 0 t F _ := exists_finds hknown 0 0
  have hnode :
      t.node = .seq (.anchor .textStart) (.ofParts (nodes 0 t ++ [.anchor .textEnd])) := by
    cases h : nodes 0 t ++ [.anchor .textEnd] with
    | nil => exact absurd h (by simp)
    | cons n ns => rw [node, h]; rfl
  rw [hnode, Node.search_anchored]
  rcases hF.answers (Place.start text) ∅ (.start text) hF.fresh with
    ⟨vs, e, hsome, hvs, hfound⟩ | ⟨hnone, hno, -⟩
  · exact Or.inl ⟨vs, e, hsome, hvs, by rw [hfound]; exact List.append_nil _⟩
  · exact Or.inr ⟨hnone, hno⟩

end Template

end PathRouter

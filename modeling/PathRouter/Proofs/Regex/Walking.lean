import PathRouter.Regex.Search

/-!
# Walking through a text

What a search does along a sequence, where each part starts at the place where the part before it
ended. Places are told by their number and by what is left of one fixed text (`Place.On`), so that
a mark, which knows of a place only its number, says something about the text after it.

* `Node.run_ofParts` — a sequence is its first part with the rest of the sequence behind it;
* `Plan.run_set_cons`, `Plan.run_copies` — one character, and a number of them;
* `Plan.searchFrom_anchored` — an expression that starts with the start of the text matches there
  or nowhere.
-/

namespace PathRouter.Regex

/-! ## Marks -/

namespace Marks

theorem contains_insert_iff (m : Marks) (x y : Nat × Nat) :
    (m.insert x).contains y = true ↔ x = y ∨ m.contains y = true := by
  obtain ⟨a, b⟩ := x
  obtain ⟨c, d⟩ := y
  rw [Std.TreeSet.contains_insert, Bool.or_eq_true, beq_iff_eq, Prod.mk.injEq]
  simp only [compareLex, compareOn, Ordering.then_eq_eq, Nat.compare_eq_eq]

/-- A mark with another number does not matter. -/
theorem contains_insert_of_ne {m : Marks} {x y : Nat × Nat} (h : x ≠ y) :
    (m.insert x).contains y = m.contains y := by
  rw [Bool.eq_iff_iff, contains_insert_iff]
  exact or_iff_right h

end Marks

namespace Search

variable {α : Type}

theorem orElse_of_some {a b : Search α} {marks : Marks} {result : α}
    (h : (a marks).1 = some result) :
    (orElse a b marks).1 = some result := by
  rw [orElse]
  split
  · next heq => rw [heq] at h; exact h
  · next heq => rw [heq] at h; cases h

theorem orElse_of_none {a b : Search α} {marks : Marks} (h : (a marks).1 = none) :
    orElse a b marks = b (a marks).2 := by
  rw [orElse]
  split
  · next heq => rw [heq] at h; cases h
  · next heq => rw [heq]

end Search

/-! ## Places -/

namespace Place

/-- A place lies on a text if what is left there is what the text has after that many
characters. -/
structure On (text : List Char) (p : Place) : Prop where
  /-- The rest of the text. -/
  rest_eq : p.rest = text.drop p.position

theorem after_position (p : Place) (c : Char) (rest : List Char) :
    (p.after c rest).position = p.position + 1 := rfl

theorem On.start (text : List Char) : On text (start text) := ⟨rfl⟩

theorem On.after {text : List Char} {p : Place} (h : On text p) {c : Char} {rest : List Char}
    (hp : p.rest = c :: rest) : On text (p.after c rest) := by
  refine ⟨?_⟩
  show rest = text.drop (p.position + 1)
  rw [← List.drop_drop, ← h.rest_eq, hp]
  rfl

theorem On.record {text : List Char} {p : Place} (h : On text p) (q : Place) (name : String) :
    On text (p.record q name) :=
  ⟨h.rest_eq⟩

end Place

/-! ## Sequences -/

namespace Plan

variable {α : Type}

theorem run_seq (l r : Plan) (k : Place → Search α) : (seq l r).run k = l.run (r.run k) := rfl

theorem run_set_nil {s : CharSet} {k : Place → Search α} {p : Place} (h : p.rest = [])
    (marks : Marks) : (set s).run k p marks = (none, marks) := by
  rw [run, h]

theorem run_set_cons {s : CharSet} {k : Place → Search α} {p : Place} {c : Char} {rest : List Char}
    (h : p.rest = c :: rest) (marks : Marks) :
    (set s).run k p marks =
      if s.contains c then k (p.after c rest) marks else (none, marks) := by
  rw [run, h]

theorem run_copies_succ (s : CharSet) (k : Place → Search α) (count a : Nat) :
    (Planning.copies (fun n => (set s, n)) (count + 1) a).1.run k =
      (set s).run ((Planning.copies (fun n => (set s, n)) count a).1.run k) := by
  cases count with
  | zero => rfl
  | succ count => rfl

/-- A number of characters of a set: either they come next, and the search goes on after them, or
they do not, and it fails and leaves no mark. -/
theorem run_copies {text : List Char} (s : CharSet) (k : Place → Search α) (count a : Nat)
    {p : Place} (hp : p.On text) (marks : Marks) :
    (∃ v q, v.length = count ∧ (∀ c ∈ v, s.contains c = true) ∧ p.rest = v ++ q.rest ∧
        q.On text ∧ q.position = p.position + count ∧ q.found = p.found ∧
        (Planning.copies (fun n => (set s, n)) count a).1.run k p marks = k q marks) ∨
      ((∀ v rest, p.rest = v ++ rest → v.length = count → ¬ ∀ c ∈ v, s.contains c = true) ∧
        (Planning.copies (fun n => (set s, n)) count a).1.run k p marks = (none, marks)) := by
  induction count generalizing p with
  | zero => exact Or.inl ⟨[], p, rfl, by simp, rfl, hp, rfl, rfl, rfl⟩
  | succ count ih =>
      rw [run_copies_succ]
      cases hrest : p.rest with
      | nil =>
          refine Or.inr ⟨?_, run_set_nil hrest marks⟩
          intro v rest e hv
          obtain ⟨rfl, -⟩ := List.append_eq_nil_iff.1 e.symm
          simp at hv
      | cons c cs =>
          rw [run_set_cons hrest]
          by_cases hc : s.contains c = true
          · rw [if_pos hc]
            rcases ih (hp.after hrest) with ⟨v, q, hl, hv, hq, hon, hpos, hfound,
              hrun⟩ | ⟨hno, hrun⟩
            · refine Or.inl ⟨c :: v, q, by rw [List.length_cons, hl], ?_,
                congrArg (List.cons c) hq, hon, ?_, hfound, hrun⟩
              · exact List.forall_mem_cons.2 ⟨hc, hv⟩
              · rw [hpos, Place.after_position]
                omega
            · refine Or.inr ⟨?_, hrun⟩
              intro v rest e hv hall
              cases v with
              | nil => simp at hv
              | cons d v =>
                  obtain ⟨rfl, e'⟩ := List.cons.inj e
                  exact hno v rest e' (Nat.succ.inj hv) (List.forall_mem_cons.1 hall).2
          · rw [if_neg hc]
            refine Or.inr ⟨?_, rfl⟩
            intro v rest e hv hall
            cases v with
            | nil => simp at hv
            | cons d v =>
                obtain ⟨rfl, -⟩ := List.cons.inj e
                exact hc (List.forall_mem_cons.1 hall).1

end Plan

theorem Node.run_ofParts {α : Type} (n : Node) (ns : List Node) (a : Nat) (k : Place → Search α) :
    ((ofParts (n :: ns)).planning a).1.run k =
      (n.planning a).1.run (((ofParts ns).planning (n.planning a).2).1.run k) := by
  cases ns with
  | nil => rfl
  | cons m ms => rfl

/-! ## The start of the text -/

/-- Away from the start of the text, an expression that asks for it does not match. -/
theorem Plan.searchFrom_anchored (plan : Plan) (position : Nat) (b : Char) (text : List Char)
    (marks : Marks) :
    (seq (anchor .textStart) plan).searchFrom position (some b) text marks = (none, marks) := by
  induction text generalizing position b with
  | nil => rfl
  | cons c rest ih => exact ih (position + 1) c

/-- A search for an expression that asks for the start of the text is a search there. -/
theorem Node.search_anchored (n : Node) (text : List Char) :
    (seq (anchor .textStart) n).search text =
      ((n.planning 0).1.run (fun q marks => (some q, marks)) (Place.start text) ∅).1 := by
  show (Plan.searchFrom (.seq (.anchor .textStart) (n.planning 0).1) 0 none text ∅).1 = _
  have hrun : (Plan.seq (.anchor .textStart) (n.planning 0).1).run (fun q marks => (some q, marks))
      { position := 0, before := none, rest := text, found := [] } ∅ =
        (n.planning 0).1.run (fun q marks => (some q, marks)) (Place.start text) ∅ := rfl
  rw [Plan.searchFrom, hrun]
  split
  · next heq => rw [heq]
  · next heq =>
      rw [heq]
      cases text with
      | nil => rfl
      | cons c rest => exact congrArg Prod.fst (Plan.searchFrom_anchored _ 1 c rest _)

end PathRouter.Regex

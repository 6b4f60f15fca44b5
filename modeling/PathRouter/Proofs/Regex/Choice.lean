import PathRouter.Proofs.Regex.Alternatives
import PathRouter.Proofs.Regex.GroupNames
import PathRouter.Proofs.Regex.Runs
import PathRouter.Proofs.Regex.Spans

/-!
# What sequences and choices match

The normal form of trees changes which match is preferred, but not what is matched: a sequence
matches what its parts match one after the other, and a choice matches what one of its branches
matches.

* `Node.spans_concat`, `Node.spans_choice` — sequences and choices;
* `Node.spans_eq_of_same` — expressions that are the same up to the way their sets are written;
* `Node.spans_of_parse` — what has been read matches what one of its alternatives matches.
-/

namespace PathRouter.Regex.Node

variable {text : List Char} {i j : Nat}

/-! ## Sequences -/

theorem spans_ofParts_cons (n : Node) (ns : List Node) : (ofParts (n :: ns)).Spans text i j ↔
    ∃ m, n.Spans text i m ∧ (ofParts ns).Spans text m j := by
  cases ns with
  | nil => exact ⟨fun h => ⟨j, h, rfl⟩, by rintro ⟨m, h, rfl⟩; exact h⟩
  | cons n' ns => exact Iff.rfl

theorem spans_ofParts_append (ns ms : List Node) : (ofParts (ns ++ ms)).Spans text i j ↔
    ∃ m, (ofParts ns).Spans text i m ∧ (ofParts ms).Spans text m j := by
  induction ns generalizing i with
  | nil => exact ⟨fun h => ⟨i, rfl, h⟩, by rintro ⟨m, rfl, h⟩; exact h⟩
  | cons n ns ih =>
      simp only [List.cons_append, spans_ofParts_cons, ih]
      constructor
      · rintro ⟨e, he, m, hm, h⟩
        exact ⟨m, ⟨e, he, hm⟩, h⟩
      · rintro ⟨m, ⟨e, he, hm⟩, h⟩
        exact ⟨e, he, m, hm, h⟩

theorem spans_ofParts_parts (n : Node) : (ofParts n.parts).Spans text i j ↔ n.Spans text i j := by
  induction n generalizing i with
  | seq l r _ ih =>
      rw [parts, spans_ofParts_cons]
      exact exists_congr fun m => and_congr_right fun _ => ih
  | _ => exact Iff.rfl

/-- A sequence matches what its parts match one after the other. -/
theorem spans_concat (nodes : List Node) :
    (concat nodes).Spans text i j ↔ (ofParts nodes).Spans text i j := by
  rw [concat]
  induction nodes generalizing i with
  | nil => exact Iff.rfl
  | cons n ns ih =>
      rw [List.flatMap_cons, spans_ofParts_append, spans_ofParts_cons]
      exact exists_congr fun m => and_congr n.spans_ofParts_parts ih

/-! ## Expressions that are the same -/

/-- The ways in which two expressions that are the same can differ do not matter. -/
theorem spans_eq_of_same {n m : Node} (h : n.same m = true) : n.Spans text = m.Spans text := by
  fun_induction same n m with
  | case1 => rfl
  | case2 s t =>
      funext i j
      simp only [Spans, CharSet.contains_eq_of_same h]
  | case3 a b =>
      obtain rfl : a = b := by simpa using h
      rfl
  | case4 l r l' r' hl hr =>
      rw [Bool.and_eq_true] at h
      funext i j
      rw [Spans, Spans, hl h.1, hr h.2]
  | case5 l r l' r' hl hr =>
      rw [Bool.and_eq_true] at h
      funext i j
      rw [Spans, Spans, hl h.1, hr h.2]
  | case6 least most greedy body least' most' greedy' body' ih =>
      simp only [Bool.and_eq_true, beq_iff_eq] at h
      obtain ⟨⟨⟨rfl, rfl⟩, rfl⟩, h⟩ := h
      funext i j
      rw [Spans, Spans, ih h]
  | case7 index name body index' name' body' ih =>
      rw [Bool.and_eq_true] at h
      exact ih h.2
  | case8 => cases h

/-! ## Branches -/

theorem spans_ofBranches (nodes : List Node) :
    (ofBranches nodes).Spans text i j ↔ ∃ n ∈ nodes, n.Spans text i j := by
  induction nodes with
  | nil =>
      refine ⟨?_, fun ⟨n, hn, _⟩ => absurd hn List.not_mem_nil⟩
      rintro ⟨-, c, -, hc⟩
      cases hc
  | cons n ns ih =>
      simp only [List.mem_cons, exists_eq_or_imp, ← ih]
      cases ns with
      | nil =>
          refine ⟨Or.inl, ?_⟩
          rintro (h | ⟨-, c, -, hc⟩)
          · exact h
          · cases hc
      | cons m ms => exact Iff.rfl

theorem exists_branches_spans (n : Node) :
    (∃ b ∈ n.branches, b.Spans text i j) ↔ n.Spans text i j := by
  induction n with
  | alt l r _ ih => simp only [branches, List.mem_cons, exists_eq_or_imp, ih, Spans]
  | _ => simp [branches]

/-- A choice between characters, or between sets, is a set. -/
theorem spans_set_of_mergeSets? {nodes : List Node} {s : CharSet} (h : mergeSets? nodes = some s) :
    (set s).Spans text i j ↔ ∃ n ∈ nodes, n.Spans text i j := by
  unfold mergeSets? at h
  split at h
  next hall =>
    cases h
    have hsets : ∀ n ∈ nodes, ∃ t, n = set t := by
      intro n hn
      have hset : n.set?.isSome = true := by
        rw [Bool.or_eq_true, List.all_eq_true, List.all_eq_true] at hall
        rcases hall with hall | hall
        · have := hall n hn
          rw [isChar] at this
          cases hs : n.set? with
          | none => rw [hs] at this; cases this
          | some t => rfl
        · exact (Bool.and_eq_true _ _ ▸ hall n hn).1
      cases n with
      | set t => exact ⟨t, rfl⟩
      | _ => cases hset
    rw [Spans]
    simp only [CharSet.contains_unionAll, List.any_eq_true, List.mem_filterMap]
    constructor
    · rintro ⟨rfl, c, hc, t, ⟨n, hn, ht⟩, h⟩
      obtain ⟨t', rfl⟩ := hsets n hn
      cases ht
      exact ⟨_, hn, rfl, c, hc, h⟩
    · rintro ⟨n, hn, h⟩
      obtain ⟨t, rfl⟩ := hsets n hn
      obtain ⟨rfl, c, hc, h⟩ := h
      exact ⟨rfl, c, hc, t, ⟨_, hn, rfl⟩, h⟩
  · cases h

/-! ## A common start -/

theorem spans_eq_of_sameWord {v w : List Node} (h : sameWord v w = true) :
    (ofParts v).Spans text i j ↔ (ofParts w).Spans text i j := by
  induction v generalizing w i with
  | nil => cases w <;> first | exact Iff.rfl | cases h
  | cons n v ih =>
      cases w with
      | nil => cases h
      | cons m w =>
          rw [sameWord, Bool.and_eq_true] at h
          rw [spans_ofParts_cons, spans_ofParts_cons, spans_eq_of_same h.1]
          exact exists_congr fun e => and_congr_right fun _ => ih h.2

theorem spans_take_of_le_commonStart {vs ws : List (List Node)} {n : Nat}
    (h : n ≤ commonStart vs ws) :
    (ofParts (ws.take n).flatten).Spans text i j ↔
      (ofParts (vs.take n).flatten).Spans text i j := by
  induction vs generalizing ws n i with
  | nil =>
      obtain rfl := Nat.le_zero.1 h
      exact Iff.rfl
  | cons v vs ih =>
      cases n with
      | zero => exact Iff.rfl
      | succ n =>
          cases ws with
          | nil => cases h
          | cons w ws =>
              rw [commonStart] at h
              split at h
              next hsame =>
                rw [List.take_succ_cons, List.take_succ_cons, List.flatten_cons, List.flatten_cons,
                  spans_ofParts_append, spans_ofParts_append]
                exact exists_congr fun m =>
                  and_congr (spans_eq_of_sameWord hsame).symm (ih (Nat.le_of_succ_le_succ h))
              · cases h

/-- What several sequences start with may be taken out of the choice between them. -/
theorem spans_of_split? {nodes start rests : List Node} (h : split? nodes = some (start, rests)) :
    (∃ m, (ofParts start).Spans text i m ∧ ∃ r ∈ rests, r.Spans text m j) ↔
      ∃ n ∈ nodes, n.Spans text i j := by
  obtain ⟨line, count, -, hcommon, rfl, rfl⟩ := exists_of_split? h
  -- every sequence is the common start and its rest
  have hnode :
      ∀ n ∈ nodes, (n.Spans text i j ↔ ∃ m, (ofParts (line.take count).flatten).Spans text i m ∧
      (ofParts ((words n.parts).drop count).flatten).Spans text m j) := by
    intro n hn
    have hparts : n.parts = ((words n.parts).take count).flatten ++
        ((words n.parts).drop count).flatten := by
      rw [← List.flatten_append, List.take_append_drop, flatten_words]
    rw [← n.spans_ofParts_parts, hparts, spans_ofParts_append, ← hparts]
    exact exists_congr fun m => and_congr_left fun _ => spans_take_of_le_commonStart (hcommon n hn)
  constructor
  · rintro ⟨m, hstart, r, hr, hrest⟩
    obtain ⟨n, hn, rfl⟩ := List.mem_map.1 hr
    exact ⟨n, hn, (hnode n hn).2 ⟨m, hstart, hrest⟩⟩
  · rintro ⟨n, hn, h⟩
    obtain ⟨m, hstart, hrest⟩ := (hnode n hn).1 h
    exact ⟨m, hstart, _, List.mem_map_of_mem hn, hrest⟩

/-! ## Choices -/

theorem spans_choiceWithin (fuel : Nat) (nodes : List Node) :
    (choiceWithin fuel nodes).Spans text i j ↔ ∃ n ∈ nodes, n.Spans text i j := by
  induction fuel generalizing nodes i j with
  | zero =>
      rw [choiceWithin]
      exact spans_ofBranches nodes
  | succ fuel ih =>
      have hbranches : (∃ n ∈ nodes.flatMap branches, n.Spans text i j) ↔
          ∃ n ∈ nodes, n.Spans text i j := by
        constructor
        · rintro ⟨b, hb, h⟩
          obtain ⟨n, hn, hb⟩ := List.mem_flatMap.1 hb
          exact ⟨n, hn, n.exists_branches_spans.1 ⟨b, hb, h⟩⟩
        · rintro ⟨n, hn, h⟩
          obtain ⟨b, hb, h⟩ := n.exists_branches_spans.2 h
          exact ⟨b, List.mem_flatMap.2 ⟨n, hn, hb⟩, h⟩
      rw [choiceWithin, ← hbranches]
      generalize nodes.flatMap branches = nodes
      split
      · exact spans_ofBranches nodes
      · split
        next s hs => exact spans_set_of_mergeSets? hs
        · split
          next start rests hsplit =>
            rw [spans_concat, spans_ofParts_append, ← spans_of_split? hsplit]
            exact exists_congr fun m => and_congr_right fun _ => ih rests
          · exact spans_ofBranches nodes

/-- A choice matches what one of its branches matches. -/
theorem spans_choice (nodes : List Node) :
    (choice nodes).Spans text i j ↔ ∃ n ∈ nodes, n.Spans text i j :=
  spans_choiceWithin _ nodes

/-- What has been read matches what one of its alternatives matches. -/
theorem spans_of_parse {cs : List Char} {n : Node} (h : Node.parse cs = .ok n) :
    n.Spans text i j ↔ ∃ m ∈ alternatives cs, m.Spans text i j := by
  rcases eq_of_parse h with h | ⟨-, rfl⟩
  · simp [h]
  · exact spans_choice _

end PathRouter.Regex.Node

import PathRouter.Unicode.Casing

/-!
# Characters that are equal up to case

The tables of pairs and of classes are one list of groups without a common member, and the variants
of a character are the members of its group.

* `mem_caseVariants_iff` — the variants of a character;
* `mem_caseVariants_comm` — to be a variant goes both ways.
-/

namespace PathRouter.Unicode

/-! ## Groups -/

/-- The pairs of a run of partners. -/
def CaseRun.pairs (run : CaseRun) : List (List Nat) :=
  (List.range ((run.last - run.first) / run.step + 1)).map fun i =>
    [run.first + i * run.step, run.first + i * run.step + run.gap]

/-- The classes and the pairs. -/
def caseGroups : List (List Nat) :=
  caseClasses.toList ++ caseRuns.toList.flatMap CaseRun.pairs

theorem flatten_caseGroups : caseGroups.flatten = cased := by
  have hmembers : CaseRun.members = fun run => run.pairs.flatten :=
    funext fun run => List.flatMap_def
  rw [caseGroups, List.flatten_append, cased, hmembers, List.flatMap_def, List.flatten_flatten,
    List.flatMap_def, List.map_map]
  rfl

/-- No number occurs twice in a list, and none of those whose bits are set in `seen` occurs. -/
def distinctFrom (seen : Nat) : List Nat → Bool
  | [] => true
  | n :: ns => !seen.testBit n && distinctFrom (seen ||| 1 <<< n) ns

theorem nodup_of_distinctFrom {seen : Nat} {ns : List Nat} (h : distinctFrom seen ns = true) :
    ns.Nodup ∧ ∀ n ∈ ns, seen.testBit n = false := by
  induction ns generalizing seen with
  | nil => exact ⟨List.nodup_nil, fun n hn => absurd hn List.not_mem_nil⟩
  | cons n ns ih =>
      rw [distinctFrom, Bool.and_eq_true, Bool.not_eq_true'] at h
      obtain ⟨hnodup, hfresh⟩ := ih h.2
      simp only [Nat.testBit_or, Bool.or_eq_false_iff] at hfresh
      refine ⟨List.nodup_cons.2 ⟨fun hn => ?_, hnodup⟩,
        List.forall_mem_cons.2 ⟨h.1, fun m hm => (hfresh m hm).1⟩⟩
      have := (hfresh n hn).2
      rw [Nat.one_shiftLeft, Nat.testBit_two_pow_self] at this
      exact absurd this (by decide)

theorem nodup_cased : cased.Nodup := by
  have h : distinctFrom 0 cased = true := by decide +kernel
  exact (nodup_of_distinctFrom h).1

theorem isValidChar_of_mem_cased {n : Nat} (h : n ∈ cased) : n.isValidChar := by
  have hall : cased.all (fun n => decide n.isValidChar) = true := by decide +kernel
  exact of_decide_eq_true (List.all_eq_true.1 hall n h)

theorem first_le_last {run : CaseRun} (h : run ∈ caseRuns.toList) : run.first ≤ run.last := by
  have hall : caseRuns.toList.all (fun run => decide (run.first ≤ run.last)) = true := by
    decide +kernel
  exact of_decide_eq_true (List.all_eq_true.1 hall run h)

theorem eq_of_mem_of_nodup_flatten {groups : List (List Nat)} (h : groups.flatten.Nodup)
    {g g' : List Nat} (hg : g ∈ groups) (hg' : g' ∈ groups) {n : Nat} (hn : n ∈ g) (hn' : n ∈ g') :
    g = g' := by
  induction groups with
  | nil => exact absurd hg List.not_mem_nil
  | cons g₀ groups ih =>
      rw [List.flatten_cons, List.nodup_append] at h
      obtain ⟨-, hrest, hne⟩ := h
      have hfirst : ∀ g ∈ groups, n ∈ g → n ∉ g₀ := fun g hg hn hn₀ =>
        hne n hn₀ n (List.mem_flatten.2 ⟨g, hg, hn⟩) rfl
      rcases List.mem_cons.1 hg with e | hg
      · rcases List.mem_cons.1 hg' with e' | hg'
        · exact e.trans e'.symm
        · exact absurd (e ▸ hn) (hfirst g' hg' hn')
      · rcases List.mem_cons.1 hg' with e' | hg'
        · exact absurd (e' ▸ hn') (hfirst g hg hn)
        · exact ih hrest hg hg'

/-- A code point is in one group only. -/
theorem eq_of_mem_caseGroups {g g' : List Nat} (hg : g ∈ caseGroups) (hg' : g' ∈ caseGroups)
    {n : Nat} (hn : n ∈ g) (hn' : n ∈ g') : g = g' :=
  eq_of_mem_of_nodup_flatten (flatten_caseGroups ▸ nodup_cased) hg hg' hn hn'

theorem mem_cased {g : List Nat} (hg : g ∈ caseGroups) {n : Nat} (hn : n ∈ g) : n ∈ cased :=
  flatten_caseGroups ▸ List.mem_flatten.2 ⟨g, hg, hn⟩

theorem mem_caseGroups_of_mem_pairs {run : CaseRun} (hrun : run ∈ caseRuns.toList) {g : List Nat}
    (hg : g ∈ run.pairs) : g ∈ caseGroups :=
  List.mem_append_right _ (List.mem_flatMap.2 ⟨run, hrun, hg⟩)

/-! ## Partners -/

namespace CaseRun

variable {run : CaseRun} {n m : Nat} {g : List Nat}

theorem mem_pairs_iff (h : run.first ≤ run.last) :
    g ∈ run.pairs ↔ ∃ a, run.starts a = true ∧ g = [a, a + run.gap] := by
  simp only [pairs, starts, List.mem_map, List.mem_range, Bool.and_eq_true, decide_eq_true_eq,
    beq_iff_eq]
  constructor
  · rintro ⟨i, hi, rfl⟩
    have hle : i * run.step ≤ run.last - run.first :=
      Nat.le_trans (Nat.mul_le_mul_right _ (Nat.le_of_lt_succ hi)) (Nat.div_mul_le_self _ _)
    refine ⟨run.first + i * run.step, ⟨⟨by omega, by omega⟩, ?_⟩, rfl⟩
    rw [Nat.add_sub_cancel_left, Nat.mul_mod_left]
  · rintro ⟨a, ⟨⟨hfirst, hlast⟩, hstep⟩, rfl⟩
    refine ⟨(a - run.first) / run.step, Nat.lt_succ_of_le (Nat.div_le_div_right (by omega)), ?_⟩
    rw [Nat.div_mul_cancel (Nat.dvd_of_mod_eq_zero hstep), Nat.add_sub_cancel' hfirst]

theorem mem_pairs_of_partner? (h : run.first ≤ run.last) (hm : run.partner? n = some m) :
    [n, m] ∈ run.pairs ∨ [m, n] ∈ run.pairs := by
  unfold partner? at hm
  split at hm
  next hstarts =>
    cases hm
    exact Or.inl ((mem_pairs_iff h).2 ⟨n, hstarts, rfl⟩)
  · split at hm
    next hstarts =>
      cases hm
      rw [Bool.and_eq_true, decide_eq_true_eq] at hstarts
      refine Or.inr ((mem_pairs_iff h).2 ⟨_, hstarts.2, ?_⟩)
      rw [Nat.sub_add_cancel hstarts.1]
    · cases hm

theorem isSome_partner? (h : run.first ≤ run.last) (hg : g ∈ run.pairs) (hn : n ∈ g) :
    (run.partner? n).isSome = true := by
  obtain ⟨a, ha, rfl⟩ := (mem_pairs_iff h).1 hg
  unfold partner?
  split
  · rfl
  · rw [List.mem_cons, List.mem_singleton] at hn
    rcases hn with rfl | rfl
    · contradiction
    · rw [if_pos (by simp [ha])]
      rfl

end CaseRun

/-! ## Variants -/

/-- The members of the group of a code point, as the tables give them. -/
def caseMates (n : Nat) : List Nat :=
  match caseClasses.find? (fun members => members.contains n) with
  | some members => members
  | none => (caseRuns.findSome? fun (run : CaseRun) => run.partner? n).toList

theorem caseVariants_eq (c : Char) :
    caseVariants c = c :: ((caseMates c.toNat).filter (· != c.toNat)).map Char.ofNat := rfl

theorem mem_caseMates_iff {n m : Nat} (hne : m ≠ n) :
    m ∈ caseMates n ↔ ∃ g ∈ caseGroups, n ∈ g ∧ m ∈ g := by
  unfold caseMates
  rw [← Array.find?_toList, ← Array.findSome?_toList]
  split
  next g hg =>
    have hmem : g ∈ caseGroups := List.mem_append_left _ (List.mem_of_find?_eq_some hg)
    have hn : n ∈ g := by simpa using List.find?_some hg
    refine ⟨fun hm => ⟨g, hmem, hn, hm⟩, ?_⟩
    rintro ⟨g', hg', hn', hm⟩
    exact eq_of_mem_caseGroups hg' hmem hn' hn ▸ hm
  next hnone =>
    rw [Option.mem_toList]
    constructor
    · intro hm
      obtain ⟨run, hrun, hm⟩ := List.exists_of_findSome?_eq_some hm
      rcases CaseRun.mem_pairs_of_partner? (first_le_last hrun) hm with hg | hg
      · exact ⟨_, mem_caseGroups_of_mem_pairs hrun hg, by simp, by simp⟩
      · exact ⟨_, mem_caseGroups_of_mem_pairs hrun hg, by simp, by simp⟩
    · rintro ⟨g, hg, hn, hm⟩
      rcases List.mem_append.1 hg with hclass | hpair
      · have := List.find?_eq_none.1 hnone g hclass
        exact absurd (by simpa using hn) this
      · obtain ⟨run, hrun, hpair⟩ := List.mem_flatMap.1 hpair
        have hsome : (caseRuns.toList.findSome? fun run => run.partner? n).isSome = true :=
          List.findSome?_isSome_iff.2
            ⟨run, hrun, CaseRun.isSome_partner? (first_le_last hrun) hpair hn⟩
        obtain ⟨x, hx⟩ := Option.isSome_iff_exists.1 hsome
        obtain ⟨run', hrun', hx'⟩ := List.exists_of_findSome?_eq_some hx
        -- the pair of the run that comes first is the same pair
        have hgx : g = [n, x] ∨ g = [x, n] := by
          rcases CaseRun.mem_pairs_of_partner? (first_le_last hrun') hx' with hg' | hg'
          · exact Or.inl
              (eq_of_mem_caseGroups hg (mem_caseGroups_of_mem_pairs hrun' hg') hn (by simp))
          · exact Or.inr
              (eq_of_mem_caseGroups hg (mem_caseGroups_of_mem_pairs hrun' hg') hn (by simp))
        rw [hx]
        rcases hgx with rfl | rfl
        · simpa [hne, eq_comm] using hm
        · simpa [hne, eq_comm] using hm

theorem toNat_ofNat {n : Nat} (h : n.isValidChar) : (Char.ofNat n).toNat = n := by
  rw [Char.ofNat, dif_pos h]
  rfl

theorem toNat_ofNat_of_mem_cased {n : Nat} (h : n ∈ cased) : (Char.ofNat n).toNat = n :=
  toNat_ofNat (isValidChar_of_mem_cased h)

/-- The variants of a character are the members of its group. -/
theorem mem_caseVariants_iff {c d : Char} :
    d ∈ caseVariants c ↔ d = c ∨ ∃ g ∈ caseGroups, c.toNat ∈ g ∧ d.toNat ∈ g := by
  rw [caseVariants_eq, List.mem_cons]
  by_cases hd : d = c
  · exact iff_of_true (Or.inl hd) (Or.inl hd)
  · have hne : d.toNat ≠ c.toNat := fun e => hd (Char.toNat_inj.1 e)
    refine or_congr_right ?_
    rw [← mem_caseMates_iff hne, List.mem_map]
    constructor
    · rintro ⟨n, hn, rfl⟩
      obtain ⟨hmates, hne'⟩ := List.mem_filter.1 hn
      obtain ⟨g, hg, -, hng⟩ := (mem_caseMates_iff (by simpa using hne')).1 hmates
      rwa [toNat_ofNat_of_mem_cased (mem_cased hg hng)]
    · intro hmates
      exact ⟨d.toNat, List.mem_filter.2 ⟨hmates, by simpa using hne⟩, Char.ofNat_toNat d⟩

/-- To be a variant goes both ways. -/
theorem mem_caseVariants_comm {c d : Char} : d ∈ caseVariants c ↔ c ∈ caseVariants d := by
  rw [mem_caseVariants_iff, mem_caseVariants_iff, eq_comm]
  simp only [and_comm]

theorem self_mem_caseVariants (c : Char) : c ∈ caseVariants c := List.mem_cons_self

/-- Characters that are not in the tables have no variants. -/
theorem eq_of_mem_caseVariants {c d : Char} (h : d ∈ caseVariants c) (hc : c.toNat ∉ cased) :
    d = c := by
  rcases mem_caseVariants_iff.1 h with h | ⟨g, hg, hn, -⟩
  · exact h
  · exact absurd (mem_cased hg hn) hc

end PathRouter.Unicode

import PathRouter.Proofs.Unicode.Casing
import PathRouter.Regex.Runs

/-!
# The runs of a set have its members

Every operation on runs keeps them in order and does to the members what the operation on sets
does.  So two sets with the same runs have the same members.

* `Runs.From` — runs in order, within the range of characters;
* `CharSet.runs_spec` — the runs of a set have its members;
* `CharSet.contains_eq_of_same` — what is told to be one set is one.
-/

namespace PathRouter.Regex

namespace Runs

/-! ## The numbers of characters -/

/-- The number of a character among the characters tells which one it is. -/
theorem code_rank (c : Char) : code (rank c.toNat) = c.toNat := by
  have hvalid : c.toNat < 0xD800 ∨ 0xDFFF < c.toNat ∧ c.toNat < 0x110000 := c.valid
  unfold rank code
  by_cases hlow : c.toNat < 0xD800
  · rw [if_pos hlow, if_pos hlow]
  · rw [if_neg hlow, if_neg (by omega)]
    omega

theorem rank_inj {c d : Char} : rank c.toNat = rank d.toNat ↔ c = d := by
  refine ⟨?_, fun h => h ▸ rfl⟩
  intro h
  rw [← Char.toNat_inj, ← code_rank c, h, code_rank]

theorem rank_le_rank_iff {c d : Char} : rank c.toNat ≤ rank d.toNat ↔ c ≤ d := by
  have hc : c.toNat < 0xD800 ∨ 0xDFFF < c.toNat ∧ c.toNat < 0x110000 := c.valid
  have hd : d.toNat < 0xD800 ∨ 0xDFFF < d.toNat ∧ d.toNat < 0x110000 := d.valid
  show _ ↔ c.toNat ≤ d.toNat
  unfold rank
  split <;> split <;> omega

theorem rank_le_last (c : Char) : rank c.toNat ≤ last := by
  have hc : c.toNat < 0xD800 ∨ 0xDFFF < c.toNat ∧ c.toNat < 0x110000 := c.valid
  unfold last rank
  split <;> split <;> omega

/-- Every number up to the last one is that of a character. -/
theorem exists_rank_eq {n : Nat} (h : n ≤ last) : ∃ c : Char, rank c.toNat = n := by
  have hlast : last = 0x10F7FF := rfl
  have hvalid : (code n).isValidChar := by
    unfold code Nat.isValidChar
    split <;> omega
  refine ⟨Char.ofNatAux (code n) hvalid, ?_⟩
  show rank (code n) = n
  unfold rank code
  by_cases hlow : n < 0xD800
  · rw [if_pos hlow, if_pos hlow]
  · rw [if_neg hlow, if_neg (by omega)]
    omega

/-! ## Order -/

/-- The runs are in order and have gaps between them, the first one starts at `low` or later, and
the last one ends within the range of characters. -/
def From (low : Nat) : Runs → Prop
  | [] => True
  | (a, b) :: rest => low ≤ a ∧ a ≤ b ∧ b ≤ last ∧ From (b + 2) rest

instance From.decidable : (low : Nat) → (r : Runs) → Decidable (From low r)
  | _, [] => isTrue trivial
  | low, (a, b) :: rest =>
    have := From.decidable (b + 2) rest
    inferInstanceAs (Decidable (low ≤ a ∧ a ≤ b ∧ b ≤ last ∧ From (b + 2) rest))

theorem From.of_le {low low' : Nat} {r : Runs} (h : From low r) (hle : low' ≤ low) :
    From low' r := by
  cases r with
  | nil => trivial
  | cons run rest => exact ⟨Nat.le_trans hle h.1, h.2⟩

theorem contains_nil (n : Nat) : contains [] n = false := rfl

theorem contains_cons {a b n : Nat} {rest : Runs} :
    contains ((a, b) :: rest) n = true ↔ (a ≤ n ∧ n ≤ b) ∨ contains rest n = true := by
  rw [contains, List.any_cons, Bool.or_eq_true, Bool.and_eq_true, decide_eq_true_eq,
    decide_eq_true_eq]
  rfl

/-- No member comes before the first run. -/
theorem From.le_of_contains {low n : Nat} {r : Runs} (h : From low r) (hn : r.contains n = true) :
    low ≤ n := by
  induction r generalizing low with
  | nil => cases hn
  | cons run rest ih =>
      obtain ⟨a, b⟩ := run
      obtain ⟨hlow, hle, -, hrest⟩ := h
      rcases contains_cons.1 hn with hn | hn
      · omega
      · have := ih hrest hn
        omega

theorem From.le_last {low n : Nat} {r : Runs} (h : From low r) (hn : r.contains n = true) :
    n ≤ last := by
  induction r generalizing low with
  | nil => cases hn
  | cons run rest ih =>
      obtain ⟨a, b⟩ := run
      obtain ⟨-, -, hb, hrest⟩ := h
      rcases contains_cons.1 hn with hn | hn
      · exact Nat.le_trans hn.2 hb
      · exact ih hrest hn

/-! ## Operations -/

variable {low first final n : Nat} {r s : Runs}

theorem From.insert (h : From low r) (hlow : low ≤ first) (hle : first ≤ final)
    (hlast : final ≤ last) :
    From low (r.insert first final) := by
  induction r generalizing low first final with
  | nil => exact ⟨hlow, hle, hlast, trivial⟩
  | cons run rest ih =>
      obtain ⟨a, b⟩ := run
      obtain ⟨ha, hab, hb, hrest⟩ := h
      unfold Runs.insert
      split
      · exact ⟨hlow, hle, hlast, by omega, hab, hb, hrest⟩
      · split
        · exact ⟨ha, hab, hb, ih hrest (by omega) hle hlast⟩
        · exact ih (hrest.of_le (by omega)) (by omega) (by omega) (by omega)

theorem contains_insert_iff (h : From low r) (hle : first ≤ final) :
    (r.insert first final).contains n = true ↔ (first ≤ n ∧ n ≤ final) ∨ r.contains n = true := by
  induction r generalizing low first final with
  | nil => exact contains_cons
  | cons run rest ih =>
      obtain ⟨a, b⟩ := run
      obtain ⟨-, hab, -, hrest⟩ := h
      unfold Runs.insert
      split
      · exact contains_cons
      · split
        · rw [contains_cons, contains_cons, ih hrest hle]
          exact or_left_comm
        · rw [contains_cons, ih hrest (by omega), ← or_assoc]
          refine or_congr_left ?_
          omega

theorem From.union (hr : From 0 r) (hs : From 0 s) : From 0 (r.union s) := by
  have h : ∀ {low r}, From low r → From 0 (Runs.union r s) := by
    intro low r hr
    induction r generalizing low with
    | nil => exact hs
    | cons run rest ih =>
        obtain ⟨a, b⟩ := run
        exact (ih hr.2.2.2).insert (Nat.zero_le a) hr.2.1 hr.2.2.1
  exact h hr

theorem contains_union_iff (hr : From low r) (hs : From 0 s) :
    (r.union s).contains n = true ↔ r.contains n = true ∨ s.contains n = true := by
  induction r generalizing low with
  | nil => simp [Runs.union, contains_nil]
  | cons run rest ih =>
      obtain ⟨a, b⟩ := run
      have hrest : From 0 (Runs.union rest s) := (hr.2.2.2.of_le (Nat.zero_le _)).union hs
      rw [contains_cons, or_assoc, ← ih hr.2.2.2]
      exact contains_insert_iff hrest hr.2.1

theorem From.gapsFrom (h : From low r) : From low (r.gapsFrom low) := by
  induction r generalizing low with
  | nil =>
      unfold Runs.gapsFrom
      split
      next hle => exact ⟨Nat.le_refl low, hle, Nat.le_refl last, trivial⟩
      · trivial
  | cons run rest ih =>
      obtain ⟨a, b⟩ := run
      obtain ⟨ha, hab, hb, hrest⟩ := h
      have hgaps := ih (hrest.of_le (Nat.le_succ (b + 1)))
      unfold Runs.gapsFrom
      split
      · exact ⟨Nat.le_refl low, by omega, by omega, hgaps.of_le (by omega)⟩
      · exact hgaps.of_le (by omega)

theorem contains_gapsFrom_iff (h : From low r) (hn : n ≤ last) :
    (r.gapsFrom low).contains n = true ↔ low ≤ n ∧ ¬ r.contains n = true := by
  induction r generalizing low with
  | nil =>
      unfold Runs.gapsFrom
      split
      · rw [contains_cons]
        simp [contains_nil, hn]
      · rw [contains_nil]
        exact ⟨fun h => (Bool.false_ne_true h).elim, fun h => by omega⟩
  | cons run rest ih =>
      obtain ⟨a, b⟩ := run
      obtain ⟨ha, hab, hb, hrest⟩ := h
      have hgaps := ih (hrest.of_le (Nat.le_succ (b + 1)))
      have hafter := hrest.le_of_contains (n := n)
      unfold Runs.gapsFrom
      split
      · rw [contains_cons, hgaps, contains_cons]
        constructor
        · rintro (h | h)
          · refine ⟨h.1, ?_⟩
            rintro (h' | h')
            · omega
            · have := hafter h'
              omega
          · exact ⟨by omega, by rintro (h' | h'); omega; exact h.2 h'⟩
        · rintro ⟨h, h'⟩
          rw [not_or] at h'
          by_cases hlow : n < a
          · exact Or.inl (by omega)
          · exact Or.inr ⟨by omega, h'.2⟩
      · rw [hgaps, contains_cons]
        constructor
        · intro h
          exact ⟨by omega, by rintro (h' | h'); omega; exact h.2 h'⟩
        · rintro ⟨h, h'⟩
          rw [not_or] at h'
          exact ⟨by omega, h'.2⟩

theorem From.compl (h : From 0 r) : From 0 r.compl := h.gapsFrom

theorem contains_compl_iff (h : From 0 r) (hn : n ≤ last) :
    r.compl.contains n = true ↔ ¬ r.contains n = true :=
  (contains_gapsFrom_iff h hn).trans (and_iff_right (Nat.zero_le n))

theorem From.inter (hr : From 0 r) (hs : From 0 s) : From 0 (r.inter s) :=
  (hr.compl.union hs.compl).compl

theorem contains_inter_iff (hr : From 0 r) (hs : From 0 s) (hn : n ≤ last) :
    (r.inter s).contains n = true ↔ r.contains n = true ∧ s.contains n = true := by
  rw [Runs.inter, contains_compl_iff (hr.compl.union hs.compl) hn,
    contains_union_iff hr.compl hs.compl,
    contains_compl_iff hr hn, contains_compl_iff hs hn, not_or, Classical.not_not,
    Classical.not_not]

/-! ## Tables -/

/-- The runs of a table have no end within the gap of surrogates, and are in order without it. -/
structure Tabular (table : Unicode.RangeTable) : Prop where
  /-- The ends are characters. -/
  valid : ∀ run ∈ table.toList, run.1.isValidChar ∧ run.2.isValidChar
  /-- The runs are in order. -/
  ordered : From 0 (ofTable table)

theorem rank_le_rank_of_isValidChar {m n : Nat} (hm : m.isValidChar) (hn : n.isValidChar) :
    rank m ≤ rank n ↔ m ≤ n := by
  unfold Nat.isValidChar at hm hn
  unfold rank
  split <;> split <;> omega

theorem Tabular.contains_iff {table : Unicode.RangeTable} (h : Tabular table) (c : Char) :
    (ofTable table).contains (rank c.toNat) = true ↔ table.covers c = true := by
  rw [Unicode.RangeTable.covers_eq_any_toList, contains, ofTable, List.any_map, List.any_eq_true,
    List.any_eq_true]
  refine exists_congr fun run => and_congr_right fun hrun => ?_
  obtain ⟨hfirst, hlast⟩ := h.valid run hrun
  simp only [Function.comp, Bool.and_eq_true, decide_eq_true_eq]
  exact and_congr (rank_le_rank_of_isValidChar hfirst c.valid)
    (rank_le_rank_of_isValidChar c.valid hlast)

theorem tabular_decimalRuns : Tabular Unicode.decimalRuns := ⟨by decide +kernel, by decide +kernel⟩

theorem tabular_wordRuns : Tabular Unicode.wordRuns := ⟨by decide +kernel, by decide +kernel⟩

theorem tabular_whiteRuns : Tabular Unicode.whiteRuns := ⟨by decide +kernel, by decide +kernel⟩

/-! ## Case -/

theorem mem_members_iff : n ∈ r.members ↔ r.contains n = true := by
  rw [members, List.mem_flatMap, contains, List.any_eq_true]
  refine exists_congr fun run => and_congr_right fun _ => ?_
  rw [List.mem_map, Bool.and_eq_true, decide_eq_true_eq, decide_eq_true_eq]
  constructor
  · rintro ⟨i, hi, rfl⟩
    rw [List.mem_range] at hi
    omega
  · intro h
    exact ⟨n - run.1, List.mem_range.2 (by omega), by omega⟩

theorem mem_variants_iff (c : Char) {n : Nat} :
    n ∈ variants (rank c.toNat) ↔ ∃ d ∈ Unicode.caseVariants c, rank d.toNat = n := by
  rw [variants, code_rank, Char.ofNat_toNat, List.mem_map]

/-- Adding numbers one by one. -/
theorem From.insertAll (h : From 0 r) {ns : List Nat} (hns : ∀ n ∈ ns, n ≤ last) :
    From 0 (ns.foldr (fun n s => Runs.insert n n s) r) ∧
      ∀ n, Runs.contains (ns.foldr (fun n s => Runs.insert n n s) r) n = true ↔
        n ∈ ns ∨ r.contains n = true := by
  induction ns with
  | nil => exact ⟨h, fun n => by simp⟩
  | cons m ns ih =>
      rw [List.forall_mem_cons] at hns
      obtain ⟨hfrom, hcontains⟩ := ih hns.2
      refine ⟨hfrom.insert (Nat.zero_le m) (Nat.le_refl m) hns.1, ?_⟩
      intro n
      rw [List.foldr_cons, contains_insert_iff hfrom (Nat.le_refl m), hcontains,
        List.mem_cons, or_assoc]
      refine or_congr_left ?_
      omega

theorem any_variants_iff (c : Char) : (variants (rank c.toNat)).any r.contains = true ↔
    ∃ d ∈ Unicode.caseVariants c, r.contains (rank d.toNat) = true := by
  rw [List.any_eq_true]
  constructor
  · rintro ⟨n, hn, h⟩
    obtain ⟨d, hd, rfl⟩ := (mem_variants_iff c).1 hn
    exact ⟨d, hd, h⟩
  · rintro ⟨d, hd, h⟩
    exact ⟨_, (mem_variants_iff c).2 ⟨d, hd, rfl⟩, h⟩

/-- The members of a small set are visited. -/
theorem mem_flatMap_variants_iff (h : From 0 r) (c : Char) :
    rank c.toNat ∈ r.members.flatMap variants ↔
      ∃ d ∈ Unicode.caseVariants c, r.contains (rank d.toNat) = true := by
  rw [List.mem_flatMap]
  constructor
  · rintro ⟨m, hm, hc⟩
    rw [mem_members_iff] at hm
    obtain ⟨d, rfl⟩ := exists_rank_eq (h.le_last hm)
    obtain ⟨e, he, heq⟩ := (mem_variants_iff d).1 hc
    obtain rfl := rank_inj.1 heq
    exact ⟨d, Unicode.mem_caseVariants_comm.1 he, hm⟩
  · rintro ⟨d, hd, hm⟩
    exact ⟨_, mem_members_iff.2 hm,
      (mem_variants_iff d).2 ⟨c, Unicode.mem_caseVariants_comm.1 hd, rfl⟩⟩

/-- Of a large set the characters in the tables of cases are visited. -/
theorem mem_map_rank_iff (c : Char) :
    rank c.toNat ∈ (Unicode.cased.filter fun n => (variants (rank n)).any r.contains).map rank ↔
      c.toNat ∈ Unicode.cased ∧ ∃ d ∈ Unicode.caseVariants c, r.contains (rank d.toNat) =
        true := by
  rw [List.mem_map]
  constructor
  · rintro ⟨n, hn, heq⟩
    obtain ⟨hcased, hany⟩ := List.mem_filter.1 hn
    rw [← Unicode.toNat_ofNat_of_mem_cased hcased] at heq hany hcased
    obtain rfl := rank_inj.1 heq
    exact ⟨hcased, (any_variants_iff _).1 hany⟩
  · rintro ⟨hcased, hany⟩
    exact ⟨c.toNat, List.mem_filter.2 ⟨hcased, (any_variants_iff c).2 hany⟩, rfl⟩

theorem From.fold (h : From 0 r) :
    From 0 r.fold ∧ ∀ c : Char, r.fold.contains (rank c.toNat) = true ↔
    ∃ d ∈ Unicode.caseVariants c, r.contains (rank d.toNat) = true := by
  unfold Runs.fold
  split
  · have hlast : ∀ n ∈ r.members.flatMap variants, n ≤ last := by
      intro n hn
      obtain ⟨m, hm, hn⟩ := List.mem_flatMap.1 hn
      obtain ⟨c, rfl⟩ := exists_rank_eq (h.le_last (mem_members_iff.1 hm))
      obtain ⟨d, -, rfl⟩ := (mem_variants_iff c).1 hn
      exact rank_le_last d
    obtain ⟨hfrom, hcontains⟩ := h.insertAll hlast
    refine ⟨hfrom, ?_⟩
    intro c
    rw [hcontains, mem_flatMap_variants_iff h]
    exact or_iff_left_of_imp fun hc => ⟨c, Unicode.self_mem_caseVariants c, hc⟩
  · have hlast : ∀ n ∈ (Unicode.cased.filter fun n => (variants (rank n)).any r.contains).map rank,
        n ≤ last := by
      intro n hn
      obtain ⟨m, hm, rfl⟩ := List.mem_map.1 hn
      rw [← Unicode.toNat_ofNat_of_mem_cased (List.mem_filter.1 hm).1]
      exact rank_le_last _
    obtain ⟨hfrom, hcontains⟩ := h.insertAll hlast
    rw [List.foldr_map] at hfrom hcontains
    refine ⟨hfrom, ?_⟩
    intro c
    rw [hcontains, mem_map_rank_iff]
    constructor
    · rintro (⟨-, hany⟩ | hc)
      · exact hany
      · exact ⟨c, Unicode.self_mem_caseVariants c, hc⟩
    · rintro ⟨d, hd, hm⟩
      by_cases hcased : c.toNat ∈ Unicode.cased
      · exact Or.inl ⟨hcased, d, hd, hm⟩
      · exact Or.inr (Unicode.eq_of_mem_caseVariants hd hcased ▸ hm)

end Runs

namespace CharSet

/-- The runs of a set are in order and have its members. -/
theorem runs_spec (s : CharSet) : Runs.From 0 s.runs ∧
    ∀ c : Char, s.runs.contains (Runs.rank c.toNat) = true ↔ s.contains c = true := by
  induction s with
  | none => exact ⟨trivial, fun c => Iff.rfl⟩
  | range low high =>
      rw [runs]
      split
      next hle =>
        refine ⟨⟨Nat.zero_le _, Runs.rank_le_rank_iff.2 hle, Runs.rank_le_last high, trivial⟩, ?_⟩
        intro c
        rw [Runs.contains_cons, Runs.rank_le_rank_iff, Runs.rank_le_rank_iff, contains,
          Bool.and_eq_true]
        simp [Runs.contains_nil]
      next hle =>
        refine ⟨trivial, ?_⟩
        intro c
        rw [Runs.contains_nil, contains, Bool.and_eq_true, decide_eq_true_eq, decide_eq_true_eq]
        exact ⟨fun h => (Bool.false_ne_true h).elim, fun h => absurd (Char.le_trans h.1 h.2) hle⟩
  | decimal => exact ⟨Runs.tabular_decimalRuns.ordered, Runs.tabular_decimalRuns.contains_iff⟩
  | word => exact ⟨Runs.tabular_wordRuns.ordered, Runs.tabular_wordRuns.contains_iff⟩
  | white => exact ⟨Runs.tabular_whiteRuns.ordered, Runs.tabular_whiteRuns.contains_iff⟩
  | compl s ih =>
      refine ⟨ih.1.compl, ?_⟩
      intro c
      rw [runs, Runs.contains_compl_iff ih.1 (Runs.rank_le_last c), ih.2, contains,
        Bool.not_eq_true, Bool.not_eq_true']
  | union s t hs ht =>
      refine ⟨hs.1.union ht.1, ?_⟩
      intro c
      rw [runs, Runs.contains_union_iff hs.1 ht.1, hs.2, ht.2, contains, Bool.or_eq_true]
  | inter s t hs ht =>
      refine ⟨hs.1.inter ht.1, ?_⟩
      intro c
      rw [runs, Runs.contains_inter_iff hs.1 ht.1 (Runs.rank_le_last c), hs.2, ht.2, contains,
        Bool.and_eq_true]
  | folded s ih =>
      refine ⟨ih.1.fold.1, ?_⟩
      intro c
      rw [runs, ih.1.fold.2, contains, List.any_eq_true]
      simp only [ih.2]

/-- What is told to be one set is one. -/
theorem contains_eq_of_same {s t : CharSet} (h : s.same t = true) (c : Char) :
    s.contains c = t.contains c := by
  rw [same, beq_iff_eq] at h
  rw [Bool.eq_iff_iff, ← s.runs_spec.2, ← t.runs_spec.2, h]

end CharSet

end PathRouter.Regex

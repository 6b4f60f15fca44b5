/-!
# Sets of names

A finite set of names is a list in strictly increasing order, by code points. The order is part of
the type, so two sets with the same names are equal (`NameSet.ext_mem`).
-/

namespace PathRouter

/-- A finite set of names. -/
structure NameSet where
  /-- The names. -/
  names : List String
  /-- They are in strictly increasing order. -/
  increasing : names.Pairwise (· < ·)
deriving DecidableEq, Repr

namespace NameSet

instance : Membership String NameSet := ⟨fun s n => n ∈ s.names⟩

theorem mem_iff {s : NameSet} {n : String} : n ∈ s ↔ n ∈ s.names := Iff.rfl

/-- The empty set. -/
def empty : NameSet := ⟨[], .nil⟩

@[simp] theorem not_mem_empty {n : String} : ¬n ∈ empty := by
  simp [mem_iff, empty]

/-- Whether there is no name in the set. -/
def isEmpty (s : NameSet) : Bool :=
  s.names.isEmpty

theorem isEmpty_iff {s : NameSet} : s.isEmpty = true ↔ ∀ n, n ∉ s := by
  rw [isEmpty, List.isEmpty_iff, List.eq_nil_iff_forall_not_mem]
  rfl

/-- Whether a name is in the set. -/
def contains (s : NameSet) (n : String) : Bool :=
  s.names.contains n

@[simp] theorem contains_iff {s : NameSet} {n : String} : s.contains n = true ↔ n ∈ s := by
  simp [contains, mem_iff]

/-- Puts a name into a list in increasing order. -/
def insertName (n : String) : List String → List String
  | [] => [n]
  | m :: ms => if n < m then n :: m :: ms else if n = m then m :: ms else m :: insertName n ms

@[simp] theorem mem_insertName {n m : String} {l : List String} :
    m ∈ insertName n l ↔ m = n ∨ m ∈ l := by
  induction l with
  | nil => simp [insertName]
  | cons a l ih =>
    simp only [insertName]
    split
    · simp
    · split
      · next h => subst h; simp
      · simp only [List.mem_cons, ih]; exact or_left_comm

theorem increasing_insertName {n : String} {l : List String} (h : l.Pairwise (· < ·)) :
    (insertName n l).Pairwise (· < ·) := by
  induction l with
  | nil => simp [insertName]
  | cons m l ih =>
    rw [List.pairwise_cons] at h
    simp only [insertName]
    split
    · next hn =>
      refine List.pairwise_cons.2 ⟨fun a ha => ?_, List.pairwise_cons.2 h⟩
      rcases List.mem_cons.1 ha with rfl | ha
      · exact hn
      · exact String.lt_trans hn (h.1 a ha)
    · split
      · exact List.pairwise_cons.2 h
      · next hn hne =>
        refine List.pairwise_cons.2 ⟨fun a ha => ?_, ih h.2⟩
        rcases mem_insertName.1 ha with rfl | ha
        · exact Std.lt_of_le_of_ne (String.not_lt.1 hn) (Ne.symm hne)
        · exact h.1 a ha

/-- The set with one more name. -/
def insert (s : NameSet) (n : String) : NameSet :=
  ⟨insertName n s.names, increasing_insertName s.increasing⟩

@[simp] theorem mem_insert {s : NameSet} {n m : String} : m ∈ s.insert n ↔ m = n ∨ m ∈ s :=
  mem_insertName

/-- The set with more names. -/
def insertAll (s : NameSet) (l : List String) : NameSet :=
  l.foldl insert s

@[simp] theorem mem_insertAll {s : NameSet} {l : List String} {m : String} :
    m ∈ s.insertAll l ↔ m ∈ l ∨ m ∈ s := by
  induction l generalizing s with
  | nil => simp [insertAll]
  | cons n l ih =>
    rw [insertAll, List.foldl_cons, ← insertAll, ih, mem_insert, List.mem_cons]
    exact ⟨fun h => h.elim (.inl ∘ .inr) (Or.elim · (.inl ∘ .inl) .inr),
      fun h => h.elim (Or.elim · (.inr ∘ .inl) .inl) (.inr ∘ .inr)⟩

/-- The set of the names in a list. -/
def ofList (l : List String) : NameSet :=
  empty.insertAll l

@[simp] theorem mem_ofList {l : List String} {m : String} : m ∈ ofList l ↔ m ∈ l := by
  simp [ofList]

/-- A strictly increasing list is determined by its members. -/
theorem names_eq_of_mem {l r : List String} (hl : l.Pairwise (· < ·)) (hr : r.Pairwise (· < ·))
    (h : ∀ n, n ∈ l ↔ n ∈ r) : l = r := by
  induction l generalizing r with
  | nil =>
    cases r with
    | nil => rfl
    | cons b r => exact absurd ((h b).2 (by simp)) (by simp)
  | cons a l ih =>
    cases r with
    | nil => exact absurd ((h a).1 (by simp)) (by simp)
    | cons b r =>
      rw [List.pairwise_cons] at hl hr
      have hab : a = b := by
        rcases List.mem_cons.1 ((h a).1 (by simp)) with hab | hab
        · exact hab
        · rcases List.mem_cons.1 ((h b).2 (by simp)) with hba | hba
          · exact hba.symm
          · exact absurd (String.lt_trans (hl.1 b hba) (hr.1 a hab)) (String.lt_irrefl a)
      subst hab
      refine congrArg (a :: ·) (ih hl.2 hr.2 fun n => ?_)
      have key := h n
      simp only [List.mem_cons] at key
      constructor
      · intro hn
        rcases key.1 (.inr hn) with rfl | hn'
        · exact absurd (hl.1 _ hn) (String.lt_irrefl _)
        · exact hn'
      · intro hn
        rcases key.2 (.inr hn) with rfl | hn'
        · exact absurd (hr.1 _ hn) (String.lt_irrefl _)
        · exact hn'

/-- Sets with the same names are equal. -/
theorem ext_mem {s t : NameSet} (h : ∀ n, n ∈ s ↔ n ∈ t) : s = t := by
  obtain ⟨l, hl⟩ := s
  obtain ⟨r, hr⟩ := t
  obtain rfl : l = r := names_eq_of_mem hl hr h
  rfl

end NameSet

end PathRouter

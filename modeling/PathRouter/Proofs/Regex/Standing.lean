import PathRouter.Proofs.Regex.Spans

/-!
# What stands in a text

An expression matches between two positions of a text.  Here this is said of the texts that stand
there.

* `Stands` — a text stands between two positions;
* `Node.spans_plus_iff`, `Node.spans_optional_iff` — repetitions of a character, and expressions
  that may be left out.
-/

namespace PathRouter.Regex

variable {u v text : List Char} {i j : Nat} {s : CharSet}

/-- A text stands between two positions of another one. -/
def Stands (u text : List Char) (i j : Nat) : Prop :=
  j = i + u.length ∧ u <+: text.drop i

theorem stands_nil : Stands [] text i j ↔ i = j :=
  ⟨fun h => h.1.symm, fun h => ⟨h.symm, List.nil_prefix⟩⟩

theorem stands_append : Stands (u ++ v) text i j ↔ ∃ m, Stands u text i m ∧ Stands v text m j := by
  constructor
  · rintro ⟨rfl, w, hw⟩
    rw [List.append_assoc] at hw
    refine ⟨i + u.length, ⟨rfl, _, hw⟩, by rw [List.length_append, Nat.add_assoc], w, ?_⟩
    rw [← List.drop_drop, ← hw, List.drop_left]
  · rintro ⟨m, ⟨rfl, x, hx⟩, rfl, w, hw⟩
    rw [← List.drop_drop, ← hx, List.drop_left] at hw
    refine ⟨by rw [List.length_append, Nat.add_assoc], w, ?_⟩
    rw [List.append_assoc, hw, hx]

theorem Node.spans_set_iff :
    (set s).Spans text i j ↔ ∃ c, s.contains c = true ∧ Stands [c] text i j := by
  constructor
  · rintro ⟨rfl, c, hget, hc⟩
    refine ⟨c, hc, rfl, text.drop (i + 1), ?_⟩
    rw [List.drop_eq_getElem?_toList_append (i := i), hget]
    rfl
  · rintro ⟨c, hc, rfl, rest, hrest⟩
    refine ⟨rfl, c, ?_, hc⟩
    rw [← List.head?_drop, ← hrest]
    rfl

theorem Node.spans_single_iff {c : Char} :
    (set (.single c)).Spans text i j ↔ Stands [c] text i j := by
  simp [spans_set_iff, CharSet.contains_single]

theorem Node.rounds_set_iff {n : Nat} : Rounds ((set s).Spans text) n i j ↔
    ∃ u, u.length = n ∧ (∀ c ∈ u, s.contains c = true) ∧ Stands u text i j := by
  induction n generalizing i with
  | zero =>
      constructor
      · rintro rfl
        exact ⟨[], rfl, by simp, stands_nil.2 rfl⟩
      · rintro ⟨u, hu, -, hstands⟩
        rw [List.length_eq_zero_iff] at hu
        exact stands_nil.1 (hu ▸ hstands)
  | succ n ih =>
      constructor
      · rintro ⟨m, hset, hrounds⟩
        obtain ⟨c, hc, hstands⟩ := spans_set_iff.1 hset
        obtain ⟨u, rfl, hu, hrest⟩ := ih.1 hrounds
        exact ⟨c :: u, rfl, List.forall_mem_cons.2 ⟨hc, hu⟩, stands_append.2 ⟨m, hstands, hrest⟩⟩
      · rintro ⟨u, hlength, hu, hstands⟩
        obtain ⟨c, u, rfl⟩ := List.exists_cons_of_length_eq_add_one hlength
        rw [List.forall_mem_cons] at hu
        obtain ⟨m, hstands, hrest⟩ := stands_append (u := [c]).1 hstands
        exact ⟨m, spans_set_iff.2 ⟨c, hu.1, hstands⟩, ih.2 ⟨u, Nat.succ.inj hlength, hu.2, hrest⟩⟩

/-- One or more characters of a set. -/
theorem Node.spans_plus_iff : (rep 1 none true (set s)).Spans text i j ↔
    ∃ u, u ≠ [] ∧ (∀ c ∈ u, s.contains c = true) ∧ Stands u text i j := by
  constructor
  · rintro ⟨n, hn, -, hrounds⟩
    obtain ⟨u, rfl, hu⟩ := rounds_set_iff.1 hrounds
    exact ⟨u, List.ne_nil_of_length_pos hn, hu⟩
  · rintro ⟨u, hne, hu⟩
    exact ⟨u.length, List.length_pos_iff.2 hne, nofun, rounds_set_iff.2 ⟨u, rfl, hu⟩⟩

/-- An expression or nothing. -/
theorem Node.spans_optional_iff {n : Node} :
    (rep 0 (some 1) true n).Spans text i j ↔ i = j ∨ n.Spans text i j := by
  constructor
  · rintro ⟨count, -, hmost, hrounds⟩
    obtain rfl | rfl : count = 0 ∨ count = 1 := by
      have := hmost 1 rfl
      omega
    · exact Or.inl hrounds
    · exact Or.inr (Rounds.one.1 hrounds)
  · rintro (h | h)
    · exact ⟨0, Nat.le_refl 0, fun m _ => Nat.zero_le _, h⟩
    · refine ⟨1, Nat.zero_le 1, ?_, Rounds.one.2 h⟩
      rintro _ ⟨⟩
      decide

end PathRouter.Regex

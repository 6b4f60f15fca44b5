import PathRouter.Proofs.Pattern.Expression

/-!
# The texts of an assertion

An assertion says in words which texts its placeholder takes, and its regular expression says it
with sets of characters.  Apart from colour codes, the texts are a character to start with and any
number of letters.

* `Assertion.contains_hex_iff` — the letters of a colour code;
* `Assertion.takes_iff` — the texts of all other assertions, with the sets of their expressions.
-/

namespace PathRouter

open Regex

/-! ## Characters -/

theorem isLower_iff (c : Char) : c.isLower = true ↔ 'a' ≤ c ∧ c ≤ 'z' := by
  show (decide _ && decide _) = true ↔ _
  rw [Bool.and_eq_true, decide_eq_true_iff, decide_eq_true_iff]
  rfl

theorem isUpper_iff (c : Char) : c.isUpper = true ↔ 'A' ≤ c ∧ c ≤ 'Z' :=
  decide_eq_true_iff

theorem isAlpha_iff (c : Char) :
    c.isAlpha = true ↔ ('A' ≤ c ∧ c ≤ 'Z') ∨ ('a' ≤ c ∧ c ≤ 'z') := by
  rw [← isUpper_iff, ← isLower_iff, ← Bool.or_eq_true]
  rfl

theorem isDigit_iff (c : Char) : c.isDigit = true ↔ '0' ≤ c ∧ c ≤ '9' := by
  simp [Char.isDigit, Char.le_def]

theorem isAlphanum_iff (c : Char) : c.isAlphanum = true ↔
    (('A' ≤ c ∧ c ≤ 'Z') ∨ ('a' ≤ c ∧ c ≤ 'z')) ∨ ('0' ≤ c ∧ c ≤ '9') := by
  rw [← isAlpha_iff, ← isDigit_iff, ← Bool.or_eq_true]
  rfl

theorem contains_range_iff {low high c : Char} :
    (CharSet.range low high).contains c = true ↔ low ≤ c ∧ c ≤ high := by
  simp [CharSet.contains]

theorem contains_compl_single_iff {c d : Char} :
    (CharSet.compl (.single d)).contains c = true ↔ c ≠ d := by
  rw [CharSet.contains, CharSet.contains_single]
  simp

namespace Assertion

/-! ## Texts -/

/-- The characters that the texts of an assertion start with. -/
def first : Assertion → CharSet
  | catchAll => .compl .white
  | a => a.letters

/-- A text of one or more characters of a set is one of them and then any number of them. -/
theorem ne_nil_and_all_iff {P : Char → Prop} {s : CharSet} (hs : ∀ c, s.contains c = true ↔ P c)
    (v : List Char) :
    (v ≠ [] ∧ ∀ c ∈ v, P c) ↔ ∃ c cs, v = c :: cs ∧ s.contains c = true ∧
      ∀ d ∈ cs, s.contains d = true := by
  constructor
  · rintro ⟨hne, hall⟩
    obtain ⟨c, cs, rfl⟩ := List.exists_cons_of_ne_nil hne
    rw [List.forall_mem_cons] at hall
    exact ⟨c, cs, rfl, (hs c).2 hall.1, fun d hd => (hs d).2 (hall.2 d hd)⟩
  · rintro ⟨c, cs, rfl, hc, hcs⟩
    exact ⟨by simp, List.forall_mem_cons.2 ⟨(hs c).1 hc, fun d hd => (hs d).1 (hcs d hd)⟩⟩

theorem contains_hex_iff (c : Char) : hex.letters.contains c = true ↔
    ('a' ≤ c ∧ c ≤ 'f') ∨ ('A' ≤ c ∧ c ≤ 'Z') ∨ ('0' ≤ c ∧ c ≤ '9') := by
  rw [letters, CharSet.contains_unionAll]
  simp only [List.any_cons, List.any_nil, Bool.or_false, Bool.or_eq_true, contains_range_iff]

/-- Apart from colour codes, the texts of an assertion are a character to start with and any number
of letters. -/
theorem takes_iff {a : Assertion} (ha : a ≠ hex) (v : List Char) :
    a.Takes v ↔ ∃ c cs, v = c :: cs ∧ a.first.contains c = true ∧
      ∀ d ∈ cs, a.letters.contains d = true := by
  cases a with
  | hex => exact absurd rfl ha
  | segment => exact ne_nil_and_all_iff (fun c => contains_compl_single_iff) v
  | alpha =>
      refine ne_nil_and_all_iff (fun c => ?_) v
      rw [show first alpha = letters alpha from rfl, letters, CharSet.contains_unionAll]
      simp only [List.any_cons, List.any_nil, Bool.or_false, Bool.or_eq_true, contains_range_iff,
        isAlpha_iff]
      exact or_comm
  | alphaNumeric =>
      refine ne_nil_and_all_iff (fun c => ?_) v
      rw [show first alphaNumeric = letters alphaNumeric from rfl, letters,
        CharSet.contains_unionAll]
      simp only [List.any_cons, List.any_nil, Bool.or_false, Bool.or_eq_true, contains_range_iff,
        isAlphanum_iff]
      rw [← or_assoc, or_comm (a := 'a' ≤ c ∧ c ≤ 'z')]
  | digits => exact ne_nil_and_all_iff (fun c => contains_range_iff.trans (isDigit_iff c).symm) v
  | catchAll =>
      refine exists_congr fun c => exists_congr fun cs => and_congr_right fun _ => and_congr ?_ ?_
      · simp [first, CharSet.contains]
      · exact forall_congr' fun d => imp_congr_right fun _ => contains_compl_single_iff.symm

end Assertion

end PathRouter

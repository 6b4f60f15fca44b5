import PathRouter.Json.Printer
import PathRouter.Json.Reader

/-!
# Scalars read back

A string is written with escapes and read without them, and an integer that fits into 64 bits is
read from its digits.  The digits of a number go on as long as the text allows, so what comes after
a value counts: `endsValue` says what may.

* `Json.readText_escape` — strings, with any characters in them;
* `Json.readNumber_toDigits`, `Json.readScalar_ofInt` — integers.
-/

namespace PathRouter.Json

/-! ## What follows a value -/

/-- Whether a text may follow a value. -/
def endsValue : List Char → Bool
  | [] => true
  | c :: _ => isBlank c || c == ',' || c == ']' || c == '\x7D'

/-- A text that may follow a value does not go on with a number. -/
theorem not_continues_number {rest : List Char} (h : endsValue rest = true) :
    rest.takeWhile Char.isDigit = [] ∧ rest.dropWhile Char.isDigit = rest ∧
      startsExponent rest = false ∧ rest.head? ≠ some '.' := by
  cases rest with
  | nil => exact ⟨rfl, rfl, rfl, by simp⟩
  | cons c rest =>
      simp only [endsValue, isBlank, Bool.or_eq_true, beq_iff_eq] at h
      rcases h with (((((rfl | rfl) | rfl) | rfl) | rfl) | rfl) | rfl <;> exact ⟨rfl, rfl,
        rfl, by simp⟩

/-! ## Strings -/

/-- The code of a control character. -/
theorem ofCode?_hexDigits : ∀ n < 32,
    CodeUnit.ofCode? none ['0', '0', hexDigit (n / 16), hexDigit (n % 16)] =
      some (.char (Char.ofNat n)) ∧ width none ['0', '0', hexDigit (n / 16)] = 3 ∧
      width none ['0', '0', hexDigit (n / 16), hexDigit (n % 16)] = 4 := by
  decide

/-- A written character is read as itself. -/
theorem readChars_escape (c : Char) (cs : List Char) : readChars none .plain (escape c ++ cs) =
    (readChars none .plain cs).map fun p => (c :: p.1, p.2) := by
  unfold escape
  split
  case h_8 hquote hbackslash _ _ _ _ _ =>
    split
    next hcontrol =>
      obtain ⟨hcode, hthree, hfour⟩ := ofCode?_hexDigits c.toNat hcontrol
      rw [Char.ofNat_toNat] at hcode
      have hone : width none ['0'] = 1 := rfl
      have htwo : width none ['0', '0'] = 2 := rfl
      simp [readChars, hone, htwo, hthree, hfour, hcode]
    next hprintable =>
      rw [List.singleton_append, readChars, if_neg (by simpa using hquote),
        if_neg (by simpa using hbackslash), if_neg hprintable]
      cases readChars none .plain cs <;> rfl
  all_goals rfl

/-- A written string is read as itself, up to its closing quotation mark. -/
theorem readChars_flatMap_escape (s rest : List Char) :
    readChars none .plain (s.flatMap escape ++ '"' :: rest) = .ok (s, rest) := by
  induction s with
  | nil => rfl
  | cons c s ih =>
      rw [List.flatMap_cons, List.append_assoc, readChars_escape, ih]
      rfl

theorem readText_escape (s : String) (rest : List Char) :
    readText none (s.toList.flatMap escape ++ '"' :: rest) = .ok (s, rest) := by
  rw [readText, readChars_flatMap_escape]
  exact congrArg (fun s => Except.ok (s, rest)) String.ofList_toList

/-! ## Integers -/

/-- A row of digits stands for at least the number in front of it. -/
theorem le_ofDigitChars (digits : List Char) (n : Nat) : n ≤ Nat.ofDigitChars 10 digits n := by
  rw [Nat.ofDigitChars_eq_ofDigitChars_zero]
  exact Nat.le_trans (Nat.le_mul_of_pos_left n (Nat.pow_pos (by decide))) (Nat.le_add_right ..)

/-- Digits that fit are all gathered. -/
theorem gather_eq {n : Nat} {digits : List Char}
    (h : Nat.ofDigitChars 10 digits n ≤ significandLimit) :
    gather n digits = (Nat.ofDigitChars 10 digits n, []) := by
  induction digits generalizing n with
  | nil => rfl
  | cons c cs ih =>
      rw [Nat.ofDigitChars_cons] at h
      have hfits : 10 * n + digitValue c ≤ significandLimit :=
        Nat.le_trans (le_ofDigitChars cs _) h
      rw [gather, if_pos hfits, Nat.ofDigitChars_cons]
      exact ih h

/-- There is no zero in front of a positive number. -/
theorem head_toDigits_ne {n : Nat} (hn : 0 < n) : (Nat.toDigits 10 n).head? ≠ some '0' := by
  induction n using Nat.strongRecOn with
  | _ n ih =>
      rw [Nat.toDigits_eq_if (by decide)]
      split
      · rw [List.head?_cons, ne_eq, Option.some.injEq, Nat.digitChar_eq_zero]
        exact Nat.ne_of_gt hn
      · have hdiv : 0 < n / 10 := by omega
        have hhead := ih (n / 10) (by omega) hdiv
        cases hdigits : Nat.toDigits 10 (n / 10) with
        | nil => exact absurd hdigits Nat.toDigits_ne_nil
        | cons c cs =>
            rw [hdigits] at hhead
            exact hhead

theorem isDigit_of_mem_toDigits {n : Nat} {c : Char} (h : c ∈ Nat.toDigits 10 n) :
    c.isDigit = true :=
  Nat.isDigit_of_mem_toDigits (by decide) (by decide) h

theorem toDigits_eq_cons (n : Nat) : ∃ c cs, Nat.toDigits 10 n = c :: cs ∧ c.isDigit = true := by
  obtain ⟨c, cs, hcs⟩ := List.exists_cons_of_ne_nil (Nat.toDigits_ne_nil (n := n) (b := 10))
  exact ⟨c, cs, hcs, isDigit_of_mem_toDigits (n := n) (by simp [hcs])⟩

/-- The digits of an integer that fits are read as that integer. -/
theorem readNumber_toDigits {n : Nat} (hn : n ≤ significandLimit) (negative : Bool)
    {rest : List Char} (hrest : endsValue rest = true) :
    readNumber negative (Nat.toDigits 10 n ++ rest) = .ok (integerOrFloat negative n, rest) := by
  obtain ⟨htake, hdrop, hexponent, hpoint⟩ := not_continues_number hrest
  have hfraction : readFraction negative n 0 rest = .ok (integerOrFloat negative n, rest) := by
    unfold readFraction
    split
    · exact absurd rfl hpoint
    · rw [if_pos ⟨rfl, by rw [hexponent]; rfl⟩]
  rcases Nat.eq_zero_or_pos n with rfl | hpos
  · show (if (rest.takeWhile Char.isDigit).isEmpty then readFraction negative 0 0 rest else _) = _
    rw [htake]
    exact hfraction
  · have hdigits : ∀ c ∈ Nat.toDigits 10 n, c.isDigit = true := fun _ => isDigit_of_mem_toDigits
    have hgather : gather 0 (Nat.toDigits 10 n) = (n, []) := by
      have hvalue : Nat.ofDigitChars 10 (Nat.toDigits 10 n) 0 = n := Nat.ofDigitChars_ten_toDigits
      rw [gather_eq (by rw [hvalue]; exact hn), hvalue]
    have htakeAll : (Nat.toDigits 10 n ++ rest).takeWhile Char.isDigit = Nat.toDigits 10 n := by
      rw [List.takeWhile_append_of_pos hdigits, htake, List.append_nil]
    have hdropAll : (Nat.toDigits 10 n ++ rest).dropWhile Char.isDigit = rest := by
      rw [List.dropWhile_append_of_pos hdigits, hdrop]
    obtain ⟨c, cs, hcs, hc⟩ := toDigits_eq_cons n
    have hne : c ≠ '0' := by
      rintro rfl
      exact head_toDigits_ne hpos (by rw [hcs]; rfl)
    rw [hcs] at htakeAll hdropAll hgather ⊢
    unfold readNumber
    split
    next heq => cases heq
    next heq => exact absurd (List.cons.inj heq).1 hne
    next heq =>
      cases heq
      rw [if_pos hc, htakeAll, hgather, hdropAll]
      exact hfraction

theorem ne_of_isDigit {c d : Char} (hc : c.isDigit = true) (hd : d.isDigit = false) : c ≠ d := by
  rintro rfl
  exact absurd (hc.symm.trans hd) (by decide)

/-- The text of an integer starts with a sign or a digit. -/
theorem ofInt_eq_cons (n : Int) :
    ∃ c cs, Decimal.ofInt n = c :: cs ∧ (c = '-' ∨ c.isDigit = true) := by
  unfold Decimal.ofInt
  split
  · exact ⟨_, _, rfl, .inl rfl⟩
  · obtain ⟨c, cs, hcs, hc⟩ := toDigits_eq_cons n.natAbs
    exact ⟨c, cs, hcs, .inr hc⟩

/-- An integer that fits into 64 bits is read from its text. -/
theorem readScalar_ofInt {n : Int} (hlow : -(1 <<< 63) ≤ n) (hhigh : n < 1 <<< 64)
    {rest : List Char} (hrest : endsValue rest = true) {c : Char} {cs : List Char}
    (h : Decimal.ofInt n ++ rest = c :: cs) :
    readScalar none c cs = .ok (int n, rest) := by
  have hfits : n.natAbs ≤ significandLimit := by
    have hlimit : significandLimit = 18446744073709551615 := rfl
    omega
  have hread (negative : Bool) := readNumber_toDigits hfits negative hrest
  unfold Decimal.ofInt at h
  split at h
  next hneg =>
    cases h
    have hvalue : integerOrFloat true n.natAbs = int n := by
      have hlimit : 0 < n.natAbs ∧ n.natAbs ≤ 1 <<< 63 := by omega
      rw [integerOrFloat, if_neg (by decide), if_pos hlimit]
      exact congrArg int (by omega)
    exact (hread true).trans (by rw [hvalue])
  next hneg =>
    have hc : c.isDigit = true := by
      obtain ⟨d, ds, hds, hd⟩ := toDigits_eq_cons n.natAbs
      rw [hds] at h
      cases h
      exact hd
    have hvalue : integerOrFloat false n.natAbs = int n := congrArg int (by omega)
    rw [readScalar, if_neg (ne_of_isDigit hc rfl), if_neg (ne_of_isDigit hc rfl),
      if_neg (ne_of_isDigit hc rfl), if_neg (ne_of_isDigit hc rfl), if_neg (ne_of_isDigit hc rfl),
      if_pos hc, ← h, hread false, hvalue]

end PathRouter.Json

import Mathlib.Order.Bounds.Basic
import PathRouter.Proofs.Pattern.Groups

/-!
# What comes of compiling a pattern

The placeholders of a pattern are looked at from left to right, and the first one that is at fault
decides: its key may be unknown, or its name may have stood before.  Only then is the regular
expression read, and it is rejected for the first name that cannot be that of a group.

* `Template.IsFault` — what is wrong with a placeholder, seen from the placeholders alone;
* `Template.expression_eq_error` — the first fault is the one that is reported;
* `Template.parse_source_eq_error` — a name that no group can have is reported by the reader;
* `compilePath_of_isLeast_isFault`, `compilePath_of_isGroupName_eq_false` — the two ways to fail,
  if the size is left out;
* `compilePath_outcome` — all outcomes, for every pattern.
-/

namespace PathRouter

open Regex

/-! ## Faults -/

/-- The keys of the table. -/
def Assertion.keys : List String := ["a", "ai", "h", "i", "*"]

theorem Assertion.ofKey?_eq_none_iff {key : String} : ofKey? key = none ↔ key ∉ keys := by
  unfold ofKey?
  split <;> simp_all [keys]

namespace Placeholder

/-- The key of a placeholder is not in the table. -/
def HasUnknownKey (p : Placeholder) : Prop :=
  ∃ key ∈ p.key, String.ofList key ∉ Assertion.keys

theorem assertion?_eq_none_iff {p : Placeholder} : p.assertion? = none ↔ p.HasUnknownKey := by
  obtain ⟨name, key⟩ := p
  cases key with
  | none => simp [assertion?, HasUnknownKey]
  | some key => simpa [assertion?, HasUnknownKey] using Assertion.ofKey?_eq_none_iff

theorem isSome_assertion?_iff {p : Placeholder} :
    p.assertion?.isSome = true ↔ ¬ p.HasUnknownKey := by
  rw [← assertion?_eq_none_iff, Option.isSome_iff_ne_none]

/-- Number `k` of some placeholders is at fault: its key is unknown, or its name stands before
it. -/
def IsFault (ps : List Placeholder) (k : Nat) : Prop :=
  ∃ p, ps[k]? = some p ∧ (p.HasUnknownKey ∨ p.name ∈ (ps.take k).map name)

/-- Placeholders without fault have known keys and different names. -/
theorem forall_not_isFault_iff {ps : List Placeholder} : (∀ k, ¬ IsFault ps k) ↔
    (∀ p ∈ ps, p.assertion?.isSome = true) ∧ (ps.map name).Nodup := by
  simp only [isSome_assertion?_iff]
  constructor
  · intro h
    refine ⟨fun p hp hkey => ?_, ?_⟩
    · obtain ⟨k, hk⟩ := List.getElem?_of_mem hp
      exact h k ⟨p, hk, Or.inl hkey⟩
    · refine List.pairwise_map.2 (List.pairwise_iff_getElem.2 fun i j hi hj hij e => ?_)
      refine h j ⟨ps[j], List.getElem?_eq_getElem hj, Or.inr (List.mem_map.2 ⟨ps[i], ?_, e⟩)⟩
      exact List.mem_take_iff_getElem.2 ⟨i, by omega, rfl⟩
  · rintro ⟨hkeys, hnames⟩ k ⟨p, hk, hkey | hname⟩
    · exact hkeys p (List.mem_of_getElem? hk) hkey
    · obtain ⟨hlt, rfl⟩ := List.getElem?_eq_some_iff.1 hk
      obtain ⟨q, hq, e⟩ := List.mem_map.1 hname
      obtain ⟨i, hi, rfl⟩ := List.mem_take_iff_getElem.1 hq
      exact List.pairwise_iff_getElem.1 (List.pairwise_map.1 hnames) i k (by omega) hlt
        (by omega) e

/-- The placeholders before the first fault are without fault. -/
theorem forall_not_isFault_take {ps : List Placeholder} {k : Nat} (h : ∀ j < k, ¬ IsFault ps j) :
    ∀ j, ¬ IsFault (ps.take k) j := by
  rintro j ⟨p, hp, hfault⟩
  have hj : j < k := by
    have := (List.getElem?_eq_some_iff.1 hp).1
    rw [List.length_take] at this
    omega
  rw [List.getElem?_take_of_lt hj] at hp
  rw [List.take_take, Nat.min_eq_left (Nat.le_of_lt hj)] at hfault
  exact h j hj ⟨p, hp, hfault⟩

end Placeholder

/-! ## The fault that is reported -/

namespace Template

/-- The first placeholder with an unknown key or a repeated name is reported, the key if both are
the case. -/
theorem expression_eq_error {pattern : String} {t : Template} {seen : List (List Char)}
    {before after : List Placeholder} {p : Placeholder}
    (hsplit : t.placeholders = before ++ p :: after)
    (hknown : ∀ q ∈ before, q.assertion?.isSome = true) (hnew : ∀ q ∈ before, q.name ∉ seen)
    (hnodup : (before.map Placeholder.name).Nodup) :
    (p.assertion? = none → expression pattern seen t =
      .error (.unknownAssertion pattern (String.ofList (p.key.getD [])))) ∧
    (p.assertion?.isSome = true → p.name ∈ seen ++ before.map Placeholder.name →
      expression pattern seen t = .error (.duplicateCapture pattern (String.ofList p.name))) := by
  induction t generalizing seen before with
  | nil => simp at hsplit
  | cons s t ih =>
      cases s with
      | char c =>
          obtain ⟨hkey, hname⟩ := ih hsplit hknown hnew hnodup
          refine ⟨fun h => ?_, fun h h' => ?_⟩
          · rw [expression, hkey h]
            rfl
          · rw [expression, hname h h']
            rfl
      | placeholder q =>
          rw [placeholders_placeholder] at hsplit
          cases before with
          | nil =>
              obtain ⟨rfl, -⟩ := List.cons.inj hsplit
              refine ⟨fun h => by simp only [expression, h], fun h h' => ?_⟩
              obtain ⟨a, ha⟩ := Option.isSome_iff_exists.1 h
              have hcont : seen.contains q.name = true := by simpa using h'
              simp only [expression, ha, hcont, if_true]
          | cons r before =>
              rw [List.cons_append, List.cons.injEq] at hsplit
              obtain ⟨rfl, hsplit⟩ := hsplit
              rw [List.forall_mem_cons] at hknown hnew
              rw [List.map_cons, List.nodup_cons] at hnodup
              obtain ⟨a, ha⟩ := Option.isSome_iff_exists.1 hknown.1
              have hcont : seen.contains q.name = false := by simpa using hnew.1
              have hrest : ∀ r ∈ before, r.name ∉ q.name :: seen := by
                intro r hr
                rw [List.mem_cons, not_or]
                exact ⟨fun e => hnodup.1 (e ▸ List.mem_map_of_mem hr), hnew.2 r hr⟩
              obtain ⟨hkey, hname⟩ := ih hsplit hknown.2 hrest hnodup.2
              refine ⟨fun h => ?_, fun h h' => ?_⟩
              · simp only [expression, ha, hcont, Bool.false_eq_true, if_false, hkey h]
                rfl
              · have hmem : p.name ∈ (q.name :: seen) ++ before.map Placeholder.name := by
                  simp only [List.map_cons, List.mem_append, List.mem_cons] at h' ⊢
                  tauto
                simp only [expression, ha, hcont, Bool.false_eq_true, if_false, hname h hmem]
                rfl

end Template

/-- A pattern whose expression is not written down fails for that reason. -/
theorem compilePath_of_expression_eq_error {pattern : String} {t : Template}
    (hscan : Template.scan pattern.toList = t) (hne : t.placeholders ≠ []) {e : PatternError}
    (h : t.expression pattern [] = .error e) : compilePath pattern = .error e := by
  have hempty : t.placeholders.isEmpty = false := by simpa using hne
  simp only [compilePath, hscan, hempty, h]
  rfl

/-! ## Names that no group can have -/

namespace Regex.State

/-- The reader stops at the first character that does not fit into a name. -/
theorem readName_eq_error_of_mem {name : List Char} (hclose : '>' ∉ name) {c : Char}
    (hc : c ∈ name) (hbad : isNameChar c = false) (rest : List Char) :
    readName false (name ++ '>' :: rest) = .error .nameInvalid := by
  induction name with
  | nil => cases hc
  | cons d ds ih =>
      rw [List.mem_cons, not_or] at hclose
      rw [List.cons_append, readName, if_neg (by simpa using Ne.symm hclose.1)]
      by_cases hd : isNameChar d = true
      · rw [if_neg Bool.false_ne_true, if_pos hd]
        rcases List.mem_cons.1 hc with rfl | hc
        · rw [hbad] at hd
          cases hd
        · rw [ih hclose.2 hc]
          rfl
      · rw [if_neg Bool.false_ne_true, if_neg hd]

/-- A name that no group can have is an error of its own, whatever follows it. -/
theorem readName_eq_error {name : List Char} (hne : name ≠ []) (hclose : '>' ∉ name)
    (hbad : isGroupName name = false) (rest : List Char) :
    readName true (name ++ '>' :: rest) = .error .nameInvalid := by
  cases name with
  | nil => exact absurd rfl hne
  | cons d ds =>
      rw [List.mem_cons, not_or] at hclose
      rw [List.cons_append, readName, if_neg (by simpa using Ne.symm hclose.1), if_pos rfl]
      by_cases hd : isNameStart d = true
      · rw [isGroupName, hd, Bool.true_and, List.all_eq_false] at hbad
        obtain ⟨c, hc, hfit⟩ := hbad
        rw [if_pos hd, readName_eq_error_of_mem hclose.2 hc (by simpa using hfit)]
        rfl
      · rw [if_neg hd]

/-- The group of a placeholder is not opened under such a name. -/
theorem reached_group_eq_error {st : State} (hf : st.flags = {}) {p : Placeholder} (a : Assertion)
    (hne : p.name ≠ []) (hclose : '>' ∉ p.name) (hbad : isGroupName p.name = false)
    {rest : List Char} {n : Nat} (hn : (p.group a ++ rest).length ≤ n) :
    st.reached n (p.group a ++ rest) = .error .nameInvalid := by
  rw [p.group_eq] at hn ⊢
  obtain ⟨n, rfl⟩ : ∃ k, n = k + 1 := ⟨n - 1, by simp at hn; omega⟩
  have hfree : st.flags.freeSpacing = false := by rw [hf]
  have hstep : ∀ u, st.step '(' ('?' :: 'P' :: '<' :: (p.name ++ '>' :: u)) =
      .error .nameInvalid := by
    intro u
    show st.openAny _ = _
    rw [openAny, Flags.skip_of_not_freeSpacing hfree]
    show st.openNamed _ = _
    rw [openNamed, readName_eq_error hne hclose hbad]
    rfl
  simp only [List.cons_append, List.append_assoc, reached,
    Flags.skip_of_not_freeSpacing hfree, hstep]
  rfl

end Regex.State

namespace Template

/-- The first name that no group can have is reported, whatever follows it. -/
theorem reached_source_eq_error {t : Template} {s : Regex.State} (hf : s.flags = {})
    (hne : ∀ p ∈ t.placeholders, p.name ≠ []) (hclose : ∀ p ∈ t.placeholders, '>' ∉ p.name)
    (hnew : ∀ p ∈ t.placeholders, String.ofList p.name ∉ s.names)
    (hnodup : (t.placeholders.map Placeholder.name).Nodup) {p : Placeholder}
    (hp : p ∈ t.placeholders) (hbad : isGroupName p.name = false) {rest : List Char} {n : Nat}
    (hn : (t.source ++ rest).length ≤ n) :
    State.reached n s (t.source ++ rest) = .error .nameInvalid := by
  induction t generalizing s n with
  | nil => cases hp
  | cons x t ih =>
      cases x with
      | char c =>
          rw [source_char, List.append_assoc] at hn ⊢
          obtain ⟨m, hm, e⟩ := State.reads_quote_char hf c _ n hn
          rw [e]
          refine ih ?_ hne hclose ?_ hnodup hp hm
          · exact hf
          · exact hnew
      | placeholder q =>
          simp only [placeholders_placeholder, List.forall_mem_cons] at hne hclose hnew
          rw [placeholders_placeholder, List.map_cons, List.nodup_cons] at hnodup
          rw [source_placeholder, List.append_assoc] at hn ⊢
          by_cases hq : isGroupName q.name = true
          · -- this name is read, so it is not the one that is reported
            have hrest : p ∈ placeholders t := by
              rcases List.mem_cons.1 hp with rfl | hp
              · rw [hbad] at hq
                cases hq
              · exact hp
            obtain ⟨m, hm, e⟩ := State.reads_group hf q q.assertion hq hnew.1 _ n hn
            rw [e]
            refine ih ?_ hne.2 hclose.2 ?_ hnodup.2 hrest hm
            · exact hf
            · intro r hr
              rw [List.mem_cons, not_or]
              refine ⟨fun e => hnodup.1 ?_, hnew.2 r hr⟩
              have hname : r.name = q.name := by simpa using congrArg String.toList e
              exact hname ▸ List.mem_map_of_mem hr
          · exact State.reached_group_eq_error hf q.assertion hne.1 hclose.1 (by simpa using hq) hn

/-- An expression with a name that no group can have is rejected for this name. -/
theorem parse_source_eq_error {t : Template} (hne : ∀ p ∈ t.placeholders, p.name ≠ [])
    (hclose : ∀ p ∈ t.placeholders, '>' ∉ p.name)
    (hnodup : (t.placeholders.map Placeholder.name).Nodup) {p : Placeholder}
    (hp : p ∈ t.placeholders) (hbad : isGroupName p.name = false) :
    Node.parse ('^' :: t.source ++ ['$']) = .error .nameInvalid := by
  have hstart : State.Reads {} ['^'] { items := [{ node := .anchor .textStart }] } :=
    State.reads_of_step (u := []) rfl fun _ => rfl
  obtain ⟨m, hm, e⟩ := hstart (t.source ++ ['$']) _ (Nat.le_refl _)
  have hreached : State.reached ('^' :: t.source ++ ['$']).length {} ('^' :: t.source ++ ['$']) =
      .error .nameInvalid :=
    e.trans (reached_source_eq_error rfl hne hclose (by simp) hnodup hp hbad hm)
  rw [Node.parse, State.run_eq_reached, hreached]
  rfl

end Template

/-! ## All outcomes -/

section Compiling

variable {pattern : String} {t : Template}

/-- With placeholders, a success is a regular expression. -/
theorem compilePath_eq_literal_iff (hscan : Template.scan pattern.toList = t) :
    compilePath pattern = .ok .literal ↔ t.placeholders = [] := by
  refine ⟨fun h => ?_, fun h => compilePath_of_literal (hscan ▸ h)⟩
  by_contra hne
  cases hexpr : t.expression pattern [] with
  | error e =>
      rw [compilePath_of_expression_eq_error hscan hne hexpr] at h
      cases h
  | ok e =>
      obtain ⟨-, hknown, -, hnodup⟩ := Template.of_expression_eq_ok hexpr
      rw [compilePath_eq hscan hknown hnodup hne] at h
      split at h <;> cases h

/-- The first placeholder at fault is reported, whatever stands behind it. -/
theorem compilePath_of_isLeast_isFault (hscan : Template.scan pattern.toList = t) {k : Nat}
    {p : Placeholder} (hleast : IsLeast {k | Placeholder.IsFault t.placeholders k} k)
    (hp : t.placeholders[k]? = some p) :
    (p.HasUnknownKey → compilePath pattern =
      .error (.unknownAssertion pattern (String.ofList (p.key.getD [])))) ∧
    (¬ p.HasUnknownKey → compilePath pattern =
      .error (.duplicateCapture pattern (String.ofList p.name))) := by
  have hne : t.placeholders ≠ [] := fun hnil => by simp [hnil] at hp
  obtain ⟨hlt, hpk⟩ := List.getElem?_eq_some_iff.1 hp
  have hsplit : t.placeholders = t.placeholders.take k ++ p :: t.placeholders.drop (k + 1) := by
    rw [← hpk, List.getElem_cons_drop, List.take_append_drop]
  obtain ⟨hknown, hnodup⟩ := Placeholder.forall_not_isFault_iff.1
    (Placeholder.forall_not_isFault_take fun j hj hfault =>
      absurd (hleast.2 hfault) (Nat.not_le_of_lt hj))
  have hnew : ∀ q ∈ t.placeholders.take k, q.name ∉ ([] : List (List Char)) :=
    fun _ _ => List.not_mem_nil
  obtain ⟨hkey, hname⟩ := @Template.expression_eq_error pattern _ _ _ _ _ hsplit hknown hnew hnodup
  refine ⟨fun hunknown => ?_, fun hknownKey => ?_⟩
  · exact compilePath_of_expression_eq_error hscan hne
      (hkey (Placeholder.assertion?_eq_none_iff.2 hunknown))
  · refine compilePath_of_expression_eq_error hscan hne
      (hname (Placeholder.isSome_assertion?_iff.2 hknownKey) ?_)
    obtain ⟨q, hq, hfault⟩ := hleast.1
    obtain rfl : p = q := Option.some.inj (hp.symm.trans hq)
    exact hfault.resolve_left hknownKey

/-- Without a fault, a name that no group can have is reported. -/
theorem compilePath_of_isGroupName_eq_false (hscan : Template.scan pattern.toList = t)
    (hfaults : ∀ k, ¬ Placeholder.IsFault t.placeholders k)
    (hclose : ∀ p ∈ t.placeholders, '>' ∉ p.name) {p : Placeholder} (hp : p ∈ t.placeholders)
    (hbad : isGroupName p.name = false) :
    compilePath pattern = .error (.invalid pattern .nameInvalid) := by
  obtain ⟨hknown, hnodup⟩ := Placeholder.forall_not_isFault_iff.1 hfaults
  have hwritable : ∀ q ∈ t.placeholders, q.name ≠ [] := fun q hq =>
    (Template.writable_of_mem_scan (hscan ▸ hq)).name_ne_nil
  have hparse : Node.parse t.anchored.toList = .error .nameInvalid := by
    rw [Template.anchored, String.toList_ofList]
    exact Template.parse_source_eq_error hwritable hclose hnodup hp hbad
  rw [compilePath_eq hscan hknown hnodup (List.ne_nil_of_mem hp),
    Regex.ofString_of_parse_error hparse]

end Compiling

theorem PatternError.message_nameInvalid (pattern : String) :
    (invalid pattern .nameInvalid).message =
      "Invalid route pattern '" ++ pattern ++ "': invalid capture group character" := by
  have hjoined :
      "': " ++ "invalid capture group character" = "': invalid capture group character" := by
    decide +kernel
  show "Invalid route pattern '" ++ pattern ++ "': " ++ "invalid capture group character" = _
  rw [String.append_assoc, hjoined]

/-- What comes of compiling a pattern.  It is literal if it has no placeholders.  Otherwise the
first placeholder at fault is reported, for its key rather than for its name.  Without a fault, and
without closing angle brackets in names, the names decide: if all of them can be those of groups,
they are the names to report, and the size of the expression is all that can be in the way; if not,
the fault named in the last line of the report is the same for all of them. -/
theorem compilePath_outcome (pattern : String) {t : Template}
    (hscan : Template.scan pattern.toList = t) :
    (compilePath pattern = .ok .literal ↔ t.placeholders = []) ∧
    (∀ k p, IsLeast {k | Placeholder.IsFault t.placeholders k} k → t.placeholders[k]? = some p →
      (∀ key ∈ p.key, String.ofList key ∉ Assertion.keys →
        compilePath pattern = .error (.unknownAssertion pattern (String.ofList key))) ∧
      (¬ p.HasUnknownKey →
        compilePath pattern = .error (.duplicateCapture pattern (String.ofList p.name)))) ∧
    (t.placeholders ≠ [] → (∀ k, ¬ Placeholder.IsFault t.placeholders k) →
      (∀ p ∈ t.placeholders, '>' ∉ p.name) →
      ((∀ p ∈ t.placeholders, isGroupName p.name = true) →
        (t.node.footprint ≤ maxFootprint → ∃ c, compilePath pattern = .ok (.pattern c) ∧
          c.captureNames = t.placeholders.map (String.ofList ·.name)) ∧
        (maxFootprint < t.node.footprint →
          compilePath pattern = .error (.invalid pattern .tooLarge))) ∧
      (¬ (∀ p ∈ t.placeholders, isGroupName p.name = true) →
        compilePath pattern = .error (.invalid pattern .nameInvalid) ∧
        (PatternError.invalid pattern .nameInvalid).message =
          "Invalid route pattern '" ++ pattern ++ "': invalid capture group character")) := by
  refine ⟨compilePath_eq_literal_iff hscan, fun k p hleast hp => ?_, fun hne hfaults hclose => ?_⟩
  · obtain ⟨hunknown, hrepeated⟩ := compilePath_of_isLeast_isFault hscan hleast hp
    refine ⟨fun key hpkey hkey => ?_, hrepeated⟩
    have hreported := hunknown ⟨key, hpkey, hkey⟩
    rwa [Option.mem_def.1 hpkey, Option.getD_some] at hreported
  · obtain ⟨hknown, hnodup⟩ := Placeholder.forall_not_isFault_iff.1 hfaults
    refine ⟨fun hnames => ?_, fun hnames => ⟨?_, PatternError.message_nameInvalid pattern⟩⟩
    · rcases compilePath_of_wellNamed hscan ⟨hnames, hnodup, hknown⟩ hne with
        ⟨hlarge, he⟩ | ⟨hsmall, c, hc, hof, -⟩
      · exact ⟨fun h => absurd hlarge (Nat.not_lt_of_le h), fun _ => he⟩
      · exact ⟨fun _ => ⟨c, hc, hof.captureNames⟩, fun h => absurd hsmall (Nat.not_le_of_lt h)⟩
    · obtain ⟨p, hp, hbad⟩ : ∃ p ∈ t.placeholders, isGroupName p.name = false := by
        simpa using hnames
      exact compilePath_of_isGroupName_eq_false hscan hfaults hclose hp hbad

/-! ## Placeholders at fault -/

/-- A placeholder of the same name as that of a number, with a key that is not in the table. -/
def clashingPlaceholder : Placeholder where
  name := "id".toList
  key := some "uuid".toList

/-- A placeholder with a hyphen in its name. -/
def hyphenedPlaceholder : Placeholder where
  name := "user-id".toList
  key := none

/-- A hyphen cannot be in the name of a group. -/
theorem Regex.isNameChar_hyphen : isNameChar '-' = false := by
  have halpha : Unicode.isAlphabetic '-' = false := by
    rw [Unicode.isAlphabetic, Unicode.RangeTable.covers_eq_any_toList]
    decide +kernel
  have hnumber : Unicode.isNumber '-' = false := by
    rw [Unicode.isNumber, Unicode.RangeTable.covers_eq_any_toList]
    decide +kernel
  simp [isNameChar, Unicode.isAlphanumeric, halpha, hnumber]

/-- A pattern in which the second placeholder has the name of the first one and an unknown key, and
one with a name that no group can have. -/
theorem compilePath_outcome_clashing :
    compilePath "/\x7Bid:i\x7D/\x7Bid:uuid\x7D" =
        .error (.unknownAssertion "/\x7Bid:i\x7D/\x7Bid:uuid\x7D" "uuid") ∧
      compilePath "/\x7Buser-id\x7D" = .error (.invalid "/\x7Buser-id\x7D" .nameInvalid) := by
  constructor
  · have hscan : Template.scan "/\x7Bid:i\x7D/\x7Bid:uuid\x7D".toList =
        [.char '/', .placeholder numberPlaceholder, .char '/',
          .placeholder clashingPlaceholder] := by
      have htext : "/\x7Bid:i\x7D/\x7Bid:uuid\x7D".toList =
          ['/'] ++ (numberPlaceholder.text ++ (['/'] ++ (clashingPlaceholder.text ++ []))) := by
            decide
      rw [htext, Template.scan_append (by decide), Template.scan_text_append (by decide),
        Template.scan_append (by decide), Template.scan_text_append (by decide), Template.scan]
      rfl
    have hunknown : String.ofList "uuid".toList ∉ Assertion.keys := by decide
    have hleast :
        IsLeast {k | Placeholder.IsFault [numberPlaceholder, clashingPlaceholder] k} 1 := by
      refine ⟨⟨clashingPlaceholder, rfl, Or.inl ⟨_, rfl, hunknown⟩⟩, fun k hk =>
        Nat.one_le_iff_ne_zero.2 ?_⟩
      rintro rfl
      obtain ⟨p, hp, hkey | hname⟩ := hk
      · cases hp
        exact absurd hkey (Placeholder.isSome_assertion?_iff.1 rfl)
      · exact absurd hname List.not_mem_nil
    exact ((compilePath_outcome _ hscan).2.1 1 clashingPlaceholder hleast rfl).1 _ rfl hunknown
  · have hscan : Template.scan "/\x7Buser-id\x7D".toList =
        [.char '/', .placeholder hyphenedPlaceholder] := by
      have htext :
          "/\x7Buser-id\x7D".toList = ['/'] ++ (hyphenedPlaceholder.text ++ []) := by decide
      rw [htext, Template.scan_append (by decide), Template.scan_text_append (by decide),
        Template.scan]
      rfl
    have hfaults : ∀ k, ¬ Placeholder.IsFault [hyphenedPlaceholder] k :=
      Placeholder.forall_not_isFault_iff.2 ⟨by decide, by decide⟩
    have hname : isGroupName hyphenedPlaceholder.name = false := by
      have hchars : hyphenedPlaceholder.name = 'u' :: "ser-id".toList := by decide
      rw [hchars, isGroupName, Bool.and_eq_false_iff, List.all_eq_false]
      exact Or.inr ⟨'-', by decide, by rw [isNameChar_hyphen]; exact Bool.false_ne_true⟩
    refine (((compilePath_outcome _ hscan).2.2 (by decide) hfaults (by decide)).2 fun h => ?_).1
    rw [h hyphenedPlaceholder List.mem_cons_self] at hname
    cases hname

end PathRouter

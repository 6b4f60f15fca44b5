import PathRouter.Proofs.Pattern.Expression

/-!
# Compiling a pattern, step by step

* `Regex.ofString_eq_ok_iff`, `Regex.ofString_of_parse_ok`, `Regex.ofString_of_parse_error` — a
  regular expression is made of a text exactly if the text can be read;
* `compilePath_of_wellNamed` — what becomes of a pattern with suitable names and keys;
* `of_compilePath_eq_pattern` — what is known of a pattern once it is compiled.
-/

namespace PathRouter

open Regex

namespace Regex

theorem ofString_eq_ok_iff {source : String} {r : Regex} :
    ofString source = .ok r ↔ r.source = source := by
  constructor
  · intro h
    unfold ofString at h
    split at h
    · cases h
      rfl
    · cases h
  · rintro rfl
    exact ofString_source r

theorem ofString_of_parse_ok {source : String} {node : Node}
    (h : Node.parse source.toList = .ok node) :
    ofString source = .ok { source, node, parse_source := h } :=
  ofString_eq_ok_iff.2 rfl

theorem ofString_of_parse_error {source : String} {e : Error}
    (h : Node.parse source.toList = .error e) : ofString source = .error e := by
  unfold ofString
  split
  next node h' =>
    rw [h] at h'
    cases h'
  next e' h' =>
    rw [h] at h'
    cases h'
    rfl

end Regex

/-- The regular expression of a template, as text. -/
def Template.anchored (t : Template) : String :=
  String.ofList ('^' :: t.source ++ ['$'])

/-- A compiled pattern is the one of a template. -/
structure CompiledPattern.IsOf (p : CompiledPattern) (t : Template) : Prop where
  /-- The regular expression. -/
  source : p.regex.source = t.anchored
  /-- The names to report are those of the placeholders. -/
  captureNames : p.captureNames = t.placeholders.map (String.ofList ·.name)

variable {pattern : String}

theorem compilePath_of_literal (h : (Template.scan pattern.toList).placeholders = []) :
    compilePath pattern = .ok .literal := by
  rw [compilePath, h]
  rfl

/-- A pattern with known keys and different names is compiled by way of its regular expression. -/
theorem compilePath_eq {t : Template} (hscan : Template.scan pattern.toList = t)
    (hknown : ∀ p ∈ t.placeholders, p.assertion?.isSome = true)
    (hnodup : (t.placeholders.map Placeholder.name).Nodup) (hne : t.placeholders ≠ []) :
    compilePath pattern = match Regex.ofString t.anchored with
      | .error cause => .error (.invalid pattern cause)
      | .ok regex =>
        .ok (.pattern { regex, captureNames := t.placeholders.map (String.ofList ·.name) }) := by
  have hexpr : Template.expression pattern [] t = .ok t.source :=
    Template.expression_eq hknown (by simp) hnodup
  have hempty : t.placeholders.isEmpty = false := by simpa using hne
  simp only [compilePath, hscan, hempty, hexpr]
  rfl

/-- A pattern of suitable names and keys is compiled to the tree of its template, unless that is
too large. -/
theorem compilePath_of_wellNamed {t : Template} (hscan : Template.scan pattern.toList = t)
    (ht : t.WellNamed) (hne : t.placeholders ≠ []) :
    (maxFootprint < t.node.footprint ∧ compilePath pattern = .error (.invalid pattern .tooLarge)) ∨
      (t.node.footprint ≤ maxFootprint ∧
        ∃ p, compilePath pattern = .ok (.pattern p) ∧ p.IsOf t ∧ p.regex.node = t.node) := by
  have hparse : Node.parse t.anchored.toList =
      if maxFootprint < t.node.footprint then .error .tooLarge else .ok t.node := by
    rw [Template.anchored, String.toList_ofList]
    exact Template.parse_source ht
  rw [compilePath_eq hscan ht.known ht.nodup hne]
  by_cases hlarge : maxFootprint < t.node.footprint
  · rw [if_pos hlarge] at hparse
    refine Or.inl ⟨hlarge, ?_⟩
    rw [Regex.ofString_of_parse_error hparse]
  · rw [if_neg hlarge] at hparse
    refine Or.inr ⟨Nat.le_of_not_lt hlarge, ?_⟩
    rw [Regex.ofString_of_parse_ok hparse]
    exact ⟨_, rfl, ⟨rfl, rfl⟩, rfl⟩

/-- If a pattern is compiled to a regular expression, then it has placeholders, of known keys and
different names, and the regular expression is the one of its template. -/
theorem of_compilePath_eq_pattern {p : CompiledPattern}
    (h : compilePath pattern = .ok (.pattern p)) {t : Template}
    (hscan : Template.scan pattern.toList = t) :
    t.placeholders ≠ [] ∧ (∀ q ∈ t.placeholders, q.assertion?.isSome = true) ∧
      (t.placeholders.map Placeholder.name).Nodup ∧ p.IsOf t := by
  have hempty : t.placeholders ≠ [] := by
    intro hnil
    rw [compilePath_of_literal (hscan ▸ hnil)] at h
    cases h
  have hok : ∃ e, Template.expression pattern [] t = .ok e := by
    cases hexpr : Template.expression pattern [] t with
    | ok e => exact ⟨e, rfl⟩
    | error e =>
        have hne : t.placeholders.isEmpty = false := by simpa using hempty
        simp only [compilePath, hscan, hne, hexpr] at h
        cases h
  obtain ⟨e, hexpr⟩ := hok
  obtain ⟨-, hknown, -, hnodup⟩ := Template.of_expression_eq_ok hexpr
  refine ⟨hempty, hknown, hnodup, ?_⟩
  rw [compilePath_eq hscan hknown hnodup hempty] at h
  split at h
  · cases h
  next regex hregex =>
    cases h
    exact ⟨Regex.ofString_eq_ok_iff.1 hregex, rfl⟩

end PathRouter

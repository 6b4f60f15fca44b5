import PathRouter.Proofs.Pattern.Acceptance
import PathRouter.Proofs.Pattern.Alternatives

/-!
# Patterns without placeholders

A pattern without placeholders is compared with paths as it stands.  One could as well write a
regular expression for it, which quotes it between two anchors: every character is then read as
itself, whatever it means elsewhere in an expression, and the same paths match.

* `Template.eq_map_char` — such a pattern is a run of characters, stray braces and all;
* `Template.sum_cost_map_char` — the size of its expression grows with its length in UTF-8;
* `Route.literal_matches_alike` — comparing and searching give the same answers, as long as the
  expression is not too large;
* `literalExpression_tooLarge` — it can be.
-/

namespace PathRouter

open Regex

/-! ## Runs of characters -/

theorem utf8ByteSize_ofList (cs : List Char) :
    (String.ofList cs).utf8ByteSize = (cs.map Char.utf8Size).sum := by
  induction cs with
  | nil => simp
  | cons c cs ih => simp [String.ofList_cons, ih]

namespace Template

theorem eq_map_char_of_placeholders_eq_nil {t : Template} (h : t.placeholders = []) :
    t = t.text.map .char := by
  induction t with
  | nil => rfl
  | cons s t ih =>
      cases s with
      | placeholder p => cases h
      | char c => exact congrArg (.char c :: ·) (ih h)

/-- A pattern without placeholders is a run of characters. -/
theorem eq_map_char {cs : List Char} (h : (scan cs).placeholders = []) :
    scan cs = cs.map .char := by
  have := eq_map_char_of_placeholders_eq_nil h
  rwa [text_scan] at this

theorem placeholders_map_char (cs : List Char) : placeholders (cs.map .char) = [] := by
  induction cs with
  | nil => rfl
  | cons c cs ih => rwa [List.map_cons, placeholders_char]

/-- There is no name or key that could be wrong. -/
theorem wellNamed_map_char (cs : List Char) : WellNamed (cs.map .char) where
  isGroupName := by simp [placeholders_map_char]
  nodup := by simp [placeholders_map_char]
  known := by simp [placeholders_map_char]

theorem text_map_char (cs : List Char) : text (cs.map .char) = cs := by
  induction cs with
  | nil => rfl
  | cons c cs ih => rw [List.map_cons, text, List.flatMap_cons, ← text, ih]; rfl

/-! ## Their size -/

/-- A character takes a state for each of its bytes. -/
theorem sum_cost_map_char (cs : List Char) :
    ((cs.map Segment.char).map (Segment.cost Costs.forwards)).sum =
      (String.ofList cs).utf8ByteSize * Costs.state := by
  have hchar : ∀ d, Segment.cost Costs.forwards (.char d) = d.utf8Size * Costs.state := by
    intro d
    show Costs.setForwards _ = _
    simp only [Costs.setForwards, CharSet.single?_single, Costs.char]
  rw [utf8ByteSize_ofList]
  induction cs with
  | nil => exact (Nat.zero_mul _).symm
  | cons c cs ih => simp only [List.map_cons, List.sum_cons, hchar, ih, Nat.add_mul]

/-- Literal text at the end of a pattern adds to its size. -/
theorem le_footprint_node_append (t : Template) (cs : List Char) :
    (String.ofList cs).utf8ByteSize * Costs.state ≤ (node (t ++ cs.map .char)).footprint := by
  rw [Node.footprint, cost_node, List.map_append, List.sum_append, sum_cost_map_char]
  omega

end Template

/-! ## Comparing and searching -/

/-- The regular expression for a text itself. -/
def literalExpression (text : String) : String :=
  String.ofList ('^' :: quote text.toList ++ ['$'])

theorem Template.parse_literalExpression (text : String) :
    Node.parse (literalExpression text).toList =
      if maxFootprint < (node (text.toList.map .char)).footprint then .error .tooLarge
      else .ok (node (text.toList.map .char)) := by
  have hparse := parse_source (wellNamed_map_char text.toList)
  rw [source_map_char] at hparse
  rw [literalExpression, String.toList_ofList]
  exact hparse

/-- The expression matches the text it was made of, and nothing else. -/
theorem Template.isSome_search_node_map_char (cs path : List Char) :
    ((node (cs.map .char)).search path).isSome = true ↔ path = cs := by
  rw [isSome_search_node (wellNamed_map_char cs).known]
  simp only [fills_iff_of_placeholders_eq_nil (placeholders_map_char cs), exists_eq_left,
    text_map_char]

theorem CompiledPattern.ofParts_of_parse_ok {source : String} {node : Node}
    (h : Node.parse source.toList = .ok node) (captureNames : List String) :
    ofParts source captureNames =
      .ok { regex := { source, node, parse_source := h }, captureNames } := by
  rw [ofParts, Regex.ofString_of_parse_ok h]
  rfl

theorem CompiledPattern.ofParts_of_parse_error {source : String} {e : Error}
    (h : Node.parse source.toList = .error e) (captureNames : List String) :
    ofParts source captureNames = .error e := by
  rw [ofParts, Regex.ofString_of_parse_error h]
  rfl

/-- A route without placeholders compares paths with its pattern.  The regular expression that
quotes the pattern gives the same answer for every path, and it is accepted unless it is too large.
It is never too large for a pattern of at most ten thousand characters. -/
theorem Route.literal_matches_alike {α : Type} (r : Route α) (h : hasPlaceholder r.path = false) :
    (∃ c, r.compile = .ok c ∧ c.matcher = .literal ∧
      (∀ path, c.matchPath path = if r.path = path then some [] else none) ∧
      ((Template.scan r.path.toList).node.footprint ≤ maxFootprint →
        ∃ p, CompiledPattern.ofParts (literalExpression r.path) [] = .ok p ∧
          ∀ path, p.captures? path = c.matchPath path ∧
            p.isMatch path = (c.matchPath path).isSome)) ∧
    (maxFootprint < (Template.scan r.path.toList).node.footprint →
      CompiledPattern.ofParts (literalExpression r.path) [] = .error .tooLarge) ∧
    (r.path.length ≤ 10000 → (Template.scan r.path.toList).node.footprint ≤ maxFootprint) := by
  have hnil : (Template.scan r.path.toList).placeholders = [] := by simpa [hasPlaceholder] using h
  have hparse := Template.parse_literalExpression r.path
  rw [Template.eq_map_char hnil]
  refine ⟨⟨_, Route.compile_of_ok (compilePath_of_literal hnil), rfl, fun path => rfl,
    fun hfit => ?_⟩, fun hlarge => ?_, fun hlength => ?_⟩
  · rw [if_neg (Nat.not_lt_of_le hfit)] at hparse
    refine ⟨_, CompiledPattern.ofParts_of_parse_ok hparse [], fun path => ?_⟩
    have hsome : ((Template.node (r.path.toList.map .char)).search path.toList).isSome = true ↔
        r.path = path := by
      rw [Template.isSome_search_node_map_char, String.toList_inj, eq_comm]
    simp only [CompiledRoute.matchPath, CompiledPattern.captures?, CompiledPattern.isMatch,
      Regex.isMatch, Regex.search, List.filterMap_nil]
    by_cases heq : r.path = path
    · obtain ⟨q, hq⟩ := Option.isSome_iff_exists.1 (hsome.2 heq)
      rw [hq, if_pos heq]
      exact ⟨rfl, rfl⟩
    · have hnone := Option.not_isSome_iff_eq_none.1 (mt hsome.1 heq)
      rw [hnone, if_neg heq]
      exact ⟨rfl, rfl⟩
  · rw [if_pos hlarge] at hparse
    exact CompiledPattern.ofParts_of_parse_error hparse []
  · refine Template.footprint_node_le_maxFootprint ?_
    rwa [Template.text_map_char, String.length_toList]

/-- A pattern with stray braces and with operators of regular expressions, which stand for
themselves. -/
theorem literal_matches_alike_operators : hasPlaceholder "/a\x7B\x7D\x7B:(b|c)+$" = false ∧
    ∃ p, CompiledPattern.ofParts (literalExpression "/a\x7B\x7D\x7B:(b|c)+$") [] = .ok p ∧
      p.captures? "/a\x7B\x7D\x7B:(b|c)+$" = some [] ∧ p.captures? "/a\x7B\x7D\x7B:b" = none := by
  have hliteral : hasPlaceholder "/a\x7B\x7D\x7B:(b|c)+$" = false := by cbv
  obtain ⟨⟨c, -, -, hmatch, hfit⟩, -, hshort⟩ :=
    Route.literal_matches_alike (Route.mk "/a\x7B\x7D\x7B:(b|c)+$" .any ()) hliteral
  obtain ⟨p, hp, halike⟩ := hfit (hshort (by decide))
  refine ⟨hliteral, p, hp, ?_, ?_⟩
  · rw [(halike _).1, hmatch, if_pos rfl]
  · rw [(halike _).1, hmatch, if_neg (by decide)]

/-! ## A long text -/

/-- A text of characters that take four bytes each. -/
def longText (count : Nat) : List Char :=
  List.replicate count (Char.ofNat 0x20000)

theorem utf8ByteSize_longText (count : Nat) :
    (String.ofList (longText count)).utf8ByteSize = 4 * count := by
  have hsize : (Char.ofNat 0x20000).utf8Size = 4 := by decide
  rw [utf8ByteSize_ofList, longText, List.map_replicate, List.sum_replicate_nat, hsize,
    Nat.mul_comm]

theorem scan_longText (count : Nat) :
    Template.scan (longText count) = (longText count).map .char := by
  have hbrace : '\x7B' ∉ longText count := by
    intro h
    exact absurd (List.eq_of_mem_replicate h) (by decide)
  have := Template.scan_append hbrace []
  rwa [List.append_nil, Template.scan, List.append_nil] at this

/-- There are patterns without placeholders whose regular expression is rejected. -/
theorem literalExpression_tooLarge :
    hasPlaceholder (String.ofList (longText 100000)) = false ∧
      CompiledPattern.ofParts (literalExpression (String.ofList (longText 100000))) [] =
        .error .tooLarge := by
  have hscan := scan_longText 100000
  refine ⟨?_, ?_⟩
  · rw [hasPlaceholder, String.toList_ofList, hscan, Template.placeholders_map_char]
    rfl
  · have hparse := Template.parse_literalExpression (String.ofList (longText 100000))
    have hlarge := Template.le_footprint_node_append [] (longText 100000)
    rw [List.nil_append, utf8ByteSize_longText] at hlarge
    rw [String.toList_ofList, if_pos (Nat.lt_of_lt_of_le (by decide) hlarge)] at hparse
    exact CompiledPattern.ofParts_of_parse_error hparse []

end PathRouter

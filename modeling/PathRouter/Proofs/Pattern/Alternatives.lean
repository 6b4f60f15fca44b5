import PathRouter.Proofs.Pattern.Compiling
import PathRouter.Proofs.Pattern.Scanning
import PathRouter.Proofs.Regex.Choice
import PathRouter.Proofs.Regex.Completeness

/-!
# The first alternative of a pattern

Whatever the names of its placeholders make of the expression of a pattern, its first alternative
is anchored to the start of the text and goes on with the literal text that the pattern starts
with.

* `Template.alternatives_eq_cons` — the first alternative;
* `Regex.Node.isPrefix_of_matches` — it matches only texts that start with that literal text;
* `CompiledPattern.isSome_captures?_iff` — a compiled pattern matches what an alternative matches;
* `CompiledPattern.isSome_captures?_iff_of_not_isPrefix` — so all other paths are left to the other
  alternatives.
-/

namespace PathRouter

open Regex

/-! ## What the first alternative matches -/

namespace Regex

theorem Node.isPrefix_of_spans {u text : List Char} {rest : List Node} {i j : Nat}
    (h : (Node.ofParts (u.map (fun c => .set (.single c)) ++ rest)).Spans text i j) :
    u <+: text.drop i := by
  induction u generalizing i with
  | nil => exact List.nil_prefix
  | cons c u ih =>
      obtain ⟨m, ⟨rfl, d, hget, hd⟩, hrest⟩ := (Node.spans_ofParts_cons _ _).1 h
      rw [CharSet.contains_single, decide_eq_true_eq] at hd
      rw [List.drop_eq_getElem?_toList_append, hget, hd]
      exact List.cons_prefix_cons.2 ⟨rfl, ih hrest⟩

/-- An expression that asks for the start of the text and then for some characters matches only
texts that start with them. -/
theorem Node.isPrefix_of_matches {u text : List Char} {rest : List Node}
    (h :
      (Node.ofParts (.anchor .textStart :: (u.map (fun c => .set (.single c)) ++ rest))).Matches
        text) :
    u <+: text := by
  obtain ⟨i, j, -, h⟩ := h
  obtain ⟨m, ⟨rfl, hstart⟩, hrest⟩ := (Node.spans_ofParts_cons _ _).1 h
  have hprefix := Node.isPrefix_of_spans hrest
  -- at the start of the text nothing has been taken off it
  have htake : text.take i = [] := by
    simpa [Anchor.holds, Place.nth] using hstart
  have hdrop : text.drop i = text := by
    rcases List.take_eq_nil_iff.1 htake with rfl | rfl
    · rfl
    · exact List.drop_nil
  rwa [hdrop] at hprefix

end Regex

/-! ## The first alternative -/

namespace Template

theorem source_append (t t' : Template) : source (t ++ t') = source t ++ source t' := by
  rw [source, List.flatMap_append]
  rfl

theorem source_map_char (u : List Char) : source (u.map .char) = quote u := by
  induction u with
  | nil => rfl
  | cons c u ih =>
      rw [List.map_cons, source_char, ih]
      exact (State.quote_append [c] u).symm

/-- The pieces that the reader has when it comes to what follows the literal text at the start. -/
def basis (u : List Char) : List Piece :=
  (u.map Piece.ofChar).reverse ++ [{ node := .anchor .textStart }]

/-- The first alternative of a pattern that starts with literal text starts with that text. -/
theorem startsWith_of_reached {u : List Char} {t : Template} (hne : t ≠ []) {st : Regex.State}
    (h : State.reached ('^' :: source (u.map .char ++ t) ++ ['$']).length {}
      ('^' :: source (u.map .char ++ t) ++ ['$']) = .ok st) : st.StartsWith (basis u) := by
  have hstart : State.Reads {} ('^' :: ([] ++ quote u)) { items := basis u } :=
    State.Reads.step rfl (fun _ => rfl) (State.reads_quote u rfl)
  have htext : '^' :: source (u.map .char ++ t) ++ ['$'] =
      '^' :: ([] ++ quote u) ++ (source t ++ ['$']) := by
    rw [source_append, source_map_char]
    simp
  rw [htext] at h
  obtain ⟨m, hm, e⟩ := hstart (source t ++ ['$']) _ (Nat.le_refl _)
  rw [e] at h
  cases t with
  | nil => exact absurd rfl hne
  | cons s t =>
      cases s with
      | char c =>
          rw [source_char, List.append_assoc] at hm h
          have hread : State.Reads { items := basis u } (quote [c]) _ :=
            State.reads_quote_char rfl c
          obtain ⟨m', -, e'⟩ := hread _ m hm
          rw [e'] at h
          refine State.StartsWith.changes ?_ (State.changes_of_reached h)
          exact Or.inl ⟨rfl, [_], rfl, by simp⟩
      | placeholder p =>
          rw [source_placeholder, List.append_assoc] at hm h
          obtain ⟨⟨st', rest⟩, m', hnamed, hreached⟩ := State.exists_openNamed_of_reached rfl hm h
          obtain ⟨name, rfl⟩ := State.eq_openCapture_of_openNamed hnamed
          refine State.StartsWith.changes ?_ (State.changes_of_reached hreached)
          exact Or.inl ⟨rfl, [], rfl, fun h => by cases h⟩

/-- The first alternative of a pattern is the start of the text, the literal text that the pattern
starts with, and more. -/
theorem alternatives_eq_cons {u : List Char} {t : Template} (hne : t ≠ []) {n : Node}
    (h : Node.parse ('^' :: source (u.map .char ++ t) ++ ['$']) = .ok n) :
    ∃ rest others, alternatives ('^' :: source (u.map .char ++ t) ++ ['$']) =
      Node.ofParts (.anchor .textStart :: (u.map (fun c => .set (.single c)) ++ rest)) ::
        others := by
  obtain ⟨st, hreached, hframes, -⟩ := Node.exists_reached_of_parse h
  obtain ⟨rest, others, hrest, hst⟩ := (startsWith_of_reached hne hreached).alternatives hframes
  have hbasis : (basis u).reverse = { node := .anchor .textStart } :: u.map Piece.ofChar := by
    simp [basis]
  have hchars : ∀ u : List Char, ((u.map Piece.ofChar).map Piece.node).flatMap Node.parts =
      u.map fun c => .set (.single c) := by
    intro u
    induction u with
    | nil => rfl
    | cons c u ih => exact congrArg (List.cons _) ih
  refine ⟨(rest.map Piece.node).flatMap Node.parts, others.map Piece.node, ?_⟩
  rw [alternatives, hreached]
  show st.alternatives.map Piece.node = _
  rw [hst, hbasis, List.cons_append, List.map_cons, Piece.concat_cons _ (by simp [hrest])]
  show Node.concat _ :: _ = _
  rw [Node.concat, List.map_cons, List.map_append, List.flatMap_cons, List.flatMap_append, hchars]
  rfl

/-- With suitable names there is one alternative only. -/
theorem tail_alternatives_of_wellNamed {t : Template} (ht : t.WellNamed) :
    (alternatives ('^' :: t.source ++ ['$'])).tail = [] := by
  obtain ⟨names, groups, hreads⟩ := reads_anchored ht
  rw [alternatives, hreads.reached_eq]
  rfl

end Template

/-! ## Compiled patterns -/

namespace CompiledPattern

/-- A compiled pattern matches a path exactly if one of the alternatives of its expression matches
some part of the path. -/
theorem isSome_captures?_iff (p : CompiledPattern) (path : String) :
    (p.captures? path).isSome = true ↔
      ∃ n ∈ alternatives p.regex.source.toList, n.Matches path.toList := by
  rw [captures?, Option.isSome_map, Regex.search, Node.isSome_search_iff]
  constructor
  · rintro ⟨i, j, hi, h⟩
    obtain ⟨n, hn, h⟩ := (Node.spans_of_parse p.regex.parse_source).1 h
    exact ⟨n, hn, i, j, hi, h⟩
  · rintro ⟨n, hn, i, j, hi, h⟩
    exact ⟨i, j, hi, (Node.spans_of_parse p.regex.parse_source).2 ⟨n, hn, h⟩⟩

variable {pattern : String} {p : CompiledPattern} {u cs : List Char}

/-- The first alternative of a compiled pattern starts with what stands in the pattern before the
first brace. -/
theorem alternatives_eq_cons (h : compilePath pattern = .ok (.pattern p)) (hu : '\x7B' ∉ u)
    (hpattern : pattern.toList = u ++ cs) : ∃ rest, alternatives p.regex.source.toList =
      Node.ofParts (.anchor .textStart :: (u.map (fun c => .set (.single c)) ++ rest)) ::
        (alternatives p.regex.source.toList).tail := by
  have hscan : Template.scan pattern.toList = u.map .char ++ Template.scan cs := by
    rw [hpattern, Template.scan_append hu]
  obtain ⟨hplaceholders, -, -, hof⟩ := of_compilePath_eq_pattern h hscan
  have hne : Template.scan cs ≠ [] := by
    intro hnil
    rw [hnil, List.append_nil] at hplaceholders
    refine hplaceholders (List.filterMap_eq_nil_iff.2 fun s hs => ?_)
    obtain ⟨c, -, rfl⟩ := List.mem_map.1 hs
    rfl
  have hparse := p.regex.parse_source
  rw [hof.source, Template.anchored, String.toList_ofList] at hparse ⊢
  obtain ⟨rest, others, hcons⟩ := Template.alternatives_eq_cons hne hparse
  exact ⟨rest, by rw [hcons]; rfl⟩

/-- A path that does not start with the literal text at the start of the pattern is left to the
other alternatives. -/
theorem isSome_captures?_iff_of_not_isPrefix (h : compilePath pattern = .ok (.pattern p))
    (hu : '\x7B' ∉ u) (hpattern : pattern.toList = u ++ cs) {path : String}
    (hout : ¬ u <+: path.toList) :
    (p.captures? path).isSome = true ↔
      ∃ n ∈ (alternatives p.regex.source.toList).tail, n.Matches path.toList := by
  obtain ⟨rest, hcons⟩ := alternatives_eq_cons h hu hpattern
  rw [isSome_captures?_iff]
  constructor
  · rintro ⟨n, hn, hmatch⟩
    rw [hcons] at hn
    rcases List.mem_cons.1 hn with rfl | hn
    · exact absurd (Node.isPrefix_of_matches hmatch) hout
    · exact ⟨n, hn, hmatch⟩
  · rintro ⟨n, hn, hmatch⟩
    exact ⟨n, List.mem_of_mem_tail hn, hmatch⟩

end CompiledPattern

end PathRouter

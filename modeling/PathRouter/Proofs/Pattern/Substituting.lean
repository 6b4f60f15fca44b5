import PathRouter.Proofs.Pattern.Captures
import PathRouter.Proofs.Pattern.Literals

/-!
# Values put into a pattern

Put values into a pattern and match the result: the values come back if the pattern keeps them
apart.  It does if every placeholder but the last takes no slash and has a slash after it.  Then
each value but the last ends at the first slash, and the last one is what is left when the literal
text after it is taken off.

* `Template.SlashSeparated` — the patterns that keep their values apart;
* `Template.Fills.unique` — there is only one way to make a path of such a pattern;
* `Route.captures_substituted` — the values come back, each under its name;
* `compilePath_longNumberPattern` — only the size of the regular expression can be in the way, and
  it can.
-/

namespace PathRouter

open Regex

/-! ## Values -/

/-- A value suits a placeholder if it is one of the texts of its assertion. -/
def Placeholder.Suits (p : Placeholder) (v : List Char) : Prop :=
  ∃ a, p.assertion? = some a ∧ a.Takes v

/-- Only the texts of a catch-all placeholder have slashes. -/
theorem Assertion.Takes.not_mem_slash {a : Assertion} {v : List Char} (h : a.Takes v)
    (ha : a ≠ .catchAll) : '/' ∉ v := by
  intro hmem
  cases a with
  | segment => exact h.2 _ hmem rfl
  | alpha => exact absurd (h.2 _ hmem) (by decide)
  | alphaNumeric => exact absurd (h.2 _ hmem) (by decide)
  | hex => exact absurd (h.2 _ hmem) (by decide)
  | digits => exact absurd (h.2 _ hmem) (by decide)
  | catchAll => exact ha rfl

/-- Two texts that go on after their first slash are told apart by it. -/
theorem append_slash_inj {u v x y : List Char} (hu : '/' ∉ u) (hv : '/' ∉ v)
    (h : u ++ '/' :: x = v ++ '/' :: y) : u = v ∧ x = y := by
  induction u generalizing v with
  | nil =>
      cases v with
      | nil => exact ⟨rfl, (List.cons.inj h).2⟩
      | cons d v => exact absurd ((List.cons.inj h).1 ▸ List.mem_cons_self) hv
  | cons c u ih =>
      rw [List.mem_cons, not_or] at hu
      cases v with
      | nil => exact absurd (List.cons.inj h).1.symm hu.1
      | cons d v =>
          rw [List.mem_cons, not_or] at hv
          obtain ⟨rfl, hrest⟩ := List.cons.inj h
          obtain ⟨rfl, rfl⟩ := ih hu.2 hv.2 hrest
          exact ⟨rfl, rfl⟩

namespace Template

/-- Suitable values make a path of the pattern. -/
theorem fills_fill {t : Template} {vs : List (List Char)}
    (h : List.Forall₂ Placeholder.Suits t.placeholders vs) : Fills t vs (fill t vs) := by
  induction t generalizing vs with
  | nil =>
      cases h
      exact .nil
  | cons s t ih =>
      cases s with
      | char c => exact .char (ih h)
      | placeholder p =>
          rw [placeholders_placeholder] at h
          cases h with
          | cons hv hvs =>
              obtain ⟨a, ha, hv⟩ := hv
              exact .placeholder ha hv (ih hvs)

/-! ## Patterns that keep their values apart -/

/-- Every placeholder before another one is no catch-all, and literal text that starts with a slash
follows it. -/
def SlashSeparated (t : Template) : Prop :=
  ∀ (u : Template) (p : Placeholder) (v : Template), t = u ++ .placeholder p :: v →
    v.placeholders ≠ [] → p.assertion? ≠ some .catchAll ∧ v.head? = some (.char '/')

theorem SlashSeparated.of_cons {s : Segment} {t : Template} (h : SlashSeparated (s :: t)) :
    SlashSeparated t :=
  fun u p v e => h (s :: u) p v (congrArg (s :: ·) e)

theorem SlashSeparated.cons {s : Segment} {t : Template} (h : SlashSeparated t)
    (hs : ∀ p, s = .placeholder p → t.placeholders ≠ [] →
      p.assertion? ≠ some .catchAll ∧ t.head? = some (.char '/')) : SlashSeparated (s :: t) := by
  intro u p v e hv
  cases u with
  | nil =>
      obtain ⟨rfl, rfl⟩ := List.cons.inj e
      exact hs p rfl hv
  | cons x u => exact h u p v (List.cons.inj e).2 hv

theorem placeholders_append (t t' : Template) :
    placeholders (t ++ t') = placeholders t ++ placeholders t' :=
  List.filterMap_append

/-- A pattern of one placeholder has nothing to keep apart. -/
theorem slashSeparated_of_length_le {t : Template} (h : t.placeholders.length ≤ 1) :
    SlashSeparated t := by
  rintro u p v rfl hv
  rw [placeholders_append, placeholders_placeholder, List.length_append, List.length_cons] at h
  have := List.length_pos_iff.2 hv
  omega

/-- There is only one way to make a path of a pattern that keeps its values apart. -/
theorem Fills.unique {t : Template} {vs ws : List (List Char)} {cs : List Char}
    (hsep : SlashSeparated t) (h : Fills t vs cs) (h' : Fills t ws cs) : vs = ws := by
  induction h generalizing ws with
  | nil => exact (fills_nil_iff.1 h').1.symm
  | char _ ih =>
      obtain ⟨cs', e, h'⟩ := fills_char_iff.1 h'
      obtain rfl := (List.cons.inj e).2
      exact ih hsep.of_cons h'
  | @placeholder p a t v vs cs ha hv hf ih =>
      obtain ⟨w, ws, cs', rfl, e, hw, hf'⟩ := (fills_placeholder_iff ha).1 h'
      by_cases hlast : t.placeholders = []
      · -- the same literal text stands at the end, so what is before it is the same
        obtain ⟨rfl, rfl⟩ := (fills_iff_of_placeholders_eq_nil hlast).1 hf
        obtain ⟨rfl, rfl⟩ := (fills_iff_of_placeholders_eq_nil hlast).1 hf'
        rw [List.append_cancel_right e]
      · obtain ⟨hcatch, hslash⟩ := hsep [] p t rfl hlast
        have hne : a ≠ .catchAll := fun ha' => hcatch (ha' ▸ ha)
        obtain ⟨t, rfl⟩ := List.head?_eq_some_iff.1 hslash
        obtain ⟨x, rfl, -⟩ := fills_char_iff.1 hf
        obtain ⟨y, rfl, -⟩ := fills_char_iff.1 hf'
        obtain ⟨rfl, rfl⟩ := append_slash_inj (hv.not_mem_slash hne) (hw.not_mem_slash hne) e
        rw [ih hsep.of_cons hf']

end Template

/-! ## Matching -/

/-- If a path can be made of a pattern in one way only, then this way is captured. -/
theorem CompiledPattern.captures?_of_unique {p : CompiledPattern} {t : Template} (hof : p.IsOf t)
    (hnode : p.regex.node = t.node) (ht : t.WellNamed) {path : String} {vs : List (List Char)}
    (h : t.Fills vs path.toList) (hunique : ∀ ws, t.Fills ws path.toList → vs = ws) :
    p.captures? path = some (t.captures vs) := by
  have hsome : (p.captures? path).isSome = true := by
    rw [captures?, Option.isSome_map, Regex.search, hnode]
    exact (Template.isSome_search_node ht.known _).2 ⟨vs, h⟩
  obtain ⟨captures, hcaptures⟩ := Option.isSome_iff_exists.1 hsome
  obtain ⟨ws, hws, rfl⟩ := exists_isLongest hof hnode ht hcaptures
  rw [hcaptures, hunique ws hws.1]

/-- Values that are put into a pattern come back from its route, each under the name of its
placeholder, if the pattern keeps them apart and has suitable names and keys.  Only the size of the
regular expression can be in the way, and that takes more than ten thousand characters. -/
theorem Route.captures_substituted {α : Type} (r : Route α) {t : Template}
    (hscan : Template.scan r.path.toList = t) (ht : t.WellNamed) (hsep : t.SlashSeparated)
    {vs : List (List Char)} (hvs : List.Forall₂ Placeholder.Suits t.placeholders vs) :
    (t.placeholders = [] ∨ t.node.footprint ≤ maxFootprint → ∃ c, r.compile = .ok c ∧
      (∀ p, c.matcher = .pattern p → p.isMatch (String.ofList (t.fill vs)) = true) ∧
      c.matchPath (String.ofList (t.fill vs)) =
        some ((t.placeholders.map (String.ofList ·.name)).zip (vs.map String.ofList))) ∧
    (t.placeholders ≠ [] → maxFootprint < t.node.footprint →
      r.compile = .error (.invalid r.path .tooLarge)) ∧
    (r.path.length ≤ 10000 → t.node.footprint ≤ maxFootprint) := by
  have htext : t.text = r.path.toList := by rw [← hscan, Template.text_scan]
  have hfill := Template.fills_fill hvs
  refine ⟨fun hfit => ?_, fun hne hlarge => ?_, fun hlen => ?_⟩
  · by_cases hnil : t.placeholders = []
    · refine ⟨_, Route.compile_of_ok (compilePath_of_literal (hscan ▸ hnil)), fun p hp =>
        (by cases hp), ?_⟩
      obtain ⟨rfl, hpath⟩ := (Template.fills_iff_of_placeholders_eq_nil hnil).1 hfill
      have hpath : r.path = String.ofList (t.fill []) := by rw [hpath, htext, String.ofList_toList]
      simp only [CompiledRoute.matchPath, if_pos hpath, hnil]
      rfl
    · rcases compilePath_of_wellNamed hscan ht hnil with ⟨hlarge, -⟩ | ⟨-, p, hp, hof, hnode⟩
      · rcases hfit with h | h
        · exact absurd h hnil
        · exact absurd hlarge (Nat.not_lt_of_le h)
      · have hpath : t.Fills vs (String.ofList (t.fill vs)).toList := by rwa [String.toList_ofList]
        have hcaptures := CompiledPattern.captures?_of_unique hof hnode ht hpath
          fun ws hws => hpath.unique hsep hws
        refine ⟨_, Route.compile_of_ok hp, fun q hq => ?_, hcaptures⟩
        cases hq
        rw [CompiledPattern.isMatch,
          Regex.isMatch, ← Option.isSome_map, ← CompiledPattern.captures?, hcaptures]
        rfl
  · rcases compilePath_of_wellNamed hscan ht hne with ⟨-, he⟩ | ⟨hsmall, -⟩
    · exact Route.compile_of_error he
    · exact absurd hlarge (Nat.not_lt_of_le hsmall)
  · refine Template.footprint_node_le_maxFootprint ?_
    rwa [htext, String.length_toList]

/-! ## A page in a language -/

/-- A placeholder for a language. -/
def languagePlaceholder : Placeholder where
  name := "lang".toList
  key := some ['a']

/-- A placeholder for the name of a page. -/
def pagePlaceholder : Placeholder where
  name := "page".toList
  key := some ['*']

/-- The pieces of the pattern for a page in a language. -/
def pageTemplate : Template :=
  [.char '/', .placeholder languagePlaceholder, .char '/', .placeholder pagePlaceholder]
    ++ ".html".toList.map .char

theorem scan_page : Template.scan "/\x7Blang:a\x7D/\x7Bpage:*\x7D.html".toList = pageTemplate := by
  have htext : "/\x7Blang:a\x7D/\x7Bpage:*\x7D.html".toList = ['/'] ++ (languagePlaceholder.text ++
      (['/'] ++ (pagePlaceholder.text ++ (".html".toList ++ [])))) := by decide
  rw [htext, Template.scan_append (by decide), Template.scan_text_append (by decide),
    Template.scan_append (by decide), Template.scan_text_append (by decide),
    Template.scan_append (by decide), Template.scan]
  rfl

/-- The text after the last placeholder may stand in its value, too. -/
theorem captures_substituted_page :
    ∃ c, (Route.mk "/\x7Blang:a\x7D/\x7Bpage:*\x7D.html" .any ()).compile = .ok c ∧
      c.matchPath "/en/guide/a.html.html" = some [("lang", "en"), ("page", "guide/a.html")] := by
  have hplaceholders :
      pageTemplate.placeholders = [languagePlaceholder, pagePlaceholder] := by decide
  have hwell : pageTemplate.WellNamed := by
    refine ⟨?_, by decide, by decide⟩
    rw [hplaceholders]
    simp only [List.forall_mem_cons, List.not_mem_nil, false_implies, implies_true, and_true]
    exact ⟨State.isGroupName_of_isLower (by decide) (by decide),
      State.isGroupName_of_isLower (by decide) (by decide)⟩
  have hlast :
      Template.SlashSeparated (.placeholder pagePlaceholder :: ".html".toList.map .char) :=
    Template.slashSeparated_of_length_le (by decide)
  have hsep : pageTemplate.SlashSeparated := by
    refine ((hlast.cons ?_).cons ?_).cons ?_
    · intro p h
      cases h
    · intro p h _
      cases h
      exact ⟨by decide, rfl⟩
    · intro p h
      cases h
  have hpage : Assertion.catchAll.Takes "guide/a.html".toList :=
    ⟨'g', "uide/a.html".toList, rfl, by decide +kernel, fun _ hd e => absurd (e ▸ hd) (by decide)⟩
  have hvs : List.Forall₂ Placeholder.Suits pageTemplate.placeholders
      ["en".toList, "guide/a.html".toList] := by
    rw [hplaceholders]
    exact .cons ⟨.alpha, rfl, by decide, List.all_eq_true.1 (by decide)⟩
      (.cons ⟨.catchAll, rfl, hpage⟩ .nil)
  obtain ⟨hok, -, hshort⟩ := Route.captures_substituted
    (Route.mk "/\x7Blang:a\x7D/\x7Bpage:*\x7D.html" .any ()) scan_page hwell hsep hvs
  obtain ⟨c, hc, -, hmatch⟩ := hok (Or.inr (hshort (by decide)))
  exact ⟨c, hc, hmatch⟩

/-! ## A pattern that is too large -/

/-- The pattern for a user by number, with a long text after it. -/
def longNumberPattern : String :=
  numberPattern ++ String.ofList (longText 100000)

/-- The pieces of the pattern. -/
def longNumberTemplate : Template :=
  numberTemplate ++ (longText 100000).map .char

/-- There are patterns of one placeholder, with a suitable name and key, that do not compile. -/
theorem compilePath_longNumberPattern :
    Template.scan longNumberPattern.toList = longNumberTemplate ∧ longNumberTemplate.WellNamed ∧
      longNumberTemplate.SlashSeparated ∧
      List.Forall₂ Placeholder.Suits longNumberTemplate.placeholders [['7']] ∧
      compilePath longNumberPattern = .error (.invalid longNumberPattern .tooLarge) := by
  have hplaceholders : longNumberTemplate.placeholders = [numberPlaceholder] := by
    rw [longNumberTemplate, Template.placeholders_append, Template.placeholders_map_char]
    rfl
  have hscan : Template.scan longNumberPattern.toList = longNumberTemplate := by
    have htext : longNumberPattern.toList =
        "/users/".toList ++ (numberPlaceholder.text ++ longText 100000) := by
      rw [longNumberPattern, String.toList_append, String.toList_ofList]
      rfl
    rw [htext, Template.scan_append (by decide), Template.scan_text_append (by decide),
      scan_longText]
    rfl
  have hwell : longNumberTemplate.WellNamed := by
    refine ⟨?_, ?_, ?_⟩
    · rw [hplaceholders]
      exact wellNamed_numberTemplate.isGroupName
    · rw [hplaceholders]
      decide
    · rw [hplaceholders]
      decide
  refine ⟨hscan, hwell, ?_, ?_, ?_⟩
  · apply Template.slashSeparated_of_length_le
    rw [hplaceholders]
    exact Nat.le_refl 1
  · rw [hplaceholders]
    exact .cons ⟨.digits, rfl, by decide, List.all_eq_true.1 (by decide)⟩ .nil
  · have hlarge := Template.le_footprint_node_append numberTemplate (longText 100000)
    rw [utf8ByteSize_longText, Costs.state] at hlarge
    rcases compilePath_of_wellNamed hscan hwell (by rw [hplaceholders]; simp) with ⟨-,
      he⟩ | ⟨hsmall, -⟩
    · exact he
    · rw [longNumberTemplate, maxFootprint] at hsmall
      omega

end PathRouter

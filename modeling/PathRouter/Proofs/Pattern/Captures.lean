import PathRouter.Proofs.Pattern.Acceptance

/-!
# What a route captures

If a path can be made of a pattern in several ways, then the captures are those of the way with the
longest first value, and among those the longest second value, and so on.

* `Template.captures` — values under the names of the placeholders;
* `Template.captures_recorded` — the captures that are picked out of what a search has recorded;
* `CompiledRoute.matchPath_eq_longest` — the captures of a route, for every pattern with suitable
  names and keys.
-/

namespace PathRouter

open Regex

/-! ## Lookup -/

theorem mem_of_lookup_eq_some {key value : String} {l : Captures} (h : l.lookup key = some value) :
    (key, value) ∈ l := by
  obtain ⟨l₁, l₂, rfl, -⟩ := List.lookup_eq_some_iff.1 h
  exact List.mem_append_right l₁ List.mem_cons_self

/-- If no name stands twice, then every entry is found. -/
theorem lookup_eq_some_iff_mem {l : Captures} (hl : (l.map Prod.fst).Nodup) {key value : String} :
    l.lookup key = some value ↔ (key, value) ∈ l := by
  refine ⟨mem_of_lookup_eq_some, ?_⟩
  intro h
  induction l with
  | nil => cases h
  | cons e l ih =>
      rw [List.map_cons, List.nodup_cons] at hl
      rcases List.mem_cons.1 h with rfl | h
      · rw [List.lookup_cons_self]
      · have hne : key ≠ e.1 := by
          rintro rfl
          exact hl.1 (List.mem_map.2 ⟨_, h, rfl⟩)
        rw [List.lookup_cons, beq_false_of_ne hne]
        exact ih hl.2 h

/-- Picking entries out of a list in which they are all found. -/
theorem filterMap_lookup {l found : Captures} (h : ∀ e ∈ l, found.lookup e.1 = some e.2) :
    ((l.map Prod.fst).filterMap fun name => (found.lookup name).map fun text => (name, text)) =
      l := by
  induction l with
  | nil => rfl
  | cons e l ih =>
      rw [List.forall_mem_cons] at h
      rw [List.map_cons, List.filterMap_cons, h.1, ih h.2]
      rfl

namespace Template

/-! ## Captures -/

/-- Some values under the names of the placeholders. -/
def captures (t : Template) (vs : List (List Char)) : Captures :=
  (t.placeholders.map fun p => String.ofList p.name).zip (vs.map String.ofList)

theorem map_fst_captures {t : Template} {vs : List (List Char)}
    (h : vs.length = t.placeholders.length) :
    (captures t vs).map Prod.fst = t.placeholders.map fun p => String.ofList p.name :=
  List.map_fst_zip (by simp [h])

/-- The names of captures are different if those of the placeholders are. -/
theorem nodup_captures {t : Template} (ht : (t.placeholders.map Placeholder.name).Nodup)
    {vs : List (List Char)} (h : vs.length = t.placeholders.length) :
    ((captures t vs).map Prod.fst).Nodup := by
  have hinj : (t.placeholders.map fun p => String.ofList p.name) =
      (t.placeholders.map Placeholder.name).map String.ofList := by
    rw [List.map_map]
    rfl
  rw [map_fst_captures h, hinj]
  refine List.pairwise_map.2 (ht.imp fun hne e => hne ?_)
  simpa using congrArg String.toList e

/-- A search records the values newest first. -/
theorem recorded_eq {t : Template} {vs : List (List Char)}
    (h : vs.length = t.placeholders.length) :
    recorded t vs = (captures t vs).reverse := by
  induction t generalizing vs with
  | nil => rfl
  | cons s t ih =>
      cases s with
      | char c => exact ih h
      | placeholder p =>
          cases vs with
          | nil => cases h
          | cons v vs =>
              rw [placeholders_placeholder, List.length_cons, List.length_cons,
                Nat.add_right_cancel_iff] at h
              rw [recorded, List.tail_cons, List.headD_cons, ih h]
              exact List.reverse_cons.symm

/-- What is picked out of the records of a search are the values, in order. -/
theorem captures_recorded {t : Template} (ht : (t.placeholders.map Placeholder.name).Nodup)
    {vs : List (List Char)} (h : vs.length = t.placeholders.length) :
    ((t.placeholders.map fun p => String.ofList p.name).filterMap fun name =>
      ((recorded t vs).lookup name).map fun text => (name, text)) = captures t vs := by
  have hnodup := nodup_captures ht h
  rw [← map_fst_captures h]
  apply filterMap_lookup
  intro e he
  rw [recorded_eq h, lookup_eq_some_iff_mem]
  · exact List.mem_reverse.2 he
  · rw [List.map_reverse]
    exact List.pairwise_reverse.2 (hnodup.imp Ne.symm)

end Template

/-- The captures of the tree of a template are the longest values. -/
theorem CompiledPattern.exists_isLongest {p : CompiledPattern} {t : Template} (hof : p.IsOf t)
    (hnode : p.regex.node = t.node) (ht : t.WellNamed) {path : String} {captures : Captures}
    (h : p.captures? path = some captures) :
    ∃ vs, t.IsLongest vs path.toList ∧ captures = t.captures vs := by
  rw [CompiledPattern.captures?, Regex.search, hnode, hof.captureNames] at h
  rcases Template.search_node ht.known path.toList with ⟨vs, e, hsome, hvs, hfound⟩ | ⟨hnone, -⟩
  · rw [hsome, Option.map_some, hfound, Template.captures_recorded ht.nodup hvs.1.length_eq] at h
    exact ⟨vs, hvs, (Option.some.inj h).symm⟩
  · rw [hnone] at h
    cases h

/-- The captures of a route are the longest values, each under the name of its placeholder.  The
pattern with the values in the place of its placeholders is the path, and every name leads to its
value. -/
theorem CompiledRoute.matchPath_eq_longest {α : Type} {r : Route α} {t : Template}
    (hscan : Template.scan r.path.toList = t) (ht : t.WellNamed) {c : CompiledRoute α}
    (hc : r.compile = .ok c) {path : String} {captures : Captures}
    (h : c.matchPath path = some captures) :
    ∃ vs, t.IsLongest vs path.toList ∧ captures = t.captures vs ∧
      vs.length = t.placeholders.length ∧ t.fill vs = path.toList ∧
      ∀ p v, (p, v) ∈ t.placeholders.zip vs →
        captures.lookup (String.ofList p.name) = some (String.ofList v) := by
  obtain ⟨rfl, hpath⟩ := Route.of_compile_eq_ok hc
  -- in either case there is a longest filling, and it has been recorded
  obtain ⟨vs, hvs, rfl⟩ : ∃ vs, t.IsLongest vs path.toList ∧ captures = t.captures vs := by
    by_cases hnil : t.placeholders = []
    · rw [compilePath_of_literal (hscan ▸ hnil)] at hpath
      simp only [CompiledRoute.matchPath, ← Except.ok.inj hpath] at h
      obtain ⟨rfl, rfl⟩ : c.path = path ∧ captures = [] := by simpa [eq_comm] using h
      have htext : c.path.toList = t.text := by
        rw [← hscan, Template.text_scan]
        rfl
      refine ⟨[], ⟨(Template.fills_iff_of_placeholders_eq_nil hnil).2 ⟨rfl, htext⟩, ?_⟩, ?_⟩
      · intro ws hws
        obtain rfl := ((Template.fills_iff_of_placeholders_eq_nil hnil).1 hws).1
        exact List.not_lex_nil
      · rw [Template.captures, hnil]
        rfl
    · rcases compilePath_of_wellNamed hscan ht hnil with ⟨-, he⟩ | ⟨-, p, hp, hof, hnode⟩
      · rw [he] at hpath
        cases hpath
      · rw [hp] at hpath
        simp only [CompiledRoute.matchPath, ← Except.ok.inj hpath] at h
        exact CompiledPattern.exists_isLongest hof hnode ht h
  have hlen := hvs.1.length_eq
  refine ⟨vs, hvs, rfl, hlen, hvs.1.fill_eq, ?_⟩
  intro p v hpv
  rw [lookup_eq_some_iff_mem (Template.nodup_captures ht.nodup hlen), Template.captures,
    List.zip_map]
  exact List.mem_map.2 ⟨_, hpv, rfl⟩

/-- What is captured of a user's path. -/
theorem matchPath_eq_number : ∃ c, (Route.mk numberPattern .any ()).compile = .ok c ∧
    c.matchPath "/users/42" = some [("id", "42")] := by
  obtain ⟨p, -, hnode, hc⟩ := compile_numberPattern
  have hsome :
      (CompiledRoute.matchPath ⟨numberPattern, .any, (), .pattern p⟩ "/users/42").isSome := by
    simp only [CompiledRoute.matchPath, CompiledPattern.captures?, Regex.search,
      Option.isSome_map, hnode]
    exact (Template.isSome_search_node wellNamed_numberTemplate.known _).2 ⟨_,
      fills_numberTemplate⟩
  obtain ⟨captures, hcaptures⟩ := Option.isSome_iff_exists.1 hsome
  obtain ⟨vs, hvs, rfl, -⟩ :=
    CompiledRoute.matchPath_eq_longest scan_numberPattern wellNamed_numberTemplate hc hcaptures
  have hfill : numberTemplate.Fills vs ("/users/".toList ++ ['4', '2']) := hvs.1
  obtain ⟨rfl, -⟩ := of_fills_numberTemplate hfill
  exact ⟨_, hc, hcaptures.trans (congrArg some (by decide))⟩

end PathRouter

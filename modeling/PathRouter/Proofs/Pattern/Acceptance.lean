import PathRouter.Proofs.Pattern.Compiling
import PathRouter.Proofs.Pattern.Matching
import PathRouter.Proofs.Pattern.Scanning
import PathRouter.Proofs.Pattern.Size
import PathRouter.Routing.Route

/-!
# Which paths a route recognises

The regular expression of a pattern is a way to say which paths can be made of it.  For a pattern
with suitable names and keys nothing is lost on the way: the route compiles, and it recognises the
paths that are the pattern with a text in the place of every placeholder.

* `CompiledRoute.Recognises` — what is expected of a compiled route;
* `Route.compile_recognises` — it is what one gets, and only the size of the regular expression can
  be in the way;
* `compilePath_crowdedPattern` — it can, though only for patterns of more than ten thousand
  characters.
-/

namespace PathRouter

open Regex

variable {α : Type}

namespace Template

/-- Without placeholders there is one path, the pattern itself. -/
theorem fills_iff_of_placeholders_eq_nil {t : Template} (h : t.placeholders = [])
    {vs : List (List Char)} {cs : List Char} : Fills t vs cs ↔ vs = [] ∧ cs = t.text := by
  induction t generalizing cs with
  | nil => exact fills_nil_iff
  | cons s t ih =>
      cases s with
      | placeholder p => cases h
      | char c =>
          rw [fills_char_iff]
          constructor
          · rintro ⟨cs', rfl, hf⟩
            obtain ⟨rfl, rfl⟩ := (ih h).1 hf
            exact ⟨rfl, rfl⟩
          · rintro ⟨rfl, rfl⟩
            exact ⟨text t, rfl, (ih h).2 ⟨rfl, rfl⟩⟩

theorem isSome_search_node {t : Template}
    (hknown : ∀ p ∈ t.placeholders, p.assertion?.isSome = true) (text : List Char) :
    (t.node.search text).isSome = true ↔ ∃ vs, t.Fills vs text := by
  rcases search_node hknown text with ⟨vs, e, hsome, hvs, -⟩ | ⟨hnone, hno⟩
  · rw [hsome]
    exact ⟨fun _ => ⟨vs, hvs.1⟩, fun _ => rfl⟩
  · rw [hnone]
    exact ⟨fun h => by simp at h, fun ⟨vs, h⟩ => absurd h (hno vs)⟩

end Template

theorem Route.compile_of_ok {r : Route α} {m : CompiledPath} (h : compilePath r.path = .ok m) :
    r.compile =
      .ok { path := r.path, methods := r.methods, target := r.target, matcher := m } := by
  rw [Route.compile, h]
  rfl

theorem Route.compile_of_error {r : Route α} {e : PatternError}
    (h : compilePath r.path = .error e) :
    r.compile = .error e := by
  rw [Route.compile, h]
  rfl

theorem Route.of_compile_eq_ok {r : Route α} {c : CompiledRoute α} (h : r.compile = .ok c) :
    c.route = r ∧ compilePath r.path = .ok c.matcher := by
  cases hm : compilePath r.path with
  | error e =>
      rw [Route.compile_of_error hm] at h
      cases h
  | ok m =>
      rw [Route.compile_of_ok hm] at h
      cases h
      exact ⟨rfl, rfl⟩

/-! ## A pattern with a number -/

/-- A placeholder for a number. -/
def numberPlaceholder : Placeholder where
  name := ['i', 'd']
  key := some ['i']

/-- A pattern of a word and a number. -/
def numberPattern : String := "/users/\x7Bid:i\x7D"

/-- The pieces of the pattern. -/
def numberTemplate : Template :=
  "/users/".toList.map Segment.char ++ [.placeholder numberPlaceholder]

theorem scan_numberPattern : Template.scan numberPattern.toList = numberTemplate := by
  have hp : numberPlaceholder.Writable := by decide
  have htext :
      numberPattern.toList = "/users/".toList ++ (numberPlaceholder.text ++ []) := by decide
  rw [htext, Template.scan_append (by decide), Template.scan_text_append hp, Template.scan]
  rfl

theorem wellNamed_numberTemplate : numberTemplate.WellNamed where
  isGroupName := by
    have hplaceholders : numberTemplate.placeholders = [numberPlaceholder] := by decide
    rw [hplaceholders, List.forall_mem_singleton]
    exact State.isGroupName_of_isLower (by decide) (by decide)
  nodup := by decide
  known := by decide

/-- The pattern compiles. -/
theorem compile_numberPattern : ∃ p : CompiledPattern, p.IsOf numberTemplate ∧
    p.regex.node = numberTemplate.node ∧
    (Route.mk numberPattern .any ()).compile = .ok ⟨numberPattern, .any, (), .pattern p⟩ := by
  have hshort : numberTemplate.node.footprint ≤ maxFootprint :=
    Template.footprint_node_le_maxFootprint (by decide)
  rcases compilePath_of_wellNamed scan_numberPattern wellNamed_numberTemplate (by decide) with
    ⟨hlarge, -⟩ | ⟨-, p, hp, hof, hnode⟩
  · exact absurd hlarge (Nat.not_lt_of_le hshort)
  · exact ⟨p, hof, hnode, Route.compile_of_ok hp⟩

/-- A number is a filling. -/
theorem fills_numberTemplate : numberTemplate.Fills [['4', '2']] "/users/42".toList :=
  Template.fills_chars_iff.2 ⟨['4', '2'], by decide,
    .placeholder (v := ['4', '2']) rfl ⟨by decide, List.all_eq_true.1 (by decide)⟩ .nil⟩

/-- What fills the pattern is what follows its word. -/
theorem of_fills_numberTemplate {vs : List (List Char)} {cs : List Char}
    (h : numberTemplate.Fills vs ("/users/".toList ++ cs)) :
    vs = [cs] ∧ Assertion.digits.Takes cs := by
  obtain ⟨cs', e, h⟩ := Template.fills_chars_iff.1 h
  obtain rfl : cs = cs' := List.append_cancel_left e
  obtain ⟨v, vs, rest, rfl, rfl, hv, h⟩ := (Template.fills_placeholder_iff rfl).1 h
  obtain ⟨rfl, rfl⟩ := Template.fills_nil_iff.1 h
  rw [List.append_nil]
  exact ⟨rfl, hv⟩

/-! ## Acceptance -/

/-- What is expected of the compiled route of a pattern: it compares paths exactly if the pattern
has no placeholder, it does not matter whether captures are asked for, and the paths it recognises
are those that can be made of the pattern. -/
structure CompiledRoute.Recognises (c : CompiledRoute α) (t : Template) : Prop where
  /-- Paths are compared if there is nothing else to do. -/
  literal_iff : c.matcher = .literal ↔ t.placeholders = []
  /-- A path matches if it has captures. -/
  isMatch_eq : ∀ p, c.matcher = .pattern p → ∀ path, p.isMatch path = (p.captures? path).isSome
  /-- The paths that are recognised. -/
  isSome_matchPath : ∀ path, (c.matchPath path).isSome = true ↔ ∃ vs, t.Fills vs path.toList

/-- A route whose pattern has suitable names and keys compiles, and it recognises the paths that
can be made of the pattern, unless the regular expression needs more memory than it may have.  That
takes more than ten thousand characters. -/
theorem Route.compile_recognises (r : Route α) {t : Template}
    (hscan : Template.scan r.path.toList = t) (ht : t.WellNamed) :
    (t.placeholders = [] ∨ t.node.footprint ≤ maxFootprint →
      ∃ c, r.compile = .ok c ∧ c.Recognises t) ∧
    (t.placeholders ≠ [] → maxFootprint < t.node.footprint →
      r.compile = .error (.invalid r.path .tooLarge)) ∧
    (r.path.length ≤ 10000 → t.node.footprint ≤ maxFootprint) := by
  have htext : t.text = r.path.toList := by rw [← hscan, Template.text_scan]
  refine ⟨fun hfit => ?_, fun hne hlarge => ?_, fun hlen => ?_⟩
  · by_cases hnil : t.placeholders = []
    · refine ⟨_, Route.compile_of_ok (compilePath_of_literal (hscan ▸ hnil)), ?_, ?_, ?_⟩
      · exact ⟨fun _ => hnil, fun _ => rfl⟩
      · intro p hp
        cases hp
      · intro path
        have hmatch : r.path = path ↔ path.toList = t.text := by
          rw [htext, eq_comm, ← String.toList_inj]
        simp only [CompiledRoute.matchPath, Template.fills_iff_of_placeholders_eq_nil hnil,
          exists_eq_left]
        rw [← hmatch]
        by_cases h : r.path = path <;> simp [h]
    · rcases compilePath_of_wellNamed hscan ht hnil with ⟨hlarge, -⟩ | ⟨-, p, hp, -, hnode⟩
      · rcases hfit with h | h
        · exact absurd h hnil
        · exact absurd hlarge (Nat.not_lt_of_le h)
      · refine ⟨_, Route.compile_of_ok hp, ?_, ?_, ?_⟩
        · exact ⟨fun h => (by cases h), fun h => absurd h hnil⟩
        · intro q hq path
          rw [CompiledPattern.isMatch, CompiledPattern.captures?, Regex.isMatch, Option.isSome_map]
        · intro path
          rw [← Template.isSome_search_node ht.known, ← hnode]
          simp only [CompiledRoute.matchPath, CompiledPattern.captures?, Regex.search,
            Option.isSome_map]
  · rcases compilePath_of_wellNamed hscan ht hne with ⟨-, he⟩ | ⟨hsmall, -⟩
    · exact Route.compile_of_error he
    · exact absurd hlarge (Nat.not_lt_of_le hsmall)
  · refine Template.footprint_node_le_maxFootprint ?_
    rwa [htext, String.length_toList]

/-- A route for users by number, whatever methods it accepts. -/
theorem compile_recognises_number :
    ∃ c, (Route.mk numberPattern .any ()).compile = .ok c ∧
      (c.matchPath "/users/42").isSome = true ∧ (c.matchPath "/users/me").isSome = false := by
  obtain ⟨hok, -, hshort⟩ :=
    Route.compile_recognises (Route.mk numberPattern .any ()) scan_numberPattern
      wellNamed_numberTemplate
  obtain ⟨c, hc, hrec⟩ := hok (Or.inr (hshort (by decide)))
  refine ⟨c, hc, (hrec.isSome_matchPath _).2 ⟨_, fills_numberTemplate⟩, ?_⟩
  rw [← Bool.not_eq_true, hrec.isSome_matchPath]
  rintro ⟨vs, h⟩
  have hfill : numberTemplate.Fills vs ("/users/".toList ++ ['m', 'e']) := h
  exact absurd ((of_fills_numberTemplate hfill).2.2 'm' (by simp)) (by decide)

/-! ## Patterns that are too large -/

namespace Template

/-- Placeholders for anything, with neighbours among the Chinese characters for names. -/
def crowd (count : Nat) : List Placeholder :=
  (List.range count).map fun i => { name := [Char.ofNat (0x4E00 + i)], key := some ['*'] }

theorem placeholders_map (ps : List Placeholder) : placeholders (ps.map .placeholder) = ps := by
  induction ps with
  | nil => rfl
  | cons p ps ih => rw [List.map_cons, placeholders_placeholder, ih]

theorem toNat_name {i : Nat} (h : i < 20000) : (Char.ofNat (0x4E00 + i)).toNat = 0x4E00 + i := by
  have hvalid : (0x4E00 + i).isValidChar := by
    rw [Nat.isValidChar]
    omega
  exact Unicode.toNat_ofNat hvalid

/-- There are enough characters. -/
theorem exists_of_mem_crowd {count : Nat} (hcount : count ≤ 20000) {p : Placeholder}
    (hp : p ∈ crowd count) : ∃ c : Char, 0x4E00 ≤ c.toNat ∧ c.toNat ≤ 0xA48C ∧
      p = { name := [c], key := some ['*'] } := by
  obtain ⟨i, hi, rfl⟩ := List.mem_map.1 hp
  rw [List.mem_range] at hi
  have := toNat_name (Nat.lt_of_lt_of_le hi hcount)
  exact ⟨_, by omega, by omega, rfl⟩

theorem writable_of_mem_crowd {count : Nat} (hcount : count ≤ 20000) {p : Placeholder}
    (hp : p ∈ crowd count) : p.Writable := by
  obtain ⟨c, hlow, -, rfl⟩ := exists_of_mem_crowd hcount hp
  refine Placeholder.writable_iff.2 ⟨by simp, ?_, by simp, rfl⟩
  have hcolon : c ≠ ':' := by rintro rfl; exact absurd hlow (by decide)
  have hclose : c ≠ '\x7D' := by rintro rfl; exact absurd hlow (by decide)
  simp [Placeholder.isNameChar, hcolon, hclose]

theorem wellNamed_crowd {count : Nat} (hcount : count ≤ 20000) :
    WellNamed ((crowd count).map .placeholder) where
  isGroupName := by
    rw [placeholders_map]
    intro p hp
    obtain ⟨c, hlow, hhigh, rfl⟩ := exists_of_mem_crowd hcount hp
    have hrun : (0x4E00, 0xA48C) ∈ Unicode.alphabeticRuns.toList := by decide +kernel
    have hletter : Unicode.isAlphabetic c = true :=
      Unicode.RangeTable.covers_of_mem hrun hlow hhigh
    simp [isGroupName, isNameStart, hletter]
  nodup := by
    rw [placeholders_map, crowd, List.map_map]
    refine List.pairwise_map.2 (List.nodup_range.imp_of_mem fun {i j} hi hj hne e => ?_)
    rw [List.mem_range] at hi hj
    have := congrArg Char.toNat (List.cons.inj e).1
    rw [toNat_name (by omega), toNat_name (by omega)] at this
    omega
  known := by
    rw [placeholders_map]
    intro p hp
    obtain ⟨c, -, -, rfl⟩ := exists_of_mem_crowd hcount hp
    rfl

/-- The assertion of a placeholder for anything is the most expensive one. -/
theorem le_cost_catchAll : 2000 ≤ Assertion.catchAll.node.cost Costs.backwards := by
  decide +kernel

theorem le_footprint_crowd (count : Nat) :
    2000 * count ≤ (node ((crowd count).map .placeholder)).footprint := by
  have hcosts : ((crowd count).map .placeholder).map (Segment.cost Costs.backwards) =
      List.replicate count (Assertion.catchAll.node.cost Costs.backwards) := by
    refine List.eq_replicate_iff.2 ⟨by simp [crowd], ?_⟩
    intro cost hcost
    simp only [crowd, List.map_map, List.mem_map, Function.comp_apply] at hcost
    obtain ⟨i, -, rfl⟩ := hcost
    rfl
  have hcost := cost_node Costs.backwards ((crowd count).map .placeholder)
  rw [hcosts, List.sum_replicate_nat] at hcost
  have hcount := Nat.mul_le_mul_left count le_cost_catchAll
  rw [Node.footprint, hcost]
  omega

end Template

/-- A pattern of placeholders for anything and of nothing else. -/
def crowdedPattern (count : Nat) : String :=
  String.ofList (Template.text ((Template.crowd count).map .placeholder))

theorem scan_crowdedPattern {count : Nat} (h : count ≤ 20000) :
    Template.scan (crowdedPattern count).toList = (Template.crowd count).map .placeholder := by
  rw [crowdedPattern, String.toList_ofList]
  exact Template.scan_text_placeholders fun p hp => Template.writable_of_mem_crowd h hp

/-- There are patterns with suitable names and keys that do not compile. -/
theorem compilePath_crowdedPattern :
    (Template.scan (crowdedPattern 10000).toList).WellNamed ∧
      compilePath (crowdedPattern 10000) = .error (.invalid (crowdedPattern 10000) .tooLarge) := by
  have hcount : 10000 ≤ 20000 := by omega
  have hscan := scan_crowdedPattern hcount
  have hwell := Template.wellNamed_crowd hcount
  have hne : (Template.placeholders ((Template.crowd 10000).map .placeholder)) ≠ [] := by
    rw [Template.placeholders_map, Template.crowd]
    simp
  refine ⟨hscan ▸ hwell, ?_⟩
  rcases compilePath_of_wellNamed hscan hwell hne with ⟨-, he⟩ | ⟨hsmall, -⟩
  · exact he
  · have := Template.le_footprint_crowd 10000
    rw [maxFootprint] at hsmall
    omega

end PathRouter

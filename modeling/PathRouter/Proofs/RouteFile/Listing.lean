import PathRouter.Proofs.Json.Decoding
import PathRouter.Proofs.RouteFile.Problems

/-!
# Method names in route files

A route of a route file lists names of methods.  When the list is decoded, empty names are left out
of it, and only what remains is looked at when problems are searched for.  So a name of nothing but
white space is reported, and an empty name never is: with other names beside it it is dropped, and
if there is no other one, the route is left without a restriction.

The routes that are written in a route file are described on its value, apart from decoding it.

* `RouteGroup.Within`, `RouteFile.Within` — the routes in a group and in a route file, as they are
  written;
* `RouteFile.mem_registrations_iff` — they are the routes that are registered;
* `RouteFile.blankMethod_reported_iff` — which routes are reported for a blank name, and which ones
  end up without a restriction.
-/

namespace PathRouter

open Json (Decoded Slot elements textOf part)

/-! ## Routes as they are written -/

namespace RouteEntry

/-- The names that a route lists as its methods. -/
def listed (v : Json) : List String :=
  (elements (v.part "methods" 1)).map fun name => textOf (some name)

/-- The route that is written. -/
def ofWritten (v : Json) : RouteEntry where
  path := textOf (v.part "path" 0)
  methods := .ofList (listed v)
  target := textOf (v.part "target" 2)

end RouteEntry

/-- In a group that stands inside groups with some stems, a route stands inside groups with the
stems that come last. -/
inductive RouteGroup.Within : List String → Json → List String → Json → Prop where
  /-- A route of the group itself. -/
  | own {stems : List String} {group route : Json} (h : route ∈ elements (group.part "routes" 1)) :
    Within stems group (stems ++ [textOf (group.part "prefix" 0)]) route
  /-- A route of a group inside the group. -/
  | nested {stems stems' : List String} {group inner route : Json}
    (hinner : inner ∈ elements (group.part "groups" 2))
    (h : Within (stems ++ [textOf (group.part "prefix" 0)]) inner stems' route) :
    Within stems group stems' route

/-- In a route file, a route stands inside groups with some stems. -/
def RouteFile.Within (file : Json) (stems : List String) (route : Json) : Prop :=
  (stems = [] ∧ route ∈ elements (file.part "routes" 0)) ∨
    ∃ group ∈ elements (file.part "groups" 1), RouteGroup.Within [] group stems route

/-! ## Decoding -/

variable {dialect : Json.Dialect} {v : Json}

/-- A list of names is decoded to the methods with these names. -/
theorem Methods.eq_of_decoded {part : Option Json} {m : Methods}
    (h : Decoded Methods.decode dialect .any part m) :
    m = .ofList ((elements part).map fun name => textOf (some name)) := by
  cases part with
  | none =>
      cases h
      rfl
  | some w =>
      simp only [Decoded, Methods.decode] at h
      cases hnames : Json.decodeList Json.decodeString dialect w with
      | error e =>
          rw [hnames] at h
          cases h
      | ok names =>
          have hlist : Decoded (Json.decodeList Json.decodeString) dialect [] (some w) names :=
            hnames
          rw [hnames] at h
          cases h
          refine congrArg Methods.ofList (hlist.eq_map fun {v name} hv => ?_)
          have hname : Decoded Json.decodeString dialect "" (some v) name := hv
          exact hname.eq_textOf

theorem RouteEntry.eq_of_decode {r : RouteEntry} (h : decode dialect v = .ok r) :
    r = ofWritten v := by
  have hpath : Decoded Json.decodeString dialect "" (v.part "path" 0) r.path :=
    Decoded.of_decodeRecord RouteEntry.path [] [_, _] h (Slot.sets_of fun _ _ => rfl) trivial
      ⟨Slot.keeps_of fun _ _ => rfl, Slot.keeps_of fun _ _ => rfl⟩
  have hmethods : Decoded Methods.decode dialect .any (v.part "methods" 1) r.methods :=
    Decoded.of_decodeRecord RouteEntry.methods [_] [_] h (Slot.sets_of fun _ _ => rfl)
      ⟨by simp, Slot.keeps_of fun _ _ => rfl⟩ (Slot.keeps_of fun _ _ => rfl)
  have htarget : Decoded Json.decodeString dialect "" (v.part "target" 2) r.target :=
    Decoded.of_decodeRecord RouteEntry.target [_, _] [] h (Slot.sets_of fun _ _ => rfl)
      ⟨⟨by simp, Slot.keeps_of fun _ _ => rfl⟩, ⟨by simp, Slot.keeps_of fun _ _ => rfl⟩⟩ trivial
  obtain ⟨path, methods, target⟩ := r
  rw [ofWritten, ← hpath.eq_textOf, ← htarget.eq_textOf, listed, ← Methods.eq_of_decoded hmethods]

namespace RouteGroup

variable {levels : Nat} {g : RouteGroup}

theorem stem_of_decode (h : decode (levels + 1) dialect v = .ok g) :
    g.stem = textOf (v.part "prefix" 0) := by
  have hstem : Decoded Json.decodeString dialect "" (v.part "prefix" 0) g.stem :=
    Decoded.of_decodeRecord RouteGroup.stem [] [_, _] h (Slot.sets_of fun _ _ => rfl) trivial
      ⟨Slot.keeps_of fun _ _ => rfl, Slot.keeps_of fun _ _ => rfl⟩
  exact hstem.eq_textOf

theorem routes_of_decode (h : decode (levels + 1) dialect v = .ok g) :
    g.routes = (elements (v.part "routes" 1)).map RouteEntry.ofWritten := by
  have hroutes :
      Decoded (Json.decodeList RouteEntry.decode) dialect [] (v.part "routes" 1) g.routes :=
    Decoded.of_decodeRecord RouteGroup.routes [_] [_] h (Slot.sets_of fun _ _ => rfl)
      ⟨by simp, Slot.keeps_of fun _ _ => rfl⟩ (Slot.keeps_of fun _ _ => rfl)
  exact hroutes.eq_map RouteEntry.eq_of_decode

theorem groups_of_decode (h : decode (levels + 1) dialect v = .ok g) :
    Decoded (Json.decodeList (decode levels)) dialect [] (v.part "groups" 2) g.groups :=
  Decoded.of_decodeRecord RouteGroup.groups [_, _] [] h (Slot.sets_of fun _ _ => rfl)
    ⟨⟨by simp, Slot.keeps_of fun _ _ => rfl⟩, ⟨by simp, Slot.keeps_of fun _ _ => rfl⟩⟩ trivial

theorem mem_registrationsOfAll {stems : List String} {groups : List RouteGroup}
    {r : Registration String} :
    r ∈ registrationsOfAll stems groups ↔ ∃ g ∈ groups, r ∈ g.registrations stems := by
  induction groups with
  | nil => simp [registrationsOfAll]
  | cons g gs ih => simp [registrationsOfAll, ih]

/-- The routes that a group registers are those written in it, at any depth. -/
theorem mem_registrations_iff {stems : List String} (h : decode levels dialect v = .ok g)
    {r : Registration String} : r ∈ g.registrations stems ↔
      ∃ stems' route, Within stems v stems' route ∧
      r = (RouteEntry.ofWritten route).registration stems' := by
  induction levels generalizing v g stems with
  | zero => cases h
  | succ levels ih =>
      have hstem := stem_of_decode h
      have hroutes := routes_of_decode h
      have hgroups := groups_of_decode h
      obtain ⟨stem, routes, groups⟩ := g
      obtain rfl : stem = _ := hstem
      obtain rfl : routes = _ := hroutes
      rw [registrations, List.mem_append, mem_registrationsOfAll, List.map_map, List.mem_map]
      constructor
      · rintro (⟨route, hroute, rfl⟩ | ⟨g, hg, hr⟩)
        · exact ⟨_, route, .own hroute, rfl⟩
        · obtain ⟨inner, hinner, hdecode⟩ := hgroups.mem_iff.1 hg
          obtain ⟨stems', route, hwithin, rfl⟩ := (ih hdecode).1 hr
          exact ⟨stems', route, .nested hinner hwithin, rfl⟩
      · rintro ⟨stems', route, hwithin, rfl⟩
        cases hwithin with
        | own hroute => exact .inl ⟨route, hroute, rfl⟩
        | nested hinner hwithin =>
            obtain ⟨g, hg, hdecode⟩ := hgroups.exists_of_mem hinner
            exact .inr ⟨g, hg, (ih hdecode).2 ⟨stems', route, hwithin, rfl⟩⟩

end RouteGroup

namespace RouteFile

variable {f : RouteFile}

/-- The routes that a route file registers are those written in it, at any depth. -/
theorem mem_registrations_iff (h : decode dialect v = .ok f) {r : Registration String} :
    r ∈ f.registrations [] ↔
      ∃ stems route, Within v stems route ∧
      r = (RouteEntry.ofWritten route).registration stems := by
  have hroutes :
      Decoded (Json.decodeList RouteEntry.decode) dialect [] (v.part "routes" 0) f.routes :=
    Decoded.of_decodeRecord RouteFile.routes [] [_, _, _] h (Slot.sets_of fun _ _ => rfl) trivial
      ⟨Slot.keeps_of fun _ _ => rfl, Slot.keeps_of fun _ _ => rfl, Slot.keeps_of fun _ _ => rfl⟩
  have hgroups : Decoded (Json.decodeList (RouteGroup.decode (v.depth + 1))) dialect []
      (v.part "groups" 1) f.groups :=
    Decoded.of_decodeRecord RouteFile.groups [_] [_, _] h (Slot.sets_of fun _ _ => rfl)
      ⟨by simp, Slot.keeps_of fun _ _ => rfl⟩
      ⟨Slot.keeps_of fun _ _ => rfl, Slot.keeps_of fun _ _ => rfl⟩
  rw [registrations, List.mem_append, RouteGroup.mem_registrationsOfAll,
    hroutes.eq_map RouteEntry.eq_of_decode, List.map_map, List.mem_map]
  constructor
  · rintro (⟨route, hroute, rfl⟩ | ⟨g, hg, hr⟩)
    · exact ⟨[], route, .inl ⟨rfl, hroute⟩, rfl⟩
    · obtain ⟨group, hgroup, hdecode⟩ := hgroups.mem_iff.1 hg
      obtain ⟨stems, route, hwithin, rfl⟩ := (RouteGroup.mem_registrations_iff hdecode).1 hr
      exact ⟨stems, route, .inr ⟨group, hgroup, hwithin⟩, rfl⟩
  · rintro ⟨stems, route, ⟨rfl, hroute⟩ | ⟨group, hgroup, hwithin⟩, rfl⟩
    · exact .inl ⟨route, hroute, rfl⟩
    · obtain ⟨g, hg, hdecode⟩ := hgroups.exists_of_mem hgroup
      exact .inr ⟨g, hg, (RouteGroup.mem_registrations_iff hdecode).2 ⟨stems, route, hwithin, rfl⟩⟩

end RouteFile

/-! ## Blank names -/

/-- A registered route is reported for a blank name if one of the names that were kept is blank. -/
theorem Registration.mem_problems_blankMethod {r : Registration String} {path : String} :
    .blankMethod path ∈ r.problems ↔
      path = r.joined ∧ ∃ m ∈ r.route.methods.toList, Unicode.trimmed m = [] := by
  constructor
  · intro h
    rcases List.mem_append.1 h with h | h
    · rcases List.mem_append.1 h with h | h
      · split at h <;> simp at h
      · split at h
        next hblank => exact ⟨by simpa using h, hblank⟩
        · cases h
    · split at h <;> simp at h
  · rintro ⟨rfl, hblank⟩
    refine List.mem_append_left _ (List.mem_append_right _ ?_)
    rw [if_pos hblank]
    exact List.mem_singleton_self _

namespace RouteFile

theorem value_parse {text : String} {f : RouteFile} (h : ofToml text = .ok f) :
    (parse text).value = if f.problems = [] then .ok f else .error (.invalid f.problems) := by
  simp only [parse, h, checked, check]
  by_cases hnone : f.problems = []
  · rw [if_pos hnone, if_pos (List.isEmpty_iff.2 hnone)]
  · rw [if_neg hnone, if_neg (mt List.isEmpty_iff.1 hnone)]

/-- A problem is reported if checking the route file finds it. -/
theorem reported_iff {text : String} {f : RouteFile} (h : ofToml text = .ok f) {p : Problem} :
    (∃ problems, (parse text).value = .error (.invalid problems) ∧ p ∈ problems) ↔
      p ∈ f.problems := by
  rw [value_parse h]
  constructor
  · rintro ⟨problems, hvalue, hmem⟩
    split at hvalue
    · cases hvalue
    · cases hvalue
      exact hmem
  · intro hmem
    exact ⟨f.problems, if_neg (List.ne_nil_of_mem hmem), hmem⟩

theorem decode_of_ofToml {text : String} {f : RouteFile} (h : ofToml text = .ok f) :
    ∃ v, Toml.read text = some v ∧ decode tomlDialect v = .ok f := by
  unfold ofToml at h
  split at h
  · cases h
  next v hread =>
    refine ⟨v, hread, ?_⟩
    split at h
    · cases h
    · cases h
    next hdecode =>
      cases h
      exact hdecode

/-- Which routes of a text are reported for a blank name, and what becomes of the names.  A route
is reported exactly if a route with its path lists a name that consists of white space and is not
empty.  The names of a route are kept but for the empty ones, and a route that lists no other
names, or none, is left without a restriction. -/
theorem blankMethod_reported_iff {text : String} {f : RouteFile} (h : ofToml text = .ok f) :
    ∃ v, Toml.read text = some v ∧
      (∀ path, (∃ problems, (parse text).value = .error (.invalid problems) ∧
          .blankMethod path ∈ problems) ↔
        ∃ stems route, Within v stems route ∧
          path = String.join stems ++ textOf (route.part "path" 0) ∧
          ∃ name ∈ RouteEntry.listed route, name ≠ "" ∧ Unicode.trimmed name = []) ∧
      ∀ stems route, Within v stems route → ∃ r ∈ f.registrations [], r.stems = stems ∧
        r.route.path = textOf (route.part "path" 0) ∧
        (∀ n, n ∈ r.route.methods.toList ↔ n ∈ RouteEntry.listed route ∧ n ≠ "") ∧
        (r.route.methods = .any ↔ ∀ name ∈ RouteEntry.listed route, name = "") := by
  obtain ⟨v, hread, hdecode⟩ := decode_of_ofToml h
  refine ⟨v, hread, fun path => ?_, fun stems route hwithin => ?_⟩
  · rw [reported_iff h, problems_eq, List.mem_flatMap]
    constructor
    · rintro ⟨r, hr, hproblem⟩
      obtain ⟨stems, route, hwithin, rfl⟩ := (mem_registrations_iff hdecode).1 hr
      obtain ⟨hpath, name, hname, hblank⟩ := Registration.mem_problems_blankMethod.1 hproblem
      obtain ⟨hlisted, hne⟩ := Methods.mem_toList_ofList.1 hname
      exact ⟨stems, route, hwithin, hpath, name, hlisted, hne, hblank⟩
    · rintro ⟨stems, route, hwithin, hpath, name, hlisted, hne, hblank⟩
      refine ⟨_, (mem_registrations_iff hdecode).2 ⟨stems, route, hwithin, rfl⟩, ?_⟩
      exact Registration.mem_problems_blankMethod.2
        ⟨hpath, name, Methods.mem_toList_ofList.2 ⟨hlisted, hne⟩, hblank⟩
  · refine ⟨_, (mem_registrations_iff hdecode).2 ⟨stems, route, hwithin, rfl⟩, rfl, rfl,
      fun n => Methods.mem_toList_ofList, ?_⟩
    exact Methods.ofList_eq_any_iff

/-- A route file with a route whose only method is the empty name. -/
def namelessText : String :=
  "[[routes]]\npath = \"/x\"\ntarget = \"t\"\nmethods = [\"\"]\n"

/-- The route as it is written. -/
def namelessRoute : Json :=
  .obj [("path", .str "/x"), ("target", .str "t"), ("methods", .arr [.str ""])]

/-- It lists a blank name, nothing is reported, and every method is accepted. -/
theorem blankMethod_unreported_nameless :
    ∃ f, ofToml namelessText = .ok f ∧ (parse namelessText).value = .ok f ∧
      (∃ v, Toml.read namelessText = some v ∧ Within v [] namelessRoute) ∧
      (∃ name ∈ RouteEntry.listed namelessRoute, Unicode.trimmed name = []) ∧
      ∃ r ∈ f.registrations [], r.stems = [] ∧ r.route.path = "/x" ∧ r.route.methods = .any := by
  have hread : Toml.read namelessText = some (.obj [("routes", .arr [namelessRoute])]) := by
    decide +kernel
  have hparse : (parse namelessText).value.isOk = true := by decide +kernel
  cases hf : ofToml namelessText with
  | error e =>
      simp only [parse, hf] at hparse
      cases hparse
  | ok f =>
      obtain ⟨v, hv, -, hkept⟩ := blankMethod_reported_iff hf
      cases hread.symm.trans hv
      have hwithin : Within (.obj [("routes", .arr [namelessRoute])]) [] namelessRoute :=
        .inl ⟨rfl, List.mem_singleton_self _⟩
      obtain ⟨r, hr, hstems, hpath, -, hany⟩ := hkept [] namelessRoute hwithin
      refine ⟨f, rfl, ?_, ⟨_, hread, hwithin⟩, ⟨"", by decide, by decide⟩, r, hr, hstems,
        hpath, ?_⟩
      · rw [value_parse hf] at hparse ⊢
        split at hparse
        next hnone => exact if_pos hnone
        · cases hparse
      · exact hany.2 (by decide)

end RouteFile

end PathRouter

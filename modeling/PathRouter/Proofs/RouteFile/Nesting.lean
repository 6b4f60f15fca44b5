import PathRouter.Proofs.Json.Levels
import PathRouter.Proofs.RouteFile.Reading

/-!
# How deep groups can be nested in a text

A document may open 127 levels.  A route file takes two levels for itself and its list of groups,
and every group two more for itself and for what it holds.  How many it takes in all depends on
the fields that are written; those that hold their defaults can be left out, and nothing else can.
So a route file can be given by a text if its JSON form without defaults is not too deep, and by no
text otherwise.

* `RouteFile.form` — the JSON form, with or without defaults;
* `RouteFile.exists_ofJsonText_iff` — which route files can be given by texts;
* `RouteFile.ofJsonText_compact`, `RouteFile.height_le_of_ofJsonText` — in numbers of groups.
-/

namespace PathRouter

open Json (Gives InOrder RecordValue ValueText Within)

/-! ## JSON forms with and without defaults -/

/-- A member with a default. It is left out of a brief form if it holds the default. -/
def Json.defaulted (brief isDefault : Bool) (key : String) (v : Json) : List (String × Json) :=
  if brief && isDefault then [] else [(key, v)]

namespace RouteEntry

/-- The JSON form, with or without what holds its default. -/
def form (brief : Bool) (r : RouteEntry) : Json :=
  .obj (("path", .str r.path) ::
    (Json.defaulted brief (r.methods = .any) "methods" (toJson r.methods) ++
      [("target", .str r.target)]))

end RouteEntry

namespace RouteGroup

mutual

/-- The JSON form, with or without what holds its default. -/
def form (brief : Bool) : RouteGroup → Json
  | ⟨stem, routes, groups⟩ =>
    .obj (Json.defaulted brief (stem = "") "prefix" (.str stem) ++
      (Json.defaulted brief routes.isEmpty "routes" (.arr (routes.map (·.form brief))) ++
        Json.defaulted brief groups.isEmpty "groups" (.arr (forms brief groups))))

/-- The JSON forms of some groups. -/
def forms (brief : Bool) : List RouteGroup → List Json
  | [] => []
  | g :: gs => form brief g :: forms brief gs

end

mutual

/-- How deep groups are nested in a group, which counts itself. -/
def height : RouteGroup → Nat
  | ⟨_, _, groups⟩ => heights groups + 1

/-- How deep some groups are nested. -/
def heights : List RouteGroup → Nat
  | [] => 0
  | g :: gs => max (height g) (heights gs)

end

end RouteGroup

namespace RouteFile

/-- The JSON form, with or without what holds its default. -/
def form (brief : Bool) (f : RouteFile) : Json :=
  .obj (Json.defaulted brief f.routes.isEmpty "routes" (.arr (f.routes.map (·.form brief))) ++
    (Json.defaulted brief f.groups.isEmpty "groups" (.arr (RouteGroup.forms brief f.groups)) ++
      (Json.defaulted brief f.cachePath.isNone "cache"
        (.obj [("path", f.cachePath.elim .null .str)]) ++
        Json.defaulted brief (f.logLevel = "info") "observability"
          (.obj [("log_level", .str f.logLevel)]))))

/-- How deep groups are nested in a route file. -/
def height (f : RouteFile) : Nat :=
  RouteGroup.heights f.groups

end RouteFile

/-! ## Nothing is left out -/

theorem RouteEntry.form_false (r : RouteEntry) : r.form false = r.json := rfl

mutual

theorem RouteGroup.form_false : ∀ g : RouteGroup, g.form false = g.json
  | ⟨_, routes, groups⟩ => by
      rw [form, json, ← forms_false groups]
      rfl

theorem RouteGroup.forms_false : ∀ gs : List RouteGroup, forms false gs = jsons gs
  | [] => rfl
  | g :: gs => by rw [forms, jsons, form_false g, forms_false gs]

end

theorem RouteFile.form_false (f : RouteFile) : f.form false = f.json := by
  rw [form, json, ← RouteGroup.forms_false f.groups]
  cases f.cachePath <;> rfl

/-! ## Both forms show the route file -/

section Forms

variable {brief isDefault : Bool} {key : String} {v : Json}

theorem Json.forall_mem_defaulted {p : String × Json → Prop} (h : p (key, v)) :
    ∀ m ∈ defaulted brief isDefault key v, p m := by
  rw [defaulted]
  split
  · exact fun _ hm => absurd hm List.not_mem_nil
  · exact List.forall_mem_singleton.2 h

/-- A field with a default is given, or is missing because it holds the default. -/
theorem Json.InOrder.defaulted {form : Json → Prop} {omissible : Prop}
    {fields : List (FieldForm Json)} {ms : List (String × Json)} (hform : form v)
    (homissible : isDefault = true → omissible) (hms : InOrder fields ms) :
    InOrder ({ key, form, omissible } :: fields) (Json.defaulted brief isDefault key v ++ ms) := by
  unfold Json.defaulted
  split
  next h => exact .missing (homissible (Bool.and_eq_true_iff.1 h).2) hms
  · exact .given hform hms

namespace RouteEntry

theorem shown_form (brief : Bool) (r : RouteEntry) : r.Shown (r.form brief) := by
  refine RecordValue.of_inOrder ?_ (show ["path", "methods", "target"].Nodup by decide)
  exact .given rfl (.defaulted r.methods.shown_json of_decide_eq_true (.given rfl .nil))

theorem listShown_form (brief : Bool) (routes : List RouteEntry) :
    ListShown routes (.arr (routes.map (·.form brief))) := by
  refine ⟨_, rfl, ?_⟩
  rw [List.forall₂_map_right_iff]
  exact List.forall₂_same.2 fun r _ => r.shown_form brief

end RouteEntry

namespace RouteGroup

mutual

theorem shown_form (brief : Bool) : ∀ g : RouteGroup, g.Shown (g.form brief)
  | ⟨_, routes, groups⟩ => by
      refine RecordValue.of_inOrder ?_ (show ["prefix", "routes", "groups"].Nodup by decide)
      rw [← List.append_nil (Json.defaulted brief groups.isEmpty _ _)]
      exact .defaulted rfl of_decide_eq_true
        (.defaulted (RouteEntry.listShown_form brief routes) List.isEmpty_iff.1
          (.defaulted ⟨_, rfl, allShown_forms brief groups⟩ List.isEmpty_iff.1 .nil))

theorem allShown_forms (brief : Bool) : ∀ gs : List RouteGroup, AllShown gs (forms brief gs)
  | [] => rfl
  | g :: gs => ⟨_, _, rfl, shown_form brief g, allShown_forms brief gs⟩

end

end RouteGroup

theorem RouteFile.shown_form (brief : Bool) (f : RouteFile) : f.Shown (f.form brief) := by
  have hcache : CacheShown f.cachePath (.obj [("path", f.cachePath.elim .null .str)]) :=
    .of_inOrder (.given rfl .nil) (List.nodup_singleton _)
  have hlevel : LogLevelShown f.logLevel (.obj [("log_level", .str f.logLevel)]) :=
    .of_inOrder (.given rfl .nil) (List.nodup_singleton _)
  refine RecordValue.of_inOrder ?_ (show ["routes", "groups", "cache", "observability"].Nodup by
    decide)
  rw [← List.append_nil (Json.defaulted brief (f.logLevel = "info") _ _)]
  exact .defaulted (RouteEntry.listShown_form brief f.routes) List.isEmpty_iff.1
    (.defaulted ⟨_, rfl, RouteGroup.allShown_forms brief f.groups⟩ List.isEmpty_iff.1
      (.defaulted hcache Option.isNone_iff_eq_none.1
        (.defaulted hlevel of_decide_eq_true .nil)))

end Forms

/-! ## Both forms have texts -/

open Json (writeCompact valueText_writeCompact_arr valueText_writeCompact_obj)

theorem valueText_str (s : String) : ValueText (writeCompact (.str s)) (.str s) :=
  .str (Json.stringText_writeString s)

theorem Methods.valueText_json (m : Methods) : ValueText (writeCompact (toJson m)) (toJson m) :=
  valueText_writeCompact_arr (List.forall_mem_map.2 fun s _ => valueText_str s)

theorem RouteEntry.valueText_form (brief : Bool) (r : RouteEntry) :
    ValueText (writeCompact (r.form brief)) (r.form brief) := by
  refine valueText_writeCompact_obj ?_ (List.Perm.refl _)
  refine List.forall_mem_cons.2 ⟨valueText_str _, List.forall_mem_append.2 ⟨?_, ?_⟩⟩
  · exact Json.forall_mem_defaulted r.methods.valueText_json
  · exact List.forall_mem_singleton.2 (valueText_str _)

theorem RouteEntry.valueText_forms (brief : Bool) (routes : List RouteEntry) :
    ValueText (writeCompact (.arr (routes.map (·.form brief))))
      (.arr (routes.map (·.form brief))) :=
  valueText_writeCompact_arr (List.forall_mem_map.2 fun r _ => r.valueText_form brief)

namespace RouteGroup

mutual

theorem valueText_form (brief : Bool) : ∀ g : RouteGroup,
    ValueText (writeCompact (g.form brief)) (g.form brief)
  | ⟨stem, routes, groups⟩ => by
      refine valueText_writeCompact_obj ?_ (List.Perm.refl _)
      refine List.forall_mem_append.2 ⟨Json.forall_mem_defaulted (valueText_str stem),
        List.forall_mem_append.2 ⟨?_, ?_⟩⟩
      · exact Json.forall_mem_defaulted (RouteEntry.valueText_forms brief routes)
      · exact Json.forall_mem_defaulted (valueText_writeCompact_arr (valueText_forms brief groups))

theorem valueText_forms (brief : Bool) : ∀ gs : List RouteGroup,
    ∀ v ∈ forms brief gs, ValueText (writeCompact v) v
  | [], _, hv => absurd hv List.not_mem_nil
  | g :: gs, v, hv => by
      rcases List.mem_cons.1 hv with rfl | hv
      · exact valueText_form brief g
      · exact valueText_forms brief gs v hv

end

end RouteGroup

theorem RouteFile.valueText_form (brief : Bool) (f : RouteFile) :
    ValueText (writeCompact (f.form brief)) (f.form brief) := by
  have hpath :
      ValueText (writeCompact (f.cachePath.elim .null .str)) (f.cachePath.elim .null .str) := by
    cases f.cachePath with
    | none => exact .null
    | some path => exact valueText_str path
  have hsection {key : String} {v : Json} (h : ValueText (writeCompact v) v) :
      ValueText (writeCompact (.obj [(key, v)])) (.obj [(key, v)]) :=
    valueText_writeCompact_obj (List.forall_mem_singleton.2 h) (List.Perm.refl _)
  refine valueText_writeCompact_obj ?_ (List.Perm.refl _)
  refine List.forall_mem_append.2 ⟨?_,
    List.forall_mem_append.2 ⟨?_, List.forall_mem_append.2 ⟨?_, ?_⟩⟩⟩
  · exact Json.forall_mem_defaulted (RouteEntry.valueText_forms brief f.routes)
  · exact Json.forall_mem_defaulted
      (valueText_writeCompact_arr (RouteGroup.valueText_forms brief f.groups))
  · exact Json.forall_mem_defaulted (hsection hpath)
  · exact Json.forall_mem_defaulted (hsection (valueText_str f.logLevel))

/-! ## Depths -/

theorem Json.depthMembers_append (ms ms' : List (String × Json)) :
    depthMembers (ms ++ ms') = max (depthMembers ms) (depthMembers ms') := by
  induction ms with
  | nil => simp [depthMembers]
  | cons m ms ih => rw [List.cons_append, depthMembers, depthMembers, ih, Nat.max_assoc]

theorem Json.depthMembers_defaulted (brief isDefault : Bool) (key : String) (v : Json) :
    depthMembers (defaulted brief isDefault key v) =
      if brief && isDefault then 0 else v.depth := by
  rw [defaulted]
  split <;> simp [depthMembers]

theorem Json.depth_strings (l : List String) : (strings l).depth = 1 := by
  have hitems : depthItems (l.map .str) ≤ 0 :=
    depthItems_le_iff.2 (List.forall_mem_map.2 fun _ _ => Nat.le_refl _)
  rw [strings, depth, Nat.le_zero.1 hitems]

variable (brief : Bool)

theorem RouteEntry.depth_form (r : RouteEntry) :
    (r.form brief).depth = (if brief && r.methods = .any then 0 else 1) + 1 := by
  have hmethods : (toJson r.methods).depth = 1 := Json.depth_strings _
  simp only [form, Json.depth, Json.depthMembers, Json.depthMembers_append,
    Json.depthMembers_defaulted, hmethods]
  split <;> rfl

theorem RouteEntry.depth_forms_le (routes : List RouteEntry) :
    Json.depth (.arr (routes.map (·.form brief))) ≤ 3 := by
  refine Nat.succ_le_succ (Json.depthItems_le_iff.2 (List.forall_mem_map.2 fun r _ => ?_))
  rw [depth_form]
  split <;> omega

namespace RouteGroup

theorem depth_form (stem : String) (routes : List RouteEntry) (groups : List RouteGroup) :
    (form brief ⟨stem, routes, groups⟩).depth =
      max (if brief && routes.isEmpty then 0 else Json.depth (.arr (routes.map (·.form brief))))
        (if brief && groups.isEmpty then 0 else Json.depthItems (forms brief groups) + 1) + 1 := by
  simp [form, Json.depth, Json.depthMembers_append, Json.depthMembers_defaulted]

mutual

/-- Below a group there are two levels for each group inside it, and two for its routes. -/
theorem depth_form_le : ∀ g : RouteGroup, (g.form brief).depth ≤ 2 * g.height + 2
  | ⟨stem, routes, groups⟩ => by
      have hroutes := RouteEntry.depth_forms_le brief routes
      have hgroups := depthItems_forms_le groups
      rw [depth_form, height]
      split <;> split <;> omega

theorem depthItems_forms_le : ∀ gs : List RouteGroup,
    Json.depthItems (forms brief gs) ≤ 2 * heights gs + 2
  | [] => Nat.zero_le _
  | g :: gs => by
      have hhead := depth_form_le g
      have htail := depthItems_forms_le gs
      rw [forms, Json.depthItems, heights]
      omega

end

mutual

theorem le_depth_form : ∀ g : RouteGroup, 2 * g.height ≤ (g.form brief).depth + 1
  | ⟨stem, routes, []⟩ => by
      rw [depth_form, height, heights]
      omega
  | ⟨stem, routes, g :: gs⟩ => by
      have hgroups := le_depthItems_forms (g :: gs)
      rw [depth_form, height, List.isEmpty_cons, Bool.and_false, if_neg Bool.false_ne_true]
      omega

theorem le_depthItems_forms : ∀ gs : List RouteGroup,
    2 * heights gs ≤ Json.depthItems (forms brief gs) + 1
  | [] => Nat.zero_le _
  | g :: gs => by
      have hhead := le_depth_form g
      have htail := le_depthItems_forms gs
      rw [forms, Json.depthItems, heights]
      omega

end

end RouteGroup

namespace RouteFile

theorem depth_form (f : RouteFile) : (f.form brief).depth =
    max (if brief && f.routes.isEmpty then 0 else Json.depth (.arr (f.routes.map (·.form brief))))
      (max (if brief && f.groups.isEmpty then 0 else
          Json.depthItems (RouteGroup.forms brief f.groups) + 1)
        (max (if brief && f.cachePath.isNone then 0 else 1)
          (if brief && f.logLevel = "info" then 0 else 1))) + 1 := by
  have hpath : (f.cachePath.elim .null Json.str).depth = 0 := by cases f.cachePath <;> rfl
  simp [form, Json.depth, Json.depthMembers, Json.depthMembers_append, Json.depthMembers_defaulted,
    hpath]

theorem depth_form_le (f : RouteFile) : (f.form brief).depth ≤ 2 * f.height + 4 := by
  have hroutes := RouteEntry.depth_forms_le brief f.routes
  have hgroups := RouteGroup.depthItems_forms_le brief f.groups
  rw [depth_form, height]
  split <;> split <;> split <;> split <;> omega

theorem le_depth_form (f : RouteFile) : 2 * f.height + 1 ≤ (f.form brief).depth := by
  have hgroups := RouteGroup.le_depthItems_forms brief f.groups
  rw [depth_form, height]
  cases hempty : f.groups with
  | nil =>
      rw [RouteGroup.heights]
      omega
  | cons g gs =>
      rw [hempty] at hgroups
      rw [List.isEmpty_cons, Bool.and_false, if_neg Bool.false_ne_true]
      omega

end RouteFile

/-! ## What is read from a text -/

/-- A list takes a level more than its elements. -/
theorem Json.depth_arr_map_le {α : Type} {f : α → Json} {levels : Nat} {as : List α}
    (h : Within (fun levels as => ∀ a ∈ as, (f a).depth ≤ levels) levels as) :
    depth (.arr (as.map f)) ≤ levels := by
  obtain ⟨inner, rfl, has⟩ := h
  exact Nat.succ_le_succ (depthItems_le_iff.2 (List.forall_mem_map.2 has))

/-- What is missing holds its default and is left out. -/
theorem depth_getD_le {α : Type} {o : Option α} {default : α} {levels : Nat} (isDefault : α → Bool)
    (depth : α → Nat) (hdefault : isDefault default = true) (h : ∀ a ∈ o, depth a ≤ levels) :
    (if true && isDefault (o.getD default) then 0 else depth (o.getD default)) ≤ levels := by
  split
  · exact Nat.zero_le _
  next hgiven =>
    cases o with
    | none => exact absurd hdefault hgiven
    | some a => exact h a rfl

theorem Methods.gives_read : Gives Methods.read fun levels _ => 1 ≤ levels :=
  (Json.gives_readList (Json.gives_any _)).checked fun _ _ _ hl _ => hl.pos

/-- A route that is read takes no more levels than there are. -/
theorem RouteEntry.gives_read :
    Gives RouteEntry.read fun levels r => (r.form true).depth ≤ levels := by
  have hlayout : Gives (layout.read {}) (Within fun levels d => ∀ m ∈ d.methods, 1 ≤ levels) := by
    refine Json.Layout.gives_read (fun _ _ hnone => absurd hnone (Option.not_mem_none _)) ?_
    refine List.forall_mem_cons.2 ⟨?_, List.forall_mem_cons.2 ⟨?_, List.forall_mem_singleton.2 ?_⟩⟩
    · exact Json.Field.keeps_of (Json.gives_any _) fun _ _ _ hd _ => hd
    · exact Json.Field.keeps_of Methods.gives_read fun _ _ _ _ hlevels _ _ => hlevels
    · exact Json.Field.keeps_of (Json.gives_any _) fun _ _ _ hd _ => hd
  refine hlayout.checked fun levels d r hd hr => ?_
  obtain ⟨inner, rfl, hmethods⟩ := hd
  cases hr
  rw [ofDraft, depth_form]
  exact Nat.succ_le_succ (depth_getD_le (· = .any) (fun _ => 1) rfl hmethods)

theorem RouteEntry.gives_readList : Gives (Json.readList RouteEntry.read) fun levels routes =>
    Json.depth (.arr (routes.map (·.form true))) ≤ levels :=
  fun _ _ _ _ _ h => Json.depth_arr_map_le (Json.gives_readList RouteEntry.gives_read h)

namespace RouteGroup

theorem forms_eq_map (gs : List RouteGroup) : forms brief gs = gs.map (form brief) := by
  induction gs with
  | nil => rfl
  | cons g gs ih => rw [forms, List.map_cons, ih]

theorem gives_readList {read : Json.Reader RouteGroup}
    (hread : Gives read fun levels g => (g.form true).depth ≤ levels) :
    Gives (Json.readList read) fun levels gs => Json.depth (.arr (forms true gs)) ≤ levels := by
  intro stray levels cs gs rest h
  rw [forms_eq_map]
  exact Json.depth_arr_map_le (Json.gives_readList hread h)

/-- What the levels inside a group allow of its draft. -/
def Draft.Fits (levels : Nat) (d : Draft) : Prop :=
  (∀ rs ∈ d.routes, Json.depth (.arr (rs.map (·.form true))) ≤ levels) ∧
    ∀ gs ∈ d.groups, Json.depth (.arr (forms true gs)) ≤ levels

/-- A group that is read takes no more levels than there are. -/
theorem gives_readWithin (nested : Nat) :
    Gives (readWithin nested) fun levels g => (g.form true).depth ≤ levels := by
  induction nested with
  | zero => exact fun _ _ _ _ _ h => by cases h
  | succ nested ih =>
      have hlayout : Gives ((layout (readWithin nested)).read {}) (Within Draft.Fits) := by
        refine Json.Layout.gives_read (fun _ => ⟨?_, ?_⟩) (List.forall_mem_cons.2 ⟨?_,
          List.forall_mem_cons.2 ⟨?_, List.forall_mem_singleton.2 ?_⟩⟩)
        · exact fun _ hnone => absurd hnone (Option.not_mem_none _)
        · exact fun _ hnone => absurd hnone (Option.not_mem_none _)
        · exact Json.Field.keeps_of (Json.gives_any _) fun _ _ _ hd _ => hd
        · exact Json.Field.keeps_of RouteEntry.gives_readList
            fun _ _ _ hd hrs => ⟨fun _ hmem => Option.mem_some.1 hmem ▸ hrs, hd.2⟩
        · exact Json.Field.keeps_of (gives_readList ih)
            fun _ _ _ hd hgs => ⟨hd.1, fun _ hmem => Option.mem_some.1 hmem ▸ hgs⟩
      refine hlayout.checked fun levels d g hd hg => ?_
      obtain ⟨inner, rfl, hroutes, hgroups⟩ := hd
      cases hg
      rw [ofDraft, depth_form]
      exact Nat.succ_le_succ (Nat.max_le.2
        ⟨depth_getD_le List.isEmpty _ rfl hroutes, depth_getD_le List.isEmpty _ rfl hgroups⟩)

theorem gives_read : Gives RouteGroup.read fun levels g => (g.form true).depth ≤ levels :=
  fun _ _ _ _ _ h => gives_readWithin _ h

end RouteGroup

namespace RouteFile

/-- What the levels inside a route file allow of its draft. -/
def Draft.Fits (levels : Nat) (d : Draft) : Prop :=
  (∀ rs ∈ d.routes, Json.depth (.arr (rs.map (·.form true))) ≤ levels) ∧
    (∀ gs ∈ d.groups, Json.depth (.arr (RouteGroup.forms true gs)) ≤ levels) ∧
    (∀ path ∈ d.cachePath, 1 ≤ levels) ∧ ∀ level ∈ d.logLevel, 1 ≤ levels

/-- A route file that is read takes no more levels than there are. -/
theorem gives_read : Gives RouteFile.read fun levels f => (f.form true).depth ≤ levels := by
  have hlayout : Gives (layout.read {}) (Within Draft.Fits) := by
    refine Json.Layout.gives_read (fun _ => ⟨?_, ?_, ?_, ?_⟩) (List.forall_mem_cons.2 ⟨?_,
      List.forall_mem_cons.2 ⟨?_, List.forall_mem_cons.2 ⟨?_, List.forall_mem_singleton.2 ?_⟩⟩⟩)
    iterate 4 exact fun _ hnone => absurd hnone (Option.not_mem_none _)
    · exact Json.Field.keeps_of RouteEntry.gives_readList
        fun _ _ _ hd hrs => ⟨fun _ hmem => Option.mem_some.1 hmem ▸ hrs, hd.2⟩
    · exact Json.Field.keeps_of (RouteGroup.gives_readList RouteGroup.gives_read)
        fun _ _ _ hd hgs => ⟨hd.1, fun _ hmem => Option.mem_some.1 hmem ▸ hgs, hd.2.2⟩
    · exact Json.Field.keeps_of (Json.Layout.gives_pos _ _ _)
        fun _ _ _ hd hlevels => ⟨hd.1, hd.2.1, fun _ _ => hlevels, hd.2.2.2⟩
    · exact Json.Field.keeps_of (Json.Layout.gives_pos _ _ _)
        fun _ _ _ hd hlevels => ⟨hd.1, hd.2.1, hd.2.2.1, fun _ _ => hlevels⟩
  refine hlayout.checked fun levels d f hd hf => ?_
  obtain ⟨inner, rfl, hroutes, hgroups, hcache, hlevel⟩ := hd
  cases hf
  rw [ofDraft, depth_form]
  refine Nat.succ_le_succ (Nat.max_le.2 ⟨?_, Nat.max_le.2 ⟨?_, Nat.max_le.2 ⟨?_, ?_⟩⟩⟩)
  · exact depth_getD_le List.isEmpty _ rfl hroutes
  · exact depth_getD_le List.isEmpty _ rfl hgroups
  · exact depth_getD_le Option.isNone (fun _ => 1) rfl hcache
  · exact depth_getD_le (· = "info") (fun _ => 1) rfl hlevel

/-! ## Route files that texts give -/

/-- There is a text that is read as a route file if the JSON form without defaults is not nested
deeper than a document may be, and only then. -/
theorem exists_ofJsonText_iff (f : RouteFile) :
    (∃ doc, ofJsonText doc = .ok f) ↔ (f.form true).depth ≤ Json.maxLevels := by
  constructor
  · rintro ⟨doc, hread⟩
    exact gives_read.of_readDocument hread
  · intro hdepth
    exact ⟨_, ofJsonText_shown (f.shown_form true) hdepth
      (Json.documentText_ofList (f.valueText_form true))⟩

/-- If groups are nested at most 61 deep, the text of the JSON form is read as the route file. -/
theorem ofJsonText_compact {f : RouteFile} (h : f.height ≤ 61) :
    ofJsonText f.json.compact = .ok f := by
  have hdepth : f.json.depth ≤ Json.maxLevels := by
    have hle := f.depth_form_le false
    rw [form_false] at hle
    exact Nat.le_trans hle (show 2 * f.height + 4 ≤ 127 by omega)
  refine ofJsonText_shown f.shown_json hdepth (Json.documentText_ofList ?_)
  rw [← form_false]
  exact f.valueText_form false

/-- Groups that are nested deeper than 63 are in no text. -/
theorem height_le_of_ofJsonText {f : RouteFile} {doc : String} (h : ofJsonText doc = .ok f) :
    f.height ≤ 63 := by
  have hdepth := (exists_ofJsonText_iff f).1 ⟨doc, h⟩
  have hle := f.le_depth_form true
  rw [Json.maxLevels] at hdepth
  omega

end RouteFile

end PathRouter

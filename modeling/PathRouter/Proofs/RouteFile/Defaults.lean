import PathRouter.Proofs.Json.Objects
import PathRouter.Proofs.Routing.NormalForm
import PathRouter.RouteFile.Decode

/-!
# Route files without their defaults

The JSON form of a route file is decoded as the route file, and so is every other value that shows
it: each field that holds its default may be left out, in the file, in its sections, in its routes
and in its groups, however deep the groups are nested.

* `RouteEntry.Shown`, `RouteGroup.Shown`, `RouteFile.Shown` — the values that show a route, a group
  and a route file;
* `RouteGroup.decode_eq_ok` — groups, by recursion on the tree;
* `RouteFile.ofJson_shown` — route files.
-/

namespace PathRouter

open Json (Dialect FieldForm InOrder RecordValue Slot getD_given given)

variable {dialect : Dialect}

/-! ## Values that show a route file -/

/-- The values that show methods: lists with their names. -/
def Methods.Shown (m : Methods) (v : Json) : Prop :=
  ∃ l, m.HasNames l ∧ v = Json.strings l

namespace RouteEntry

/-- How the fields of a route may be given. -/
def fieldForms (r : RouteEntry) : List (FieldForm Json) := [
  { key := "path", form := (· = .str r.path), omissible := False },
  { key := "methods", form := r.methods.Shown, omissible := r.methods = .any },
  { key := "target", form := (· = .str r.target), omissible := False }]

/-- Whether a value shows a route. -/
def Shown (r : RouteEntry) (v : Json) : Prop :=
  RecordValue r.fieldForms v

end RouteEntry

/-- Whether a value shows a list of routes. -/
def RouteEntry.ListShown (routes : List RouteEntry) (v : Json) : Prop :=
  ∃ vs, v = .arr vs ∧ List.Forall₂ Shown routes vs

namespace RouteGroup

mutual

/-- Whether a value shows a group. -/
def Shown : RouteGroup → Json → Prop
  | ⟨stem, routes, groups⟩, v => RecordValue [
      { key := "prefix", form := (· = .str stem), omissible := stem = "" },
      { key := "routes", form := RouteEntry.ListShown routes, omissible := routes = [] },
      { key := "groups", form := fun v => ∃ vs, v = .arr vs ∧ AllShown groups vs,
        omissible := groups = [] }] v

/-- Whether some values show some groups. -/
def AllShown : List RouteGroup → List Json → Prop
  | [], vs => vs = []
  | g :: gs, vs => ∃ w ws, vs = w :: ws ∧ Shown g w ∧ AllShown gs ws

end

end RouteGroup

namespace RouteFile

/-- Whether a value shows the settings of the cache. -/
def CacheShown (path : Option String) (v : Json) : Prop :=
  RecordValue [{ key := "path", form := (· = path.elim .null .str), omissible := path = none }] v

/-- Whether a value shows the settings of the log. -/
def LogLevelShown (level : String) (v : Json) : Prop :=
  RecordValue [{ key := "log_level", form := (· = .str level), omissible := level = "info" }] v

/-- How the fields of a route file may be given. -/
def fieldForms (f : RouteFile) : List (FieldForm Json) := [
  { key := "routes", form := RouteEntry.ListShown f.routes, omissible := f.routes = [] },
  { key := "groups", form := fun v => ∃ vs, v = .arr vs ∧ RouteGroup.AllShown f.groups vs,
    omissible := f.groups = [] },
  { key := "cache", form := CacheShown f.cachePath, omissible := f.cachePath = none },
  { key := "observability", form := LogLevelShown f.logLevel, omissible := f.logLevel = "info" }]

/-- Whether a value shows a route file. -/
def Shown (f : RouteFile) (v : Json) : Prop :=
  RecordValue f.fieldForms v

end RouteFile

/-! ## Routes -/

theorem Methods.Shown.decode_eq_ok {m : Methods} {v : Json} (h : m.Shown v) :
    Methods.decode dialect v = .ok m := by
  obtain ⟨l, hnames, rfl⟩ := h
  rw [Methods.decode_strings, hnames.eq_ofList]

namespace RouteEntry

/-- The route of which the fields with some keys have been decoded. -/
def draft (r : RouteEntry) (keys : List String) : RouteEntry where
  path := (given keys "path" r.path).getD ""
  methods := (given keys "methods" r.methods).getD .any
  target := (given keys "target" r.target).getD ""

theorem Shown.decode_eq_ok {r : RouteEntry} {v : Json} (h : r.Shown v) :
    decode dialect v = .ok r := by
  refine RecordValue.decodeRecord_eq_ok r.draft ?_ h (Nat.le_succ _) (by simp [draft, given])
    (fun keys hkeys => ?_) _
  · refine .cons (Slot.fits_of (fun keys => ?_) (fun h _ => Json.decodeString_eq_ok h) False.elim)
      (.cons (Slot.fits_of (fun keys => ?_) (fun h _ => h.decode_eq_ok) fun _ => rfl)
        (.cons
          (Slot.fits_of (fun keys => ?_) (fun h _ => Json.decodeString_eq_ok h) False.elim) .nil))
    all_goals simp [draft, given]
  · simp only [fieldForms, List.forall_mem_cons, or_false] at hkeys
    obtain ⟨hpath, hmethods, htarget, -⟩ := hkeys
    simp only [draft, getD_given (.inl hpath), getD_given hmethods, getD_given (.inl htarget)]

end RouteEntry

/-- Values of routes are decoded as the routes. -/
theorem RouteEntry.ListShown.decode_eq_ok {routes : List RouteEntry} {v : Json}
    (h : ListShown routes v) :
    Json.decodeList RouteEntry.decode dialect v = .ok routes := by
  obtain ⟨vs, rfl, hvs⟩ := h
  have hdecoded : List.Forall₂ (fun r v => decode dialect v = .ok r) routes vs :=
    hvs.imp fun _ _ (hr : Shown _ _) => hr.decode_eq_ok
  exact Json.decodeList_eq_ok hdecoded.flip

/-! ## Groups -/

namespace RouteGroup

/-- The group of which the fields with some keys have been decoded. -/
def draft (g : RouteGroup) (keys : List String) : RouteGroup where
  stem := (given keys "prefix" g.stem).getD ""
  routes := (given keys "routes" g.routes).getD []
  groups := (given keys "groups" g.groups).getD []

theorem Shown.depth_pos {g : RouteGroup} {v : Json} (h : g.Shown v) : 0 < v.depth := by
  cases g
  exact RecordValue.depth_pos h

mutual

/-- Any value that shows a group is decoded as the group, with as many levels as the value is
deep. -/
theorem Shown.decode_eq_ok :
    ∀ {g : RouteGroup} {v : Json} {levels : Nat}, g.Shown v → v.depth ≤ levels →
    decode levels dialect v = .ok g
  | _, _, 0, h, hdepth => absurd h.depth_pos (Nat.not_lt.2 hdepth)
  | ⟨stem, routes, groups⟩, v, levels + 1, h, hdepth => by
      -- the group uses up one level, and the values of the groups inside lie deeper than its own
      have hall {v : Json} (h : ∃ vs, v = .arr vs ∧ AllShown groups vs)
          (hdepth : v.depth ≤ levels) :
          Json.decodeList (decode levels) dialect v = .ok groups := by
        obtain ⟨vs, rfl, hvs⟩ := h
        exact hvs.decodeItems_eq_ok (Nat.le_of_succ_le hdepth)
      refine RecordValue.decodeRecord_eq_ok (draft ⟨stem, routes, groups⟩) ?_ h hdepth
        (by simp [draft, given])
        (fun keys hkeys => ?_) _
      · refine .cons (Slot.fits_of (fun keys => ?_) (fun h _ => Json.decodeString_eq_ok h) fun _ =>
          rfl)
          (.cons (Slot.fits_of (fun keys => ?_) (fun h _ => h.decode_eq_ok) fun _ => rfl)
            (.cons (Slot.fits_of (fun keys => ?_) hall fun _ => rfl) .nil))
        all_goals simp [draft, given]
      · simp only [List.forall_mem_cons] at hkeys
        obtain ⟨hstem, hroutes, hgroups, -⟩ := hkeys
        simp only [draft, getD_given hstem, getD_given hroutes, getD_given hgroups]

theorem AllShown.decodeItems_eq_ok :
    ∀ {gs : List RouteGroup} {vs : List Json} {levels : Nat}, AllShown gs vs →
    Json.depthItems vs ≤ levels → Json.decodeItems (decode levels dialect) vs = .ok gs
  | [], _, _, h, _ => by
      obtain rfl := h
      rfl
  | g :: gs, _, levels, h, hdepth => by
      obtain ⟨w, ws, rfl, hw, hws⟩ := h
      rw [Json.depthItems, Nat.max_le] at hdepth
      simp only [Json.decodeItems, hw.decode_eq_ok hdepth.1, hws.decodeItems_eq_ok hdepth.2]

end

end RouteGroup

/-! ## Route files -/

namespace RouteFile

theorem CacheShown.decode_eq_ok {path : Option String} {v : Json} (h : CacheShown path v) :
    decodeCache dialect v = .ok path := by
  have hpath {v : Json} (h : v = path.elim .null .str) :
      Json.decodeOptional Json.decodeString dialect v = .ok path := by
    subst h
    cases path <;> rfl
  refine RecordValue.decodeRecord_eq_ok (fun keys => (given keys "path" path).getD none) ?_ h
    (Nat.le_succ _)
    (by simp [given]) (fun keys hkeys => getD_given (hkeys _ List.mem_cons_self)) _
  exact .cons (Slot.fits_of (fun keys => by simp [given]) (fun h _ => hpath h) fun _ => rfl) .nil

theorem LogLevelShown.decode_eq_ok {level : String} {v : Json} (h : LogLevelShown level v) :
    decodeLogLevel dialect v = .ok level := by
  refine RecordValue.decodeRecord_eq_ok (fun keys => (given keys "log_level" level).getD "info") ?_
    h (Nat.le_succ _)
    (by simp [given]) (fun keys hkeys => getD_given (hkeys _ List.mem_cons_self)) _
  exact .cons (Slot.fits_of (fun keys => by simp [given])
    (fun h _ => Json.decodeString_eq_ok h) fun _ => rfl) .nil

/-- The route file of which the fields with some keys have been decoded. -/
def draft (f : RouteFile) (keys : List String) : RouteFile where
  routes := (given keys "routes" f.routes).getD []
  groups := (given keys "groups" f.groups).getD []
  cachePath := (given keys "cache" f.cachePath).getD none
  logLevel := (given keys "observability" f.logLevel).getD "info"

/-- Any value that shows a route file is decoded as the route file. -/
theorem Shown.decode_eq_ok {f : RouteFile} {v : Json} (h : f.Shown v) :
    decode dialect v = .ok f := by
  have hgroups {w : Json} (h : ∃ vs, w = .arr vs ∧ RouteGroup.AllShown f.groups vs)
      (hdepth : w.depth ≤ v.depth) :
      Json.decodeList (RouteGroup.decode (v.depth + 1)) dialect w = .ok f.groups := by
    obtain ⟨vs, rfl, hvs⟩ := h
    have hitems : Json.depthItems vs ≤ v.depth + 1 := Nat.le_succ_of_le (Nat.le_of_succ_le hdepth)
    exact hvs.decodeItems_eq_ok hitems
  refine RecordValue.decodeRecord_eq_ok f.draft ?_ h (Nat.le_succ _) (by simp [draft, given])
    (fun keys hkeys => ?_) _
  · refine .cons (Slot.fits_of (fun keys => ?_) (fun h _ => h.decode_eq_ok) fun _ => rfl)
      (.cons (Slot.fits_of (fun keys => ?_) hgroups fun _ => rfl)
        (.cons (Slot.fits_of (fun keys => ?_) (fun h _ => h.decode_eq_ok) fun _ => rfl)
          (.cons (Slot.fits_of (fun keys => ?_) (fun h _ => h.decode_eq_ok) fun _ => rfl) .nil)))
    all_goals simp [draft, given]
  · simp only [fieldForms, List.forall_mem_cons] at hkeys
    obtain ⟨hroutes, hgroups, hcache, hlevel, -⟩ := hkeys
    simp only [draft, getD_given hroutes, getD_given hgroups, getD_given hcache, getD_given hlevel]

end RouteFile

/-! ## JSON forms -/

theorem Methods.shown_json (m : Methods) : m.Shown (toJson m) :=
  ⟨m.toList, m.hasNames_toList, rfl⟩

theorem RouteEntry.shown_json (r : RouteEntry) : r.Shown r.json := by
  refine RecordValue.of_inOrder ?_ (show ["path", "methods", "target"].Nodup by decide)
  exact .given rfl (.given r.methods.shown_json (.given rfl .nil))

theorem RouteEntry.listShown_json (routes : List RouteEntry) :
    ListShown routes (.arr (routes.map RouteEntry.json)) := by
  refine ⟨_, rfl, ?_⟩
  rw [List.forall₂_map_right_iff]
  exact List.forall₂_same.2 fun r _ => r.shown_json

namespace RouteGroup

mutual

theorem shown_json : ∀ g : RouteGroup, g.Shown g.json
  | ⟨_, routes, groups⟩ => by
      refine RecordValue.of_inOrder ?_ (show ["prefix", "routes", "groups"].Nodup by decide)
      exact .given rfl (.given (RouteEntry.listShown_json routes)
        (.given ⟨_, rfl, allShown_jsons groups⟩ .nil))

theorem allShown_jsons : ∀ gs : List RouteGroup, AllShown gs (jsons gs)
  | [] => rfl
  | g :: gs => ⟨_, _, rfl, shown_json g, allShown_jsons gs⟩

end

end RouteGroup

namespace RouteFile

theorem shown_json (f : RouteFile) : f.Shown f.json := by
  have hcache : CacheShown f.cachePath (.obj [("path", f.cachePath.elim .null .str)]) :=
    .of_inOrder (.given rfl .nil) (List.nodup_singleton _)
  have hlevel : LogLevelShown f.logLevel (.obj [("log_level", .str f.logLevel)]) :=
    .of_inOrder (.given rfl .nil) (List.nodup_singleton _)
  have hjson : f.json = .obj [("routes", .arr (f.routes.map RouteEntry.json)),
      ("groups", .arr (RouteGroup.jsons f.groups)),
      ("cache", .obj [("path", f.cachePath.elim .null .str)]),
      ("observability", .obj [("log_level", .str f.logLevel)])] := by
    rw [json]
    cases f.cachePath <;> rfl
  rw [hjson]
  refine RecordValue.of_inOrder ?_ (show ["routes", "groups", "cache", "observability"].Nodup by
    decide)
  exact .given (RouteEntry.listShown_json f.routes)
    (.given ⟨_, rfl, RouteGroup.allShown_jsons f.groups⟩
    (.given hcache (.given hlevel .nil)))

/-- The JSON form of a route file is decoded as the route file, and so is any other value that
shows it, whatever fields that hold their defaults are left out of the file, its sections, its
routes and its groups. -/
theorem ofJson_shown (f : RouteFile) :
    ofJson f.json = .ok f ∧ f.Shown f.json ∧ ∀ v, f.Shown v → ofJson v = .ok f :=
  ⟨f.shown_json.decode_eq_ok, f.shown_json, fun _ h => h.decode_eq_ok⟩

/-- A group inside a group, with one route. -/
def versioned : RouteFile where
  groups :=
    [{ groups := [{ stem := "/v1", routes := [{ path := "/users", target := "users" }] }] }]

/-- What has to be given of the group inside the group, and of its route. -/
def innerValue : Json :=
  .obj [("prefix", .str "/v1"),
    ("routes", .arr [.obj [("path", .str "/users"), ("target", .str "users")]])]

/-- What has to be given of the route file. -/
def versionedValue : Json :=
  .obj [("groups", .arr [.obj [("groups", .arr [innerValue])]])]

theorem shown_versionedValue : versioned.Shown versionedValue := by
  have hroute : RouteEntry.Shown { path := "/users", target := "users" }
      (.obj [("path", .str "/users"), ("target", .str "users")]) := by
    refine RecordValue.of_inOrder ?_ (show ["path", "methods", "target"].Nodup by decide)
    exact .given rfl (.missing rfl (.given rfl .nil))
  have hinner :
      RouteGroup.Shown { stem := "/v1", routes := [{ path := "/users", target := "users" }] }
      innerValue := by
    refine RecordValue.of_inOrder ?_ (show ["prefix", "routes", "groups"].Nodup by decide)
    exact .given rfl (.given ⟨_, rfl, .cons hroute .nil⟩ (.missing rfl .nil))
  have houter : RouteGroup.AllShown versioned.groups [.obj [("groups", .arr [innerValue])]] := by
    refine ⟨_, _, rfl,
      RecordValue.of_inOrder ?_ (show ["prefix", "routes", "groups"].Nodup by decide), rfl⟩
    exact .missing rfl (.missing rfl (.given ⟨_, rfl, _, _, rfl, hinner, rfl⟩ .nil))
  refine RecordValue.of_inOrder ?_ (show ["routes", "groups", "cache", "observability"].Nodup by
    decide)
  exact .missing rfl (.given ⟨_, rfl, houter⟩ (.missing rfl (.missing rfl .nil)))

theorem ofJson_shown_versioned :
    versioned.Shown versionedValue ∧ ofJson versionedValue = .ok versioned :=
  ⟨shown_versionedValue, (ofJson_shown versioned).2.2 versionedValue shown_versionedValue⟩

end RouteFile

end PathRouter

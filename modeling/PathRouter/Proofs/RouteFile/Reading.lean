import PathRouter.Proofs.Json.Spelling
import PathRouter.Proofs.RouteFile.Defaults
import PathRouter.RouteFile.Read

/-!
# Route files in texts

The texts of all values that show a route file are read as the route file, as long as they are
not nested deeper than a document may be.  Groups are read by recursion on the tree: each of them
takes a level for itself and one for the list it stands in.

* `RouteGroup.Shown.denotes` — groups, by recursion on the tree;
* `RouteFile.ofJsonText_shown` — route files.
-/

namespace PathRouter

open Json (Denotes DocumentText Field RecordValue ValueText getD_given given)

variable {levels : Nat} {v : Json} {text : List Char}

/-! ## Routes -/

theorem Methods.Shown.denotes {m : Methods} (h : m.Shown v) (htext : ValueText text v)
    (hdepth : v.depth ≤ levels) : Denotes (Methods.read none levels) text m := by
  obtain ⟨l, hnames, rfl⟩ := h
  have hlist : Denotes (Json.readList Json.readString none levels) text l := by
    refine htext.denotes_readList hdepth fun _ => ?_
    rw [List.forall₂_map_right_iff]
    exact List.forall₂_same.2 fun s _ text htext _ => htext.denotes_string rfl
  rw [hnames.eq_ofList]
  exact hlist.checked rfl

namespace RouteEntry

/-- The draft of a route that has the fields with some keys. -/
def Draft.of (r : RouteEntry) (keys : List String) : Draft where
  path := given keys "path" r.path
  methods := given keys "methods" r.methods
  target := given keys "target" r.target

/-- A route is read from any text of a value that shows it. -/
theorem Shown.denotes {r : RouteEntry} (h : r.Shown v) (htext : ValueText text v)
    (hdepth : v.depth ≤ levels) : Denotes (RouteEntry.read none levels) text r := by
  refine RecordValue.denotes_checked (Draft.of r) ?_ h htext hdepth (by simp [Draft.of, given])
    fun keys hkeys => ?_
  · intro inner _
    refine .cons (Field.fits_spelled (fun _ => rfl) (fun keys => ?_)
        (fun h htext _ => htext.denotes_string h) False.elim)
      (.cons (Field.fits_spelled (fun _ => rfl) (fun keys => ?_)
        (fun h htext hdepth => h.denotes htext hdepth) fun _ => rfl)
      (.cons (Field.fits_spelled (fun _ => rfl) (fun keys => ?_)
        (fun h htext _ => htext.denotes_string h) False.elim) .nil))
    all_goals simp [Draft.of, given]
  · simp only [fieldForms, List.forall_mem_cons, or_false] at hkeys
    obtain ⟨hpath, hmethods, htarget, -⟩ := hkeys
    simp only [ofDraft, Draft.of, getD_given (.inl hpath), getD_given hmethods,
      getD_given (.inl htarget)]

/-- Routes are read from any text of a value that shows them. -/
theorem ListShown.denotes {routes : List RouteEntry} (h : ListShown routes v)
    (htext : ValueText text v) (hdepth : v.depth ≤ levels) :
    Denotes (Json.readList RouteEntry.read none levels) text routes := by
  obtain ⟨vs, rfl, hvs⟩ := h
  refine htext.denotes_readList hdepth fun _ => hvs.imp fun r w hr text htext hdepth => ?_
  exact Shown.denotes hr htext hdepth

end RouteEntry

/-! ## Groups -/

namespace RouteGroup

/-- The draft of a group that has the fields with some keys. -/
def Draft.of (g : RouteGroup) (keys : List String) : Draft where
  stem := given keys "prefix" g.stem
  routes := given keys "routes" g.routes
  groups := given keys "groups" g.groups

mutual

/-- A group is read from any text of a value that shows it, whatever bounds the nesting of groups
beside the levels. -/
theorem Shown.denotes : ∀ {g : RouteGroup} {v : Json} {text : List Char} {levels nested : Nat},
    g.Shown v → ValueText text v → v.depth ≤ levels → levels ≤ nested →
      Denotes (readWithin nested none levels) text g
  | ⟨stem, routes, groups⟩, v, text, levels, nested, h, htext, hdepth, hnested => by
      obtain ⟨nested, rfl⟩ : ∃ n, nested = n + 1 :=
        Nat.exists_eq_add_one.2 (Nat.lt_of_lt_of_le h.depth_pos (Nat.le_trans hdepth hnested))
      refine RecordValue.denotes_checked (Draft.of ⟨stem, routes, groups⟩) ?_ h htext hdepth
        (by simp [Draft.of, given]) fun keys hkeys => ?_
      · intro inner hinner
        -- the group uses up one level, and the list of the groups inside one more
        have hgroups {v : Json} {text : List Char} (h : ∃ vs, v = .arr vs ∧ AllShown groups vs)
            (htext : ValueText text v) (hdepth : v.depth ≤ inner) :
            Denotes (Json.readList (readWithin nested) none inner) text groups := by
          obtain ⟨vs, rfl, hvs⟩ := h
          exact htext.denotes_readList hdepth fun hlevel => hvs.denotes (by omega)
        refine .cons (Field.fits_spelled (fun _ => rfl) (fun keys => ?_)
            (fun h htext _ => htext.denotes_string h) fun _ => rfl)
          (.cons (Field.fits_spelled (fun _ => rfl) (fun keys => ?_)
            (fun h htext hdepth => h.denotes htext hdepth) fun _ => rfl)
          (.cons (Field.fits_spelled (fun _ => rfl) (fun keys => ?_) hgroups fun _ => rfl) .nil))
        all_goals simp [Draft.of, given]
      · simp only [List.forall_mem_cons] at hkeys
        obtain ⟨hstem, hroutes, hgroups, -⟩ := hkeys
        simp only [ofDraft, Draft.of, getD_given hstem, getD_given hroutes, getD_given hgroups]

theorem AllShown.denotes : ∀ {gs : List RouteGroup} {vs : List Json} {levels nested : Nat},
    AllShown gs vs → levels ≤ nested →
      List.Forall₂ (fun g v => ∀ {text}, ValueText text v → v.depth ≤ levels →
        Denotes (readWithin nested none levels) text g) gs vs
  | [], _, _, _, h, _ => by
      obtain rfl := h
      exact .nil
  | g :: gs, _, _, _, h, hnested => by
      obtain ⟨w, ws, rfl, hw, hws⟩ := h
      exact .cons (fun htext hdepth => hw.denotes htext hdepth hnested) (hws.denotes hnested)

end

end RouteGroup

/-! ## Route files -/

namespace RouteFile

theorem CacheShown.denotes {path : Option String} (h : CacheShown path v)
    (htext : ValueText text v) (hdepth : v.depth ≤ levels) :
    Denotes (readCache none levels) text path := by
  have hpath {v : Json} {text : List Char} {levels : Nat} (h : v = path.elim .null .str)
      (htext : ValueText text v) :
      Denotes (Json.readOptional Json.readString none levels) text path := by
    cases path with
    | none =>
        obtain rfl : v = .null := h
        cases htext
        exact Json.denotes_readOptional_null _ _
    | some path =>
        have hstring : Denotes (Json.readString none levels) text path := htext.denotes_string h
        refine hstring.optional ?_
        obtain rfl : v = .str path := h
        cases htext with
        | str htext =>
            cases htext
            simp
  refine RecordValue.denotes_checked (fun keys => given keys "path" path) ?_ h htext hdepth
    (by simp [given]) fun keys hkeys => congrArg _ (getD_given (hkeys _ List.mem_cons_self))
  exact fun _ => .cons (Field.fits_spelled (fun _ => rfl) (fun keys => by simp [given])
    (fun h htext _ => hpath h htext) fun _ => rfl) .nil

theorem LogLevelShown.denotes {level : String} (h : LogLevelShown level v)
    (htext : ValueText text v) (hdepth : v.depth ≤ levels) :
    Denotes (readLogLevel none levels) text level := by
  refine RecordValue.denotes_checked (fun keys => given keys "log_level" level) ?_ h htext hdepth
    (by simp [given]) fun keys hkeys => congrArg _ (getD_given (hkeys _ List.mem_cons_self))
  exact fun _ => .cons (Field.fits_spelled (fun _ => rfl) (fun keys => by simp [given])
    (fun h htext _ => htext.denotes_string h) fun _ => rfl) .nil

/-- The draft of a route file that has the fields with some keys. -/
def Draft.of (f : RouteFile) (keys : List String) : Draft where
  routes := given keys "routes" f.routes
  groups := given keys "groups" f.groups
  cachePath := given keys "cache" f.cachePath
  logLevel := given keys "observability" f.logLevel

theorem Shown.denotes {f : RouteFile} (h : f.Shown v) (htext : ValueText text v)
    (hdepth : v.depth ≤ levels) : Denotes (RouteFile.read none levels) text f := by
  refine RecordValue.denotes_checked (Draft.of f) ?_ h htext hdepth (by simp [Draft.of, given])
    fun keys hkeys => ?_
  · intro inner _
    have hgroups {v : Json} {text : List Char}
        (h : ∃ vs, v = .arr vs ∧ RouteGroup.AllShown f.groups vs) (htext : ValueText text v)
        (hdepth : v.depth ≤ inner) :
        Denotes (Json.readList RouteGroup.read none inner) text f.groups := by
      obtain ⟨vs, rfl, hvs⟩ := h
      exact htext.denotes_readList hdepth fun _ => hvs.denotes (Nat.le_succ _)
    refine .cons (Field.fits_spelled (fun _ => rfl) (fun keys => ?_)
        (fun h htext hdepth => h.denotes htext hdepth) fun _ => rfl)
      (.cons (Field.fits_spelled (fun _ => rfl) (fun keys => ?_) hgroups fun _ => rfl)
      (.cons (Field.fits_spelled (fun _ => rfl) (fun keys => ?_)
        (fun h htext hdepth => h.denotes htext hdepth) fun _ => rfl)
      (.cons (Field.fits_spelled (fun _ => rfl) (fun keys => ?_)
        (fun h htext hdepth => h.denotes htext hdepth) fun _ => rfl) .nil)))
    all_goals simp [Draft.of, given]
  · simp only [fieldForms, List.forall_mem_cons] at hkeys
    obtain ⟨hroutes, hgroups, hcache, hlevel, -⟩ := hkeys
    simp only [ofDraft, Draft.of, getD_given hroutes, getD_given hgroups, getD_given hcache,
      getD_given hlevel]

/-- Any text of a value that shows a route file is read as the route file, if the value is not
nested deeper than a document may be. -/
theorem ofJsonText_shown {f : RouteFile} (h : f.Shown v) (hdepth : v.depth ≤ Json.maxLevels)
    {doc : String} (hdoc : DocumentText (ValueText · v) doc) : ofJsonText doc = .ok f :=
  hdoc.readDocument_eq fun htext => h.denotes htext hdepth

end RouteFile

end PathRouter

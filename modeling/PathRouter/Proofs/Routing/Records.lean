import PathRouter.Proofs.Json.Indented
import PathRouter.Routing.Record

/-!
# Records read back

The record of a compiled route is read as the route, whatever texts are in it, provided that its
target is read back.  A route that compares paths by equality has no matcher in its record, and is
given that matcher when it is read, even if its path is a pattern.  The regular expression of
another route is read from its text, which decides it.

* `CompiledRoute.denotes_json` — one record;
* `readMarkedRecords_writeRecords` — the text of a list of records.
-/

namespace PathRouter

open Json (Denotes writePretty)

/-! ## Parts of a record -/

theorem Json.denotes_strings (levels level : Nat) (l : List String) :
    Denotes (readList readString none (levels + 1)) (writePretty level (strings l)) l :=
  denotes_list fun s _ => denotes_readString levels s

theorem Methods.denotes_json (levels level : Nat) (m : Methods) :
    Denotes (Methods.read none (levels + 1)) (writePretty level (toJson m)) m :=
  (Json.denotes_strings levels level m.toList).checked (congrArg Except.ok m.ofList_toList)

theorem CompiledPattern.ofDraft_eq (p : CompiledPattern) :
    ofDraft { regex := some p.regex.source, captures := some p.captureNames } = .ok p := by
  simp only [ofDraft, ofParts, Option.getD_some, Regex.ofString_source]
  rfl

theorem CompiledPattern.denotes_json (levels level : Nat) (p : CompiledPattern) :
    Denotes (CompiledPattern.read none (levels + 2)) (writePretty level p.json) p := by
  refine Denotes.checked (Json.Layout.denotes_record ?_ rfl) p.ofDraft_eq
  exact .cons rfl rfl ((Json.denotes_readString _ _).field ..)
    (.cons rfl rfl ((Json.denotes_strings _ _ _).field ..) .nil)

theorem CompiledPath.denotes_json (levels level : Nat) (p : CompiledPattern) :
    Denotes (CompiledPath.read none (levels + 2)) (writePretty level p.json) (.pattern p) :=
  Denotes.checked ((p.denotes_json levels level).optional nofun) rfl

/-! ## Records -/

variable {α : Type} [ToJson α] [FromJson α]

namespace CompiledRoute

/-- The members of a record fill a draft with all that the route consists of. -/
theorem fills_members {levels level : Nat} (r : CompiledRoute α)
    (htarget : Denotes (FromJson.read none (levels + 2))
      (writePretty level (toJson r.target)) r.target) :
    layout.Fills (levels + 2) level ({} : Draft α) r.members {
      path := some r.path
      methods := some r.methods
      target := some r.target
      matcher := match r.matcher with
        | .literal => none
        | .pattern p => some (.pattern p) } := by
  have hpath :
      Denotes (Json.readString none (levels + 2)) (writePretty level (.str r.path)) r.path :=
    Json.denotes_readString _ _
  have hmethods := r.methods.denotes_json (levels + 1) level
  obtain ⟨path, methods, target, matcher⟩ := r
  cases matcher with
  | literal =>
      exact .cons rfl rfl (hpath.field ..) (.cons rfl rfl (hmethods.field ..)
        (.cons rfl rfl (htarget.field ..) .nil))
  | pattern p =>
      exact .cons rfl rfl (hpath.field ..) (.cons rfl rfl (hmethods.field ..)
        (.cons rfl rfl (htarget.field ..)
          (.cons rfl rfl ((CompiledPath.denotes_json levels level p).field ..) .nil)))

/-- A record is read as the route it was made of. -/
theorem denotes_json {levels : Nat} (level : Nat) (r : CompiledRoute α)
    (htarget : ∀ level,
      Denotes (FromJson.read none (levels + 2)) (writePretty level (toJson r.target)) r.target) :
    Denotes (CompiledRoute.read none (levels + 3)) (writePretty level r.json) r := by
  refine Denotes.checked
    (Json.Layout.denotes_record (r.fills_members (htarget (level + 1))) rfl) ?_
  obtain ⟨path, methods, target, matcher⟩ := r
  cases matcher <;> rfl

end CompiledRoute

/-- The text of a list of records is read as the list.  A list and a record open one level each
around the target. -/
theorem readMarkedRecords_writeRecords {routes : List (CompiledRoute α)}
    (htargets : ∀ r ∈ routes, ∀ level, Denotes (FromJson.read none (Json.maxLevels - 2))
      (writePretty level (toJson r.target)) r.target) :
    readMarkedRecords none (writeRecords routes).toList = .ok routes := by
  have htext : Denotes (Json.readList CompiledRoute.read none Json.maxLevels)
      (writePretty 0 (.arr (routes.map CompiledRoute.json))) routes :=
    Json.denotes_list fun r hr => r.denotes_json 1 (htargets r hr)
  have hread := htext.read_append (show Json.endsValue [] = true from rfl)
  rw [List.append_nil] at hread
  rw [writeRecords, Json.pretty, String.toList_ofList, readMarkedRecords, Json.readWhole, hread]
  rfl

theorem denotes_target_string (levels level : Nat) (s : String) :
    Denotes (FromJson.read none levels) (writePretty level (toJson s)) s :=
  Json.denotes_readString levels s

theorem denotes_target_json {levels : Nat} (level : Nat) {v : Json} (hexact : v.isExact = true)
    (hdepth : v.depth ≤ levels) :
    Denotes (FromJson.read none levels) (writePretty level (toJson v)) v :=
  Json.denotes_value v hexact hdepth level

end PathRouter

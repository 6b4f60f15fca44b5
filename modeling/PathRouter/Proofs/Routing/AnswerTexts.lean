import PathRouter.Proofs.Json.Unambiguous
import PathRouter.Routing.Outcome

/-!
# Texts of answers

The text of an answer tells the answer: what became of the request, the target, the captures in
their order, and the methods that are allowed.  Captures are written as an object in their order,
and a name may stand in it more than once.  Whatever stands in a target, a name or a value cannot
pass for another part of the text.

* `Outcome.eq_of_json` — the JSON form tells the answer, if it tells targets apart;
* `Outcome.texts_unambiguous` — compact and indented texts, of answers whose targets are strings or
  JSON values.
-/

namespace PathRouter

/-! ## Parts of an answer -/

theorem Json.strings_inj {l m : List String} (h : Json.strings l = Json.strings m) : l = m :=
  (List.map_inj_right fun _ _ => Json.str.inj).1 (Json.arr.inj h)

theorem NameSet.eq_of_names {s t : NameSet} (h : s.names = t.names) : s = t := by
  obtain ⟨names, hs⟩ := s
  obtain ⟨names', ht⟩ := t
  obtain rfl : names = names' := h
  rfl

namespace Outcome

theorem capturesJson_inj {l m : Captures} (h : capturesJson l = capturesJson m) : l = m := by
  refine (List.map_inj_right ?_).1 (Json.obj.inj h)
  rintro ⟨name, value⟩ ⟨name', value'⟩ hmember
  obtain ⟨rfl, hvalue⟩ : name = name' ∧ Json.str value = Json.str value' := Prod.mk.inj hmember
  rw [Json.str.inj hvalue]

theorem areFloatFreeMembers_captures (l : Captures) :
    Json.areFloatFreeMembers (l.map fun c => (c.1, .str c.2)) = true := by
  induction l with
  | nil => rfl
  | cons c l ih => exact ih

variable {α : Type} [ToJson α]

/-- Whether there are no numbers in double precision in the target. -/
def isFloatFree : Outcome α → Bool
  | found target _ => (toJson target).isFloatFree
  | _ => true

theorem isFloatFree_json {o : Outcome α} (h : o.isFloatFree = true) :
    o.json.isFloatFree = true := by
  cases o with
  | found target captures =>
      have htarget : (toJson target).isFloatFree = true := h
      have hcaptures := areFloatFreeMembers_captures captures
      simp [json, capturesJson, Json.isFloatFree, Json.areFloatFreeMembers, htarget, hcaptures]
  | notAllowed allowed =>
      have hnames := Json.areFloatFree_strings allowed.names
      simp [json, Json.strings, Json.isFloatFree, Json.areFloatFreeMembers, hnames]
  | notFound => rfl

/-! ## Answers -/

/-- The JSON form tells the answer, if it tells targets apart. -/
theorem eq_of_json (htarget : Function.Injective (toJson : α → Json)) {o o' : Outcome α}
    (h : o.json = o'.json) : o = o' := by
  -- answers of different kinds differ in their first member
  cases o with
  | found target captures =>
      cases o' with
      | found target' captures' =>
          simp only [json, Json.obj.injEq, List.cons.injEq, Prod.mk.injEq, true_and, and_true] at h
          rw [htarget h.1, capturesJson_inj h.2]
      | _ => simp [json] at h
  | notAllowed allowed =>
      cases o' with
      | notAllowed allowed' =>
          simp only [json, Json.obj.injEq, List.cons.injEq, Prod.mk.injEq, true_and, and_true] at h
          rw [NameSet.eq_of_names (Json.strings_inj h)]
      | _ => simp [json] at h
  | notFound =>
      cases o' with
      | notFound => rfl
      | _ => simp [json] at h

theorem text_eq_iff (htarget : Function.Injective (toJson : α → Json)) {o o' : Outcome α}
    (h : o.isFloatFree = true) (h' : o'.isFloatFree = true) :
    (o.json.compact = o'.json.compact ↔ o = o') ∧ (o.json.pretty = o'.json.pretty ↔ o = o') := by
  refine ⟨⟨fun htext => ?_, fun he => by rw [he]⟩, fun htext => ?_, fun he => by rw [he]⟩
  · exact eq_of_json htarget (Json.compact_inj (isFloatFree_json h) (isFloatFree_json h') htext)
  · exact eq_of_json htarget (Json.pretty_inj (isFloatFree_json h) (isFloatFree_json h') htext)

/-! ## Strings among the targets -/

/-- The same answer with its target as a JSON value. -/
def ofString : Outcome String → Outcome Json
  | found target captures => .found (.str target) captures
  | notAllowed allowed => .notAllowed allowed
  | notFound => .notFound

theorem json_ofString (o : Outcome String) : o.ofString.json = o.json := by
  cases o <;> rfl

theorem isFloatFree_of_string (o : Outcome String) : o.isFloatFree = true := by
  cases o <;> rfl

theorem isFloatFree_ofString (o : Outcome String) : o.ofString.isFloatFree = true := by
  cases o <;> rfl

/-- Two answers have one compact text, or one indented text, exactly if they are the same answer.
This holds of answers whose targets are JSON values without numbers in double precision, of answers
whose targets are strings, and between the two, with a string as the JSON value that it is.  The
captures may have any names and values, and the methods that are allowed may have any names. -/
theorem texts_unambiguous :
    (∀ o o' : Outcome Json, o.isFloatFree = true → o'.isFloatFree = true →
      (o.json.compact = o'.json.compact ↔ o = o') ∧ (o.json.pretty = o'.json.pretty ↔ o = o')) ∧
    (∀ o o' : Outcome String,
      (o.json.compact = o'.json.compact ↔ o = o') ∧ (o.json.pretty = o'.json.pretty ↔ o = o')) ∧
    ∀ (o : Outcome String) (o' : Outcome Json), o'.isFloatFree = true →
      (o.json.compact = o'.json.compact ↔ o.ofString = o') ∧
        (o.json.pretty = o'.json.pretty ↔ o.ofString = o') := by
  refine ⟨fun o o' h h' => ?_, fun o o' => ?_, fun o o' h' => ?_⟩
  · exact text_eq_iff (fun _ _ => id) h h'
  · exact text_eq_iff (fun _ _ => Json.str.inj) o.isFloatFree_of_string o'.isFloatFree_of_string
  · rw [← json_ofString]
    exact text_eq_iff (fun _ _ => id) o.isFloatFree_ofString h'

/-- An answer with two captures. -/
def twoCaptures : Outcome Json :=
  .found (.obj [("id", .int (-7)), ("tags", .arr [.str "a\"b", .null])])
    [("name", "x"), ("id", "1")]

/-- An answer with one capture, whose value has been made up to look like the second one. -/
def forgedCapture : Outcome Json :=
  .found (.obj [("id", .int (-7)), ("tags", .arr [.str "a\"b", .null])])
    [("name", "x\",\"id\":\"1")]

/-- The forgery is found out. -/
theorem texts_unambiguous_forged :
    twoCaptures.isFloatFree = true ∧ forgedCapture.isFloatFree = true ∧
    twoCaptures.json.compact ≠ forgedCapture.json.compact ∧
    twoCaptures.json.pretty ≠ forgedCapture.json.pretty := by
  have hne : twoCaptures ≠ forgedCapture := by decide
  obtain ⟨hcompact, hpretty⟩ := texts_unambiguous.1 twoCaptures forgedCapture rfl rfl
  exact ⟨rfl, rfl, fun h => hne (hcompact.1 h), fun h => hne (hpretty.1 h)⟩

end Outcome

end PathRouter

import PathRouter.Proofs.Json.Compact
import PathRouter.Proofs.Json.Objects
import PathRouter.Proofs.Unicode.ByteOrder
import PathRouter.RouteFile.Decode
import PathRouter.Routing.Conversion
import PathRouter.Routing.Record

/-!
# The normal form of methods

Methods can be made from a list of names in many ways.  All of them forget the same about the list:
its order, how often a name is in it, and the empty name.

* `Methods.collect_list`, `Methods.collect_array`, `Methods.collect_vector` — collections in
  memory;
* `Methods.readDocument_eq`, `Methods.decode_strings` — texts and values of JSON;
* `Methods.normalForm` — the methods that all these ways lead to, and what they are like.
-/

namespace PathRouter

open Json (ArrayText Denotes Dialect DocumentText StringText)

namespace Methods

/-! ## Names in a list -/

/-- Whether methods have the names in a list, and no others. The empty name does not count. -/
def HasNames (m : Methods) (l : List String) : Prop :=
  ∀ n, n ∈ m.toList ↔ n ∈ l ∧ n ≠ ""

theorem hasNames_ofList (l : List String) : (ofList l).HasNames l :=
  fun _ => mem_toList_ofList

theorem HasNames.eq_ofList {m : Methods} {l : List String} (h : m.HasNames l) : m = ofList l :=
  ext_mem fun n => (h n).trans mem_toList_ofList.symm

theorem hasNames_toList (m : Methods) : m.HasNames m.toList := by
  have h := hasNames_ofList m.toList
  rwa [ofList_toList] at h

/-! ## Collections -/

theorem mem_toList_foldl_add (l : List String) (m : Methods) {n : String} :
    n ∈ (l.foldl add m).toList ↔ n ∈ m.toList ∨ n ∈ l ∧ n ≠ "" := by
  induction l generalizing m with
  | nil => simp
  | cons name l ih =>
      rw [List.foldl_cons, ih, mem_toList_add, List.mem_cons, or_assoc, ← or_and_right]

theorem foldl_add_any (l : List String) : l.foldl add any = ofList l := by
  refine HasNames.eq_ofList fun n => ?_
  rw [mem_toList_foldl_add]
  exact or_iff_right List.not_mem_nil

theorem collect_list (l : List String) : collect l = ofList l := by
  rw [← foldl_add_any, collect]
  simp

theorem collect_array (names : Array String) : collect names = ofList names.toList := by
  rw [← foldl_add_any, collect]
  simp

theorem collect_vector {n : Nat} (names : Vector String n) :
    collect names = ofList names.toList := by
  rw [← foldl_add_any, collect]
  simp

/-! ## Texts and values -/

/-- Any text of a list of names is read as the methods with these names. -/
theorem denotes_read {text : List Char} {l : List String} (h : ArrayText StringText text l)
    (levels : Nat) :
    Denotes (Methods.read none (levels + 1)) text (ofList l) :=
  (h.denotes_readList fun hname => hname.quotes.denotes_readString levels).checked rfl

theorem readDocument_eq {doc : String} {l : List String}
    (h : DocumentText (ArrayText StringText · l) doc) :
    Json.readDocument Methods.read doc = .ok (ofList l) :=
  h.readDocument_eq fun htext => denotes_read htext 126

theorem arrayText_json (m : Methods) :
    ArrayText StringText (Json.writeCompact (toJson m)) m.toList :=
  Json.arrayText_strings m.toList

theorem decode_strings (dialect : Dialect) (l : List String) :
    Methods.decode dialect (Json.strings l) = .ok (ofList l) := by
  rw [Methods.decode, Json.decodeList_strings]
  rfl

/-! ## The normal form -/

theorem accepts_ofList_iff {l : List String} {method : String} :
    (ofList l).accepts method = true ↔ method = "" ∨ (∀ n ∈ l, n = "") ∨ method ∈ l := by
  rw [accepts_iff, ofList_eq_any_iff, mem_toList_ofList]
  by_cases hempty : method = ""
  · exact iff_of_true (.inl hempty) (.inl hempty)
  · simp only [hempty, ne_eq, not_false_eq_true, and_true, false_or]

theorem ofList_eq_iff {l l' : List String} :
    ofList l = ofList l' ↔ ∀ n ≠ "", (n ∈ l ↔ n ∈ l') := by
  constructor
  · intro heq n hn
    have hmem : n ∈ (ofList l).toList ↔ n ∈ (ofList l').toList := by rw [heq]
    simpa [hn] using hmem
  · intro h
    refine ext_mem fun n => ?_
    rw [mem_toList_ofList, mem_toList_ofList]
    exact and_congr_left (h n)

/-- The names are in the order of their bytes. -/
theorem increasing_bytes (m : Methods) :
    m.toList.Pairwise fun n n' => utf8Bytes n < utf8Bytes n' :=
  m.increasing_toList.imp utf8Bytes_lt_iff.2

/-- Whatever way a list of names takes, the same methods come of it. They restrict nothing if there
is no name in the list but the empty one; else they are the names of the list without the empty
one, in the order of their bytes, and never none at all. From these names the same methods come
again, and two lists lead to the same methods only if they have the same names. -/
theorem normalForm (l : List String) : ∃ m : Methods,
    (toMethods l = m ∧ toMethods l.toArray = m ∧ toMethods l.toArray.toVector = m ∧
      toMethods (some l) = m ∧ toMethods (some l.toArray) = m ∧
      (∀ name, l = [name] → toMethods name = m ∧ toMethods (some name) = m) ∧
      (l = [] → toMethods (none : Option String) = m ∧
        toMethods (none : Option (List String)) = m) ∧
      (∀ doc, DocumentText (ArrayText StringText · l) doc →
        Json.readDocument Methods.read doc = .ok m) ∧
      ∀ dialect, Methods.decode dialect (Json.strings l) = .ok m) ∧
    ((m = any ↔ ∀ n ∈ l, n = "") ∧ (m ≠ any → m.toList ≠ []) ∧ "" ∉ m.toList) ∧
    (∀ method, m.accepts method = true ↔ method = "" ∨ (∀ n ∈ l, n = "") ∨ method ∈ l) ∧
    ((∀ n, n ∈ m.toList ↔ n ∈ l ∧ n ≠ "") ∧
      m.toList.Pairwise fun n n' => utf8Bytes n < utf8Bytes n') ∧
    (toMethods m.toList = m ∧ Json.readDocument Methods.read (toJson m).compact = .ok m ∧
      ∀ dialect, Methods.decode dialect (toJson m) = .ok m) ∧
    ∀ l' : List String, toMethods l' = m ↔ ∀ n ≠ "", (n ∈ l' ↔ n ∈ l) := by
  have hlist : ∀ l : List String, toMethods l = ofList l := collect_list
  have harray : toMethods l.toArray = ofList l := collect_array l.toArray
  have hvector : toMethods l.toArray.toVector = ofList l := collect_vector l.toArray.toVector
  have hagain : ofList (ofList l).toList = ofList l := ofList_toList _
  refine ⟨ofList l,
    ⟨hlist l, harray, hvector, hlist l, harray, ?_, ?_, fun doc => readDocument_eq, ?_⟩,
    ⟨ofList_eq_any_iff, mt toList_eq_nil_iff.1, empty_not_mem_toList _⟩,
    fun _ => accepts_ofList_iff,
    ⟨fun _ => mem_toList_ofList, increasing_bytes _⟩, ⟨?_, ?_, ?_⟩, fun l' => ?_⟩
  · rintro name rfl
    exact ⟨rfl, rfl⟩
  · rintro rfl
    exact ⟨rfl, rfl⟩
  · exact fun dialect => decode_strings dialect l
  · exact (hlist _).trans hagain
  · exact (readDocument_eq (Json.documentText_ofList (arrayText_json _))).trans
      (congrArg Except.ok hagain)
  · exact fun dialect => (decode_strings dialect _).trans (congrArg Except.ok hagain)
  · rw [hlist]
    exact ofList_eq_iff

/-- A list with a name that is repeated, the empty name, and a name with an escape. -/
def accentedDocument : String :=
  " [\"PUT\",\"\",\"\\u00E9\",\"PUT\"]\n"

theorem documentText_accented :
    DocumentText (ArrayText StringText · ["PUT", "", "é", "PUT"]) accentedDocument := by
  have hcode : Json.CodeText ['0', '0', 'E', '9'] 'é'.toNat :=
    .mk (Json.hexDigit_small 0 (by decide)) (Json.hexDigit_small 0 (by decide))
      (.upper (n := 14) (by decide))
      (Json.hexDigit_small 9 (by decide))
  have haccent : StringText ('"' :: ('\\' :: 'u' :: ['0', '0', 'E', '9'] ++ []) ++ ['"']) "é" :=
    .mk (show Json.CharsText _ ['é'] from .cons (.code hcode) .nil)
  have hname := Json.stringText_writeString
  have hitems :=
    ArrayText.mk (.item Json.separates_nothing (hname "PUT") (.item Json.separates_comma (hname "")
    (.item Json.separates_comma haccent (.item Json.separates_comma (hname "PUT")
      (.close (b := []) rfl)))))
  have hdoc : DocumentText (ArrayText StringText · ["PUT", "", "é", "PUT"])
      (String.ofList ([' '] ++ (_ ++ ['\n']))) :=
    .mk rfl hitems rfl
  refine Eq.mp (congrArg _ ?_) hdoc
  decide

theorem normalForm_accented :
    DocumentText (ArrayText StringText · ["PUT", "", "é", "PUT"]) accentedDocument ∧
      Json.readDocument Methods.read accentedDocument =
        .ok (toMethods ["PUT", "", "é", "PUT"]) := by
  obtain ⟨m, ⟨hlist, -, -, -, -, -, -, htext, -⟩, -⟩ := normalForm ["PUT", "", "é", "PUT"]
  rw [hlist]
  exact ⟨documentText_accented, htext _ documentText_accented⟩

end Methods

end PathRouter

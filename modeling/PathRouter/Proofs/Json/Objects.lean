import PathRouter.Json.Decode
import PathRouter.Proofs.Json.Fields

/-!
# Values that are decoded

A record is decoded from any object that gives its fields, in any order and among members that
belong to no field, and from any array that gives them in their order; fields with a default may be
missing.  As for texts, a `view` says what the draft is when the fields with some keys have been
decoded.

* `RecordValue.exists_decodeRecord` — a record is decoded as the view of all its fields;
* `decodeList_eq_ok` — an array is decoded as the list of what its elements are decoded as.
-/

namespace PathRouter.Json

variable {α σ : Type} {dialect : Dialect}

/-- The values of a record. -/
inductive RecordValue (fields : List (FieldForm Json)) : Json → Prop where
  /-- An object. -/
  | object {ms : List (String × Json)} (hms : GivesMembers fields (fun _ =>
      True) ms) : RecordValue fields (.obj ms)
  /-- An array. -/
  | array {items : List Json} (hitems : GivesItems fields items) : RecordValue fields (.arr items)

/-- An object is a value of a record if it gives the fields in their order. -/
theorem RecordValue.of_inOrder {fields : List (FieldForm Json)} {ms : List (String × Json)}
    (h : InOrder fields ms) (hkeys : (fields.map FieldForm.key).Nodup) :
    RecordValue fields (.obj ms) :=
  .object (h.givesMembers hkeys _)

/-! ## Depth -/

theorem RecordValue.depth_pos {fields : List (FieldForm Json)} {v : Json}
    (h : RecordValue fields v) :
    0 < depth v := by
  cases h <;> exact Nat.succ_pos _

/-! ## Strings and lists -/

theorem decodeItems_eq_ok {decode : Json → Except ReadError α} {vs : List Json} {as : List α}
    (h : List.Forall₂ (fun v a => decode v = .ok a) vs as) : decodeItems decode vs = .ok as := by
  induction h with
  | nil => rfl
  | cons hhead _ ih => simp only [decodeItems, hhead, ih]

theorem decodeList_eq_ok {decode : Decoder α} {vs : List Json} {as : List α}
    (h : List.Forall₂ (fun v a => decode dialect v = .ok a) vs as) :
    decodeList decode dialect (.arr vs) = .ok as :=
  decodeItems_eq_ok h

theorem decodeString_eq_ok {s : String} {v : Json} (h : v = .str s) :
    decodeString dialect v = .ok s := by
  rw [h]
  rfl

theorem decodeList_strings (l : List String) :
    decodeList decodeString dialect (strings l) = .ok l := by
  refine decodeList_eq_ok ?_
  rw [List.forall₂_map_left_iff]
  exact List.forall₂_same.2 fun _ _ => rfl

/-! ## Records -/

/-- A slot takes up the forms of a field, from values that are not nested deeper than some levels.
`view` is the draft that has the fields with some keys. -/
structure Slot.Fits (dialect : Dialect) (view : List String → σ) (levels : Nat) (s : Slot σ)
    (form : FieldForm Json) :
    Prop where
  /-- Both have the same key. -/
  key_eq : s.key = form.key
  /-- A field that may be missing has a default. -/
  hasDefault : form.omissible → s.hasDefault = true
  /-- The field is decoded from any of its forms. -/
  decode_eq : ∀ keys {v}, form.form v → depth v ≤ levels → s.decode dialect (view keys) v =
    .ok (view (s.key :: keys))

/-- A slot fits if its decoder takes up its values and the draft keeps what was decoded. -/
theorem Slot.fits_of {key : String} {form : Json → Prop} {omissible : Prop} {hasDefault : Bool}
    {set : σ → α → σ} {decode : Decoder α} {view : List String → σ} {levels : Nat} {a : α}
    (hset : ∀ keys, set (view keys) a = view (key :: keys))
    (hdecode : ∀ {v}, form v → depth v ≤ levels → decode dialect v = .ok a)
    (hdefault : omissible → hasDefault = true) :
    (Slot.of key hasDefault set decode).Fits dialect view levels { key, form, omissible } where
  key_eq := rfl
  hasDefault := hdefault
  decode_eq keys {v} hform hdepth := by
    show (decode dialect v).map (set (view keys)) = .ok (view (key :: keys))
    rw [hdecode hform hdepth, ← hset]
    rfl

section

variable {view : List String → σ} {levels : Nat} {slots : List (Slot σ)}
    {forms : List (FieldForm Json)}

/-- The members of an object are taken up one by one. -/
theorem exists_decodeMembers (hfits : List.Forall₂ (Slot.Fits dialect view levels) slots forms)
    {ms : List (String × Json)} (hdepth : ∀ m ∈ ms, depth m.2 ≤ levels) {keys : List String}
    (hms : Remaining forms (fun _ => True) keys ms) :
    ∃ keys', (∀ form ∈ forms, form.key ∈ keys ∨ form.key ∈ ms.map Prod.fst → form.key ∈ keys') ∧
      decodeMembers slots dialect (view keys) ms = .ok (view keys') := by
  induction ms generalizing keys with
  | nil => exact ⟨keys, fun _ _ h => h.resolve_right List.not_mem_nil, rfl⟩
  | cons m ms ih =>
      obtain ⟨k, v⟩ := m
      rw [List.forall_mem_cons] at hdepth
      have hhead : (k, v) ∈ (k, v) :: ms := List.mem_cons_self
      cases hfind : slots.find? fun s => s.key == k with
      | none =>
          have hunknown : ∀ form ∈ forms, form.key ≠ k :=
            forall_key_ne hfits Slot.Fits.key_eq hfind
          obtain ⟨keys', hkeys', hdecode⟩ := ih hdepth.2 hms.tail
          refine ⟨keys', fun form hform h => hkeys' form hform ?_, ?_⟩
          · exact h.imp_right (List.mem_of_ne_of_mem (hunknown form hform))
          · simp only [decodeMembers, hfind, hdecode]
      | some s =>
          obtain rfl : s.key = k := by simpa using List.find?_some hfind
          obtain ⟨form, hform, hfit⟩ := exists_partner hfits (List.mem_of_find?_eq_some hfind)
          have hhere := hfit.decode_eq keys (hms.form _ hhead form hform hfit.key_eq.symm) hdepth.1
          obtain ⟨keys', hkeys', hdecode⟩ := ih hdepth.2 hms.tail_given
          refine ⟨keys', fun form' hform' h => hkeys' form' hform' (mem_cons_or_of_mem h), ?_⟩
          simp only [decodeMembers, hfind, hhere, hdecode]

/-- The elements of an array are taken up one by one. -/
theorem exists_decodePositions (hfits : List.Forall₂ (Slot.Fits dialect view levels) slots forms)
    {items : List Json} (hdepth : ∀ v ∈ items, depth v ≤ levels) (hitems : GivesItems forms items)
    (name : String) (fields index : Nat) (keys : List String) :
    ∃ keys', keys ⊆ keys' ∧ (∀ form ∈ forms, form.key ∈ keys' ∨ form.omissible) ∧
      decodePositions name fields dialect slots index (view keys) items = .ok (view keys') := by
  induction hfits generalizing items index keys with
  | nil =>
      cases hitems with
      | nil h => exact ⟨keys, List.Subset.refl _, fun form hform => .inr (h form hform), rfl⟩
  | @cons s form slots forms hfit _ ih =>
      cases hitems with
      | nil homissible =>
          have hrest : GivesItems forms [] :=
            .nil fun form hform => homissible form (List.mem_cons_of_mem _ hform)
          obtain ⟨keys', hsubset, hgiven, hdecode⟩ := ih hdepth hrest (index + 1) keys
          refine ⟨keys', hsubset,
            List.forall_mem_cons.2 ⟨.inr (homissible form List.mem_cons_self), hgiven⟩, ?_⟩
          rw [decodePositions, if_pos (hfit.hasDefault (homissible form List.mem_cons_self)),
            hdecode]
      | cons hform hrest =>
          rw [List.forall_mem_cons] at hdepth
          have hhere := hfit.decode_eq keys hform hdepth.1
          obtain ⟨keys', hsubset, hgiven, hdecode⟩ := ih hdepth.2 hrest (index + 1) (s.key :: keys)
          refine ⟨keys', fun k hk => hsubset (List.mem_cons_of_mem _ hk), ?_, ?_⟩
          · exact List.forall_mem_cons.2 ⟨.inl (hfit.key_eq ▸ hsubset List.mem_cons_self), hgiven⟩
          · simp only [decodePositions, hhere, hdecode]

/-- Any value of a record is decoded as the draft that has all its fields, but some that may be
missing. -/
theorem RecordValue.exists_decodeRecord
    (hfits : List.Forall₂ (Slot.Fits dialect view levels) slots forms) {v : Json}
    (h : RecordValue forms v) (hdepth : depth v ≤ levels + 1) (name : String) :
    ∃ keys, (∀ form ∈ forms, form.key ∈ keys ∨ form.omissible) ∧
      decodeRecord name slots (view []) dialect v = .ok (view keys) := by
  cases h with
  | @object ms hms =>
      obtain ⟨keys, hkeys, hdecode⟩ := exists_decodeMembers hfits
        (depthMembers_le_iff.1 (Nat.le_of_succ_le_succ hdepth)) (.of_givesMembers hms)
      have hmissing : (slots.find? fun s => !s.hasDefault && !ms.any (·.1 == s.key)) = none := by
        refine List.find?_eq_none.2 fun s hs => ?_
        obtain ⟨form, hform, hfit⟩ := exists_partner hfits hs
        rcases hms.given form hform with hin | homissible
        · obtain ⟨m, hm, hkey⟩ := List.mem_map.1 hin
          have hany : ms.any (·.1 == s.key) = true :=
            List.any_eq_true.2 ⟨m, hm, by simp [hkey, hfit.key_eq]⟩
          simp [hany]
        · simp [hfit.hasDefault homissible]
      refine ⟨keys, fun form hform => (hms.given form hform).imp_left fun hin =>
        hkeys form hform (.inr hin), ?_⟩
      simp only [decodeRecord, hdecode, hmissing]
  | array hitems =>
      obtain ⟨keys, -, hgiven, hdecode⟩ := exists_decodePositions hfits
        (depthItems_le_iff.1 (Nat.le_of_succ_le_succ hdepth)) hitems name slots.length 0 []
      exact ⟨keys, hgiven, hdecode⟩

/-- A record is decoded if the drafts lead from the blank one to the one that has all fields, but
some that may be missing. -/
theorem RecordValue.decodeRecord_eq_ok (view : List String → σ)
    (hfits : List.Forall₂ (Slot.Fits dialect view levels) slots forms) {v : Json}
    (h : RecordValue forms v) (hdepth : depth v ≤ levels + 1) {blank a : σ}
    (hblank : view [] = blank)
    (hfull : ∀ keys, (∀ form ∈ forms, form.key ∈ keys ∨ form.omissible) → view keys = a)
    (name : String) :
    decodeRecord name slots blank dialect v = .ok a := by
  obtain ⟨keys, hkeys, hdecode⟩ := h.exists_decodeRecord hfits hdepth name
  rw [← hblank, hdecode, hfull keys hkeys]

end

end PathRouter.Json

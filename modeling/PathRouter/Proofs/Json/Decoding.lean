import Mathlib.Data.List.Basic
import PathRouter.Json.Decode

/-!
# What a decoded record was made of

A record that is decoded holds, field by field, what the value has for the fields: the last member
of an object with the key of the field, or the element of an array at its position.  A field that
is missing keeps what the draft had before.  This is said for one field at a time, by a view of the
drafts that the slot of the field sets and all other slots keep.

* `part` — what a value has for a field;
* `Decoded.of_decodeRecord` — one field of a record;
* `Decoded.eq_map`, `Decoded.mem_iff`, `Decoded.exists_of_mem` — the elements of a list.
-/

namespace PathRouter.Json

/-! ## Parts of a value -/

/-- What a value has for a field of a record. The last of several members with one key counts. -/
def part (key : String) (position : Nat) : Json → Option Json
  | obj members => members.reverse.lookup key
  | arr items => items[position]?
  | _ => none

/-- The elements of a list that may be missing. -/
def elements : Option Json → List Json
  | some (arr items) => items
  | _ => []

/-- A text that may be missing. -/
def textOf : Option Json → String
  | some (str s) => s
  | _ => ""

/-- What decoding a part that may be missing comes to, beside a default. -/
def Decoded {β : Type} (decode : Decoder β) (dialect : Dialect) (default : β) :
    Option Json → β → Prop
  | none, b => b = default
  | some v, b => decode dialect v = .ok b

variable {σ β : Type} {dialect : Dialect}

/-! ## Slots -/

namespace Slot

/-- A slot decodes a part of the draft. -/
def Sets (s : Slot σ) (get : σ → β) (decode : Decoder β) : Prop :=
  ∀ ⦃dialect draft v draft'⦄, s.decode dialect draft v = .ok draft' →
    decode dialect v = .ok (get draft')

/-- A slot leaves a part of the draft alone. -/
def Keeps (s : Slot σ) (get : σ → β) : Prop :=
  ∀ ⦃dialect draft v draft'⦄, s.decode dialect draft v = .ok draft' → get draft' = get draft

variable {α : Type} {key : String} {hasDefault : Bool} {set : σ → α → σ} {decode : Decoder α}

@[simp] theorem key_of : (Slot.of key hasDefault set decode).key = key := rfl

/-- What a slot decodes is put into the draft. -/
theorem exists_of_decode_of {draft draft' : σ} {v : Json}
    (h : (Slot.of key hasDefault set decode).decode dialect draft v = .ok draft') :
    ∃ a, decode dialect v = .ok a ∧ set draft a = draft' := by
  simp only [Slot.of] at h
  cases hv : decode dialect v with
  | error e =>
      rw [hv] at h
      cases h
  | ok a =>
      rw [hv] at h
      cases h
      exact ⟨a, rfl, rfl⟩

theorem sets_of {get : σ → α} (h : ∀ draft a, get (set draft a) = a) :
    (Slot.of key hasDefault set decode).Sets get decode := by
  intro dialect draft v draft' hdecode
  obtain ⟨a, ha, rfl⟩ := exists_of_decode_of hdecode
  rw [ha, h]

theorem keeps_of {get : σ → β} (h : ∀ draft a, get (set draft a) = get draft) :
    (Slot.of key hasDefault set decode).Keeps get := by
  intro dialect draft v draft' hdecode
  obtain ⟨a, -, rfl⟩ := exists_of_decode_of hdecode
  exact h draft a

end Slot

/-! ## Records -/

section Records

variable {s : Slot σ} {get : σ → β} {decode : Decoder β}

theorem lookup_concat (members : List (String × Json)) (key key' : String) (v : Json) :
    (members ++ [(key', v)]).lookup key =
      (members.lookup key).or (if key == key' then some v else none) := by
  rw [List.lookup_append, List.lookup_cons]
  cases key == key' <;> rfl

/-- The last member of an object with the key of a field is what the field is decoded from. -/
theorem Decoded.of_decodeMembers {slots : List (Slot σ)} {members : List (String × Json)}
    {draft draft' : σ} (hfind : slots.find? (·.key == s.key) = some s) (hset : s.Sets get decode)
    (hkeep : ∀ s' ∈ slots, s'.key ≠ s.key → s'.Keeps get)
    (h : decodeMembers slots dialect draft members = .ok draft') :
    Decoded decode dialect (get draft) (members.reverse.lookup s.key) (get draft') := by
  induction members generalizing draft with
  | nil =>
      cases h
      rfl
  | cons m ms ih =>
      obtain ⟨key, v⟩ := m
      rw [List.reverse_cons, lookup_concat]
      simp only [decodeMembers] at h
      split at h
      next hnone =>
        -- the member belongs to no field
        have hne : (s.key == key) = false := by
          rw [← Bool.not_eq_true, beq_iff_eq]
          rintro rfl
          cases hfind.symm.trans hnone
        rw [hne, if_neg Bool.false_ne_true, Option.or_none]
        exact ih h
      next s' hs' =>
        split at h
        · cases h
        next draft₁ hdecode =>
          have hrest := ih h
          have hkey : s'.key = key := beq_iff_eq.1 (List.find?_some hs' :)
          by_cases heq : s.key = key
          · -- the member belongs to the field, and counts unless it comes again
            obtain rfl : s = s' := by
              rw [heq] at hfind
              exact Option.some.inj (hfind.symm.trans hs')
            rw [beq_iff_eq.2 heq, if_pos rfl]
            cases hlater : ms.reverse.lookup s.key with
            | none =>
                rw [hlater] at hrest
                rw [Option.none_or]
                show decode dialect v = .ok (get draft')
                rw [show get draft' = get draft₁ from hrest]
                exact hset hdecode
            | some w =>
                rw [hlater] at hrest
                exact hrest
          · have hsame : get draft₁ = get draft :=
              hkeep s' (List.mem_of_find?_eq_some hs') (by rw [hkey]; exact Ne.symm heq) hdecode
            rw [beq_false_of_ne heq, if_neg Bool.false_ne_true, Option.or_none, ← hsame]
            exact hrest

variable {name : String} {fields : Nat}

/-- Fields at other positions keep a part of the draft. -/
theorem eq_of_decodePositions {slots : List (Slot σ)} {index : Nat} {items : List Json}
    {draft draft' : σ} (hkeep : ∀ s' ∈ slots, s'.Keeps get)
    (h : decodePositions name fields dialect slots index draft items = .ok draft') :
    get draft' = get draft := by
  induction slots generalizing index items draft with
  | nil =>
      cases items with
      | nil =>
          cases h
          rfl
      | cons v rest =>
          simp only [decodePositions] at h
          split at h
          · cases h
            rfl
          · cases h
  | cons s slots ih =>
      rw [List.forall_mem_cons] at hkeep
      cases items with
      | nil =>
          simp only [decodePositions] at h
          split at h
          · exact ih hkeep.2 h
          · cases h
      | cons v rest =>
          simp only [decodePositions] at h
          split at h
          · cases h
          next draft₁ hdecode => exact (ih hkeep.2 h).trans (hkeep.1 hdecode)

/-- The element at the position of a field is what the field is decoded from. -/
theorem Decoded.of_decodePositions {before after : List (Slot σ)} {index : Nat} {items : List Json}
    {draft draft' : σ} (hset : s.Sets get decode) (hbefore : ∀ s' ∈ before, s'.Keeps get)
    (hafter : ∀ s' ∈ after, s'.Keeps get)
    (h : decodePositions name fields dialect (before ++ s :: after) index draft items =
      .ok draft') :
    Decoded decode dialect (get draft) items[before.length]? (get draft') := by
  induction before generalizing index items draft with
  | nil =>
      cases items with
      | nil =>
          simp only [List.nil_append, decodePositions] at h
          split at h
          · exact eq_of_decodePositions hafter h
          · cases h
      | cons v rest =>
          simp only [List.nil_append, decodePositions] at h
          split at h
          · cases h
          next draft₁ hdecode =>
            show decode dialect v = .ok (get draft')
            rw [eq_of_decodePositions hafter h]
            exact hset hdecode
  | cons b bs ih =>
      rw [List.forall_mem_cons] at hbefore
      cases items with
      | nil =>
          simp only [List.cons_append, decodePositions] at h
          split at h
          · exact ih hbefore.2 h
          · cases h
      | cons v rest =>
          simp only [List.cons_append, decodePositions] at h
          split at h
          · cases h
          next draft₁ hdecode =>
            rw [← hbefore.1 hdecode]
            exact ih hbefore.2 h

theorem decodeMembers_of_decodeRecord {slots : List (Slot σ)} {blank draft : σ}
    {members : List (String × Json)}
    (h : decodeRecord name slots blank dialect (.obj members) = .ok draft) :
    decodeMembers slots dialect blank members = .ok draft := by
  simp only [decodeRecord] at h
  split at h
  · cases h
  next hmembers =>
    split at h
    · cases h
    · cases h
      exact hmembers

/-- A field of a decoded record is decoded from the part that the value has for it. -/
theorem Decoded.of_decodeRecord (get : σ → β) (before after : List (Slot σ)) {blank draft : σ}
    {v : Json} (h : decodeRecord name (before ++ s :: after) blank dialect v = .ok draft)
    (hset : s.Sets get decode) (hbefore : before.Forall fun s' => s'.key ≠ s.key ∧ s'.Keeps get)
    (hafter : after.Forall (·.Keeps get)) :
    Decoded decode dialect (get blank) (v.part s.key before.length) (get draft) := by
  rw [List.forall_iff_forall_mem] at hbefore hafter
  cases v with
  | obj members =>
      have hfind : (before ++ s :: after).find? (·.key == s.key) = some s := by
        have hnone : before.find? (·.key == s.key) = none :=
          List.find?_eq_none.2 fun s' hs' => mt eq_of_beq (hbefore s' hs').1
        rw [List.find?_append, hnone, Option.none_or]
        exact List.find?_cons_of_pos (beq_self_eq_true s.key)
      refine of_decodeMembers hfind hset ?_ (decodeMembers_of_decodeRecord h)
      intro s' hs' hne
      rcases List.mem_append.1 hs' with hs' | hs'
      · exact (hbefore s' hs').2
      · rcases List.mem_cons.1 hs' with rfl | hs'
        · exact absurd rfl hne
        · exact hafter s' hs'
  | arr items => exact of_decodePositions hset (fun s' hs' => (hbefore s' hs').2) hafter h
  | _ => cases h

end Records

/-! ## Lists and texts -/

/-- A text is decoded as it is. -/
theorem Decoded.eq_textOf {part : Option Json} {s : String}
    (h : Decoded decodeString dialect "" part s) : s = textOf part := by
  cases part with
  | none => exact h
  | some v =>
      cases v with
      | str text =>
          cases h
          rfl
      | _ => cases h

section Lists

variable {decode : Decoder β} {part : Option Json} {l : List β}

theorem map_decode_of_decodeItems {decode : Json → Except ReadError β} {items : List Json}
    (h : decodeItems decode items = .ok l) : items.map decode = l.map .ok := by
  induction items generalizing l with
  | nil =>
      cases h
      rfl
  | cons v vs ih =>
      simp only [decodeItems] at h
      split at h
      · cases h
      next a ha =>
        split at h
        · cases h
        next as has =>
          cases h
          rw [List.map_cons, List.map_cons, ha, ih has]

/-- A list is decoded element by element. -/
theorem Decoded.map_decode (h : Decoded (decodeList decode) dialect [] part l) :
    (elements part).map (decode dialect) = l.map .ok := by
  cases part with
  | none =>
      cases h
      rfl
  | some v =>
      cases v with
      | arr items => exact map_decode_of_decodeItems h
      | _ => cases h

theorem Decoded.mem_iff (h : Decoded (decodeList decode) dialect [] part l) {b : β} :
    b ∈ l ↔ ∃ v ∈ elements part, decode dialect v = .ok b := by
  have hmem : b ∈ l ↔ (.ok b : Except ReadError β) ∈ l.map .ok := by simp
  rw [hmem, ← h.map_decode, List.mem_map]

/-- If elements are decoded by a function, so is a list. -/
theorem Decoded.eq_map (h : Decoded (decodeList decode) dialect [] part l) {f : Json → β}
    (hf : ∀ {v b}, decode dialect v = .ok b → b = f v) : l = (elements part).map f := by
  have hmap := h.map_decode
  generalize elements part = items at hmap ⊢
  clear h
  induction items generalizing l with
  | nil => exact List.map_eq_nil_iff.1 hmap.symm
  | cons v vs ih =>
      cases l with
      | nil => cases hmap
      | cons b bs =>
          rw [List.map_cons, List.map_cons, List.cons.injEq] at hmap
          rw [List.map_cons, hf hmap.1, ih hmap.2]

/-- No element of a list is left out. -/
theorem Decoded.exists_of_mem (h : Decoded (decodeList decode) dialect [] part l) {v : Json}
    (hv : v ∈ elements part) : ∃ b ∈ l, decode dialect v = .ok b := by
  have hmem : decode dialect v ∈ l.map .ok := h.map_decode ▸ List.mem_map_of_mem hv
  obtain ⟨b, hb, heq⟩ := List.mem_map.1 hmem
  exact ⟨b, hb, heq.symm⟩

end Lists

end PathRouter.Json

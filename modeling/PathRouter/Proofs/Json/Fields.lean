import Mathlib.Data.List.Forall2
import Mathlib.Data.List.Nodup

/-!
# The fields of a record

A record is given by an object or an array, in a text or as a value.  In an object its fields stand
in any order, among members that belong to no field; in an array they stand in their fixed order.
A field that may be missing can be left out anywhere in an object, and at the end of an array.
`FieldForm` says of a field how its content may be given.

Fields are taken up one after the other.  `Remaining` says what may still come when the fields with
some keys have been given, and `given` what a draft with these fields holds.

* `GivesMembers.cons_other`, `GivesMembers.perm` — other members and other orders;
* `InOrder.givesMembers` — fields in their order, some of them left out.
-/

namespace PathRouter.Json

variable {α β : Type}

/-- A field of a record, given by texts or by values. -/
structure FieldForm (β : Type) where
  /-- The key. -/
  key : String
  /-- How the content of the field may be given. -/
  form : β → Prop
  /-- Whether the field may be missing. -/
  omissible : Prop

/-- Members that give the fields of a record. -/
structure GivesMembers (fields : List (FieldForm β)) (other : β → Prop) (ms : List (String × β)) :
    Prop where
  /-- No field is given twice. -/
  once : ∀ f ∈ fields, (ms.map Prod.fst).count f.key ≤ 1
  /-- What is given for a field has a form of the field. -/
  form : ∀ m ∈ ms, ∀ f ∈ fields, f.key = m.1 → f.form m.2
  /-- What belongs to no field. -/
  other : ∀ m ∈ ms, (∀ f ∈ fields, f.key ≠ m.1) → other m.2
  /-- No field is missing unless it may be. -/
  given : ∀ f ∈ fields, f.key ∈ ms.map Prod.fst ∨ f.omissible

/-- Elements that give the fields of a record in their order. -/
inductive GivesItems : List (FieldForm β) → List β → Prop where
  /-- The fields that are left are missing. -/
  | nil {fields : List (FieldForm β)} (h : ∀ f ∈ fields, f.omissible) : GivesItems fields []
  /-- The next field, and more. -/
  | cons {f : FieldForm β} {fields : List (FieldForm β)} {b : β} {bs : List β} (hb : f.form b)
    (hbs : GivesItems fields bs) : GivesItems (f :: fields) (b :: bs)

/-- Members that give the fields of a record in their order. -/
inductive InOrder : List (FieldForm β) → List (String × β) → Prop where
  /-- There are no more fields. -/
  | nil : InOrder [] []
  /-- A field. -/
  | given {f : FieldForm β} {fields : List (FieldForm β)} {b : β} {ms : List (String × β)}
    (hb : f.form b)
    (hms : InOrder fields ms) : InOrder (f :: fields) ((f.key, b) :: ms)
  /-- A field that is missing. -/
  | missing {f : FieldForm β} {fields : List (FieldForm β)} {ms : List (String × β)}
    (hf : f.omissible)
    (hms : InOrder fields ms) : InOrder (f :: fields) ms

/-! ## Other members, other orders -/

namespace GivesMembers

variable {fields : List (FieldForm β)} {other : β → Prop} {ms ms' : List (String × β)}

/-- The members may be put into another order. -/
theorem perm (h : GivesMembers fields other ms) (horder : ms.Perm ms') :
    GivesMembers fields other ms' where
  once f hf := by
    rw [← (horder.map Prod.fst).count_eq]
    exact h.once f hf
  form m hm := h.form m (horder.mem_iff.2 hm)
  other m hm := h.other m (horder.mem_iff.2 hm)
  given f hf := (h.given f hf).imp_left (horder.map Prod.fst).mem_iff.1

end GivesMembers

/-! ## Fields in their order -/

namespace InOrder

variable {fields : List (FieldForm β)} {ms : List (String × β)}

theorem keys_sublist (h : InOrder fields ms) :
    (ms.map Prod.fst).Sublist (fields.map FieldForm.key) := by
  induction h with
  | nil => exact .slnil
  | given _ _ ih => exact .cons_cons _ ih
  | missing _ _ ih => exact .cons _ ih

theorem exists_field (h : InOrder fields ms) {m : String × β} (hm : m ∈ ms) :
    ∃ f ∈ fields, f.key = m.1 ∧ f.form m.2 := by
  induction h with
  | nil => cases hm
  | given hb _ ih =>
      rcases List.mem_cons.1 hm with rfl | hm
      · exact ⟨_, List.mem_cons_self, rfl, hb⟩
      · exact (ih hm).imp fun _ hf => ⟨List.mem_cons_of_mem _ hf.1, hf.2⟩
  | missing _ _ ih => exact (ih hm).imp fun _ hf => ⟨List.mem_cons_of_mem _ hf.1, hf.2⟩

theorem given_or_omissible (h : InOrder fields ms) {f : FieldForm β} (hf : f ∈ fields) :
    f.key ∈ ms.map Prod.fst ∨ f.omissible := by
  induction h with
  | nil => cases hf
  | given _ _ ih =>
      rcases List.mem_cons.1 hf with rfl | hf
      · exact .inl List.mem_cons_self
      · exact (ih hf).imp_left (List.mem_cons_of_mem _)
  | missing homissible _ ih =>
      rcases List.mem_cons.1 hf with rfl | hf
      · exact .inr homissible
      · exact ih hf

/-- Fields that are given in their order are given, if no two of them have the same key. -/
theorem givesMembers (h : InOrder fields ms) (hkeys : (fields.map FieldForm.key).Nodup)
    (other : β → Prop) :
    GivesMembers fields other ms where
  once f _ :=
    Nat.le_trans (h.keys_sublist.count_le f.key) (List.nodup_iff_count_le_one.1 hkeys f.key)
  form m hm f hf heq := by
    obtain ⟨f', hf', hkey, hform⟩ := h.exists_field hm
    rwa [List.inj_on_of_nodup_map hkeys hf hf' (heq.trans hkey.symm)]
  other m hm hunknown := by
    obtain ⟨f, hf, hkey, -⟩ := h.exists_field hm
    exact absurd hkey (hunknown f hf)
  given f hf := h.given_or_omissible hf

end InOrder

/-! ## One field after the other -/

/-- Members that are still to come when the fields with some keys have been given. -/
structure Remaining (fields : List (FieldForm β)) (other : β → Prop) (keys : List String)
    (ms : List (String × β)) :
    Prop where
  /-- No field is given twice. -/
  once : ∀ f ∈ fields, (ms.map Prod.fst).count f.key ≤ 1
  /-- No field is given again. -/
  new : ∀ f ∈ fields, f.key ∈ keys → f.key ∉ ms.map Prod.fst
  /-- What is given for a field has a form of the field. -/
  form : ∀ m ∈ ms, ∀ f ∈ fields, f.key = m.1 → f.form m.2
  /-- What belongs to no field. -/
  other : ∀ m ∈ ms, (∀ f ∈ fields, f.key ≠ m.1) → other m.2

namespace Remaining

variable {fields : List (FieldForm β)} {other : β → Prop} {keys : List String} {m : String × β}
  {ms : List (String × β)}

theorem of_givesMembers (h : GivesMembers fields other ms) : Remaining fields other [] ms where
  once := h.once
  new _ _ hnil := absurd hnil List.not_mem_nil
  form := h.form
  other := h.other

theorem tail (h : Remaining fields other keys (m :: ms)) : Remaining fields other keys ms where
  once f hf := Nat.le_trans (List.count_le_count_cons ..) (h.once f hf)
  new f hf hin hms := h.new f hf hin (List.mem_cons_of_mem _ hms)
  form m' hm' := h.form m' (List.mem_cons_of_mem _ hm')
  other m' hm' := h.other m' (List.mem_cons_of_mem _ hm')

/-- A field that has been given does not come again. -/
theorem tail_given (h : Remaining fields other keys (m :: ms)) :
    Remaining fields other (m.1 :: keys) ms where
  once := h.tail.once
  new f hf hin := by
    rcases List.mem_cons.1 hin with heq | hin
    · have hcount := h.once f hf
      rw [List.map_cons, heq, List.count_cons_self] at hcount
      exact heq ▸ List.count_eq_zero.1 (by omega)
    · exact h.tail.new f hf hin
  form := h.tail.form
  other := h.tail.other

end Remaining

theorem mem_cons_or_of_mem {key key' : String} {keys rest : List String}
    (h : key ∈ keys ∨ key ∈ key' :: rest) :
    key ∈ key' :: keys ∨ key ∈ rest := by
  rcases h with h | h
  · exact .inl (List.mem_cons_of_mem _ h)
  · exact (List.mem_cons.1 h).imp_left fun heq => List.mem_cons.2 (.inl heq)

/-- A part of a draft that has the fields with some keys. -/
def given (keys : List String) (key : String) (a : α) : Option α :=
  if key ∈ keys then some a else none

theorem isSome_given {keys : List String} {key : String} {a : α} :
    (given keys key a).isSome = true ↔ key ∈ keys := by
  rw [given]
  split <;> simp_all

theorem given_of_mem {keys : List String} {key : String} {a : α} (h : key ∈ keys) :
    given keys key a = some a :=
  if_pos h

theorem getD_given {keys : List String} {key : String} {a default : α}
    (h : key ∈ keys ∨ a = default) : (given keys key a).getD default = a := by
  rw [given]
  split
  next => rfl
  next hnot => exact (h.resolve_left hnot).symm

/-! ## Fields and their forms -/

/-- What is in one of two lists that belong together has a partner in the other one. -/
theorem exists_partner {R : α → β → Prop} {as : List α} {bs : List β} (h : List.Forall₂ R as bs)
    {a : α} (ha : a ∈ as) : ∃ b ∈ bs, R a b := by
  induction h with
  | nil => cases ha
  | cons hab _ ih =>
      rcases List.mem_cons.1 ha with rfl | ha
      · exact ⟨_, List.mem_cons_self, hab⟩
      · obtain ⟨b, hb, hab⟩ := ih ha
        exact ⟨b, List.mem_cons_of_mem _ hb, hab⟩

/-- A key that no field has is no key of a form. -/
theorem forall_key_ne {R : α → FieldForm β → Prop} {fs : List α} {forms : List (FieldForm β)}
    (h : List.Forall₂ R fs forms) {keyOf : α → String}
    (hkey : ∀ {f form}, R f form → keyOf f = form.key) {key : String}
    (hfind : (fs.find? fun f => keyOf f == key) = none) : ∀ form ∈ forms, form.key ≠ key := by
  intro form hform heq
  obtain ⟨f, hf, hfit⟩ := exists_partner h.flip hform
  have hne := List.find?_eq_none.1 hfind f hf
  rw [hkey hfit, heq] at hne
  exact hne (beq_self_eq_true key)

end PathRouter.Json

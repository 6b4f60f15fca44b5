import PathRouter.Proofs.Json.Fields
import PathRouter.Proofs.Json.Reading

/-!
# Texts of records

`RecordText` says which texts a record with given fields has.  Reading such a text takes up the
fields one after the other.  A `view` says what the draft is when the fields with some keys have
been taken up: reading a field leads from the view of the keys before to that of one key more.  So
it does not matter in which order the fields come.

* `RecordText.denotes` — any text of a record is read as the view of all its fields;
* `DocumentText.readDocument_eq` — white space around the text of a document makes no difference.
-/

namespace PathRouter.Json

variable {α σ : Type}

/-- The texts of a record. -/
inductive RecordText (fields : List (FieldForm (List Char))) : List Char → Prop where
  /-- An object. -/
  | object {text : List Char} {ms : List (String × List Char)}
    (h : MembersText StringText Eq true text ms)
    (hms : GivesMembers fields AnyText ms) : RecordText fields ('\x7B' :: text)
  /-- An array. -/
  | array {text : List Char} {items : List (List Char)} (h : ItemsText Eq true text items)
    (hitems : GivesItems fields items) : RecordText fields ('[' :: text)

/-- A document has white space around its text. -/
inductive DocumentText (form : List Char → Prop) : String → Prop where
  /-- White space, the text, and white space. -/
  | mk {b text b' : List Char} (hb : allBlank b = true) (h : form text)
    (hb' : allBlank b' = true) :
    DocumentText form (String.ofList (b ++ (text ++ b')))

/-! ## Records -/

/-- A reader of a field takes up its forms. `view` is the draft that has the fields with some
keys. -/
structure Field.Fits (view : List String → σ) (levels : Nat) (f : Field σ)
    (form : FieldForm (List Char)) :
    Prop where
  /-- Both have the same key. -/
  key_eq : f.key = form.key
  /-- A field that may be missing has a default. -/
  hasDefault : form.omissible → f.hasDefault = true
  /-- The draft knows which fields it has. -/
  isSet_iff : ∀ keys, f.isSet (view keys) = true ↔ f.key ∈ keys
  /-- The field is read in any of its forms. -/
  denotes : ∀ keys {text}, form.form text →
    Denotes (f.read (view keys) none levels) text (view (f.key :: keys))

/-- A field fits if its reader takes up its texts and the draft keeps what was read. -/
theorem Field.fits_of {key : String} {form : List Char → Prop} {omissible : Prop}
    {hasDefault : Bool} {get : σ → Option α} {set : σ → α → σ} {read : Reader α}
    {view : List String → σ} {levels : Nat} {a : α}
    (hget : ∀ keys, get (view keys) = given keys key a)
    (hset : ∀ keys, set (view keys) a = view (key :: keys))
    (hread : ∀ {text}, form text → Denotes (read none levels) text a)
    (hdefault : omissible → hasDefault = true) :
    (Field.of key hasDefault get set read).Fits view levels { key, form, omissible } where
  key_eq := rfl
  hasDefault := hdefault
  isSet_iff keys := by
    show (get (view keys)).isSome = true ↔ key ∈ keys
    rw [hget, isSome_given]
  denotes keys {text} htext := by
    have hfield := (hread htext).field key hasDefault get set (view keys)
    rwa [hset] at hfield

namespace Layout

variable {l : Layout σ} {view : List String → σ} {levels : Nat}
    {forms : List (FieldForm (List Char))}

/-- Nothing is missing in a draft that has all fields but some that may be missing. -/
theorem missing?_eq_none (hfits : List.Forall₂ (Field.Fits view levels) l.fields forms)
    {keys : List String} (h : ∀ form ∈ forms, form.key ∈ keys ∨ form.omissible) :
    l.missing? (view keys) = none := by
  refine List.find?_eq_none.2 fun f hf => ?_
  obtain ⟨form, hform, hfit⟩ := exists_partner hfits hf
  rcases h form hform with hkey | homissible
  · have hset := (hfit.isSet_iff keys).2 (hfit.key_eq ▸ hkey)
    simp [hset]
  · simp [hfit.hasDefault homissible]

/-- The members of an object are taken up one by one. -/
theorem exists_fieldsText (hfits : List.Forall₂ (Field.Fits view levels) l.fields forms)
    {first : Bool} {text : List Char} {ms : List (String × List Char)}
    (h : MembersText StringText Eq first text ms) {keys : List String}
    (hms : Remaining forms AnyText keys ms) :
    ∃ keys', (∀ form ∈ forms, form.key ∈ keys ∨ form.key ∈ ms.map Prod.fst → form.key ∈ keys') ∧
      l.FieldsText levels first text (view keys) (view keys') := by
  -- on the text; the keys that have been given go along, so that no field comes a second time
  induction h generalizing keys with
  | close hb => exact ⟨keys, fun _ _ h => h.resolve_right List.not_mem_nil, .close hb⟩
  | @member first separator keyText colon text tail k content ms hseparator hkey hcolon htext
    htail ih =>
      subst htext
      have hhead : (k, text) ∈ (k, text) :: ms := List.mem_cons_self
      cases hfind : l.fields.find? fun f => f.key == k with
      | none =>
          have hunknown : ∀ form ∈ forms, form.key ≠ k :=
            forall_key_ne hfits Field.Fits.key_eq hfind
          obtain ⟨keys', hkeys', hfields⟩ := ih hms.tail
          refine ⟨keys', fun form hform h => hkeys' form hform ?_,
            .other hfind hseparator hkey.quotes hcolon
              (hms.other _ hhead hunknown).denotes hfields⟩
          exact h.imp_right (List.mem_of_ne_of_mem (hunknown form hform))
      | some f =>
          obtain rfl : f.key = k := by simpa using List.find?_some hfind
          obtain ⟨form, hform, hfit⟩ := exists_partner hfits (List.mem_of_find?_eq_some hfind)
          have hnew : f.key ∉ keys := fun hin =>
            hms.new form hform (hfit.key_eq ▸ hin) (hfit.key_eq ▸ List.mem_cons_self)
          have hset : f.isSet (view keys) = false :=
            Bool.eq_false_iff.2 (mt (hfit.isSet_iff keys).1 hnew)
          obtain ⟨keys', hkeys', hfields⟩ := ih hms.tail_given
          exact ⟨keys', fun form' hform' h => hkeys' form' hform' (mem_cons_or_of_mem h),
            .field hfind hset hseparator hkey.quotes hcolon
              (hfit.denotes keys (hms.form _ hhead form hform hfit.key_eq.symm)) hfields⟩

/-- The fields that an array does not give have defaults. -/
theorem readPositions_close {fs : List (Field σ)} (h : ∀ f ∈ fs, f.hasDefault = true) (index : Nat)
    (draft : σ) {b : List Char} (hb : allBlank b = true) (rest : List Char) :
    l.readPositions none levels fs index draft (b ++ ']' :: rest) = .ok (draft, rest) := by
  induction fs generalizing index b with
  | nil =>
      rw [readPositions, skipBlank_append_cons hb rfl]
      rfl
  | cons f fs ih =>
      rw [List.forall_mem_cons] at h
      rw [readPositions, nextItem_close _ hb]
      exact (if_pos h.1).trans (ih h.2 (index + 1) (b := []) rfl)

/-- The elements of an array are taken up one by one. -/
theorem exists_readPositions (l : Layout σ) {fs : List (Field σ)}
    {forms : List (FieldForm (List Char))} (hfits : List.Forall₂ (Field.Fits view levels) fs forms)
    (index : Nat) {text : List Char} {items : List (List Char)}
    (h : ItemsText Eq (index == 0) text items) (hitems : GivesItems forms items)
    (keys : List String) :
    ∃ keys', keys ⊆ keys' ∧ (∀ form ∈ forms, form.key ∈ keys' ∨ form.omissible) ∧
      ∀ rest, l.readPositions none levels fs index (view keys) (text ++ rest) =
        .ok (view keys', rest) := by
  -- on the fields that are given; the bracket closes early where the others are missing
  induction hitems generalizing fs text index keys with
  | nil homissible =>
      cases h with
      | close hb =>
          have hdefault : ∀ f ∈ fs, f.hasDefault = true := by
            intro f hf
            obtain ⟨form, hform, hfit⟩ := exists_partner hfits hf
            exact hfit.hasDefault (homissible form hform)
          refine ⟨keys, List.Subset.refl _, fun form hform => .inr (homissible form hform),
            fun rest => ?_⟩
          rw [List.append_assoc]
          exact readPositions_close hdefault index (view keys) hb rest
  | @cons form forms content contents hform _ ih =>
      cases hfits with
      | @cons f _ fs _ hfit hfits =>
          cases h with
          | @item _ separator _ tail _ _ hseparator htext htail =>
              subst htext
              have hread := hfit.denotes keys hform
              obtain ⟨keys', hsubset, hgiven, hrest⟩ := ih hfits (index + 1) htail (f.key :: keys)
              refine ⟨keys', fun k hk => hsubset (List.mem_cons_of_mem _ hk), ?_, fun rest => ?_⟩
              · exact List.forall_mem_cons.2
                  ⟨.inl (hfit.key_eq ▸ hsubset List.mem_cons_self), hgiven⟩
              · rw [readPositions, List.append_assoc, List.append_assoc,
                  nextItem_item hseparator (startsValue_append hread.starts _)]
                simp only [hread.read_append (htail.endsValue_append rest)]
                exact hrest rest

end Layout

/-- Any text of a record is read as the draft that has all its fields, but some that may be
missing. -/
theorem RecordText.denotes {l : Layout σ} {view : List String → σ} {levels : Nat}
    {forms : List (FieldForm (List Char))}
    (hfits : List.Forall₂ (Field.Fits view levels) l.fields forms) {text : List Char}
    (h : RecordText forms text) :
    ∃ keys, (∀ form ∈ forms, form.key ∈ keys ∨ form.omissible) ∧
      Denotes (l.read (view []) none (levels + 1)) text (view keys) := by
  cases h with
  | object h hms =>
      obtain ⟨keys, hkeys, hfields⟩ := Layout.exists_fieldsText hfits h (.of_givesMembers hms)
      have hgiven : ∀ form ∈ forms, form.key ∈ keys ∨ form.omissible := fun form hform =>
        (hms.given form hform).imp_left fun hkey => hkeys form hform (.inr hkey)
      exact ⟨keys, hgiven, Layout.denotes_read hfields (Layout.missing?_eq_none hfits hgiven)⟩
  | @array text _ h hitems =>
      obtain ⟨keys, -, hgiven, hread⟩ := l.exists_readPositions hfits 0 h hitems []
      refine ⟨keys, hgiven, rfl, fun {rest cs} hrest hcs => ?_⟩
      simp only [Layout.read, hcs, List.cons_append, if_true]
      exact hread rest

theorem RecordText.head?_ne {forms : List (FieldForm (List Char))} {text : List Char}
    (h : RecordText forms text) :
    text.head? ≠ some 'n' := by
  cases h <;> simp

/-! ## Lists, `null` and documents -/

theorem ItemsText.imp {item item' : List Char → α → Prop}
    (himp : ∀ {text a}, item text a → item' text a) {first : Bool} {text : List Char} {as : List α}
    (h : ItemsText item first text as) :
    ItemsText item' first text as := by
  induction h with
  | close hb => exact .close hb
  | item hseparator htext _ ih => exact .item hseparator (himp htext) ih

theorem ArrayText.denotes_readList {item : List Char → α → Prop} {read : Reader α} {levels : Nat}
    (hitem : ∀ {text a}, item text a → Denotes (read none levels) text a) {text : List Char}
    {as : List α} (h : ArrayText item text as) :
    Denotes (readList read none (levels + 1)) text as := by
  cases h with
  | mk h => exact Json.denotes_readList (h.imp hitem)

theorem denotes_readOptional_null (read : Reader α) (levels : Nat) :
    Denotes (readOptional read none levels) ['n', 'u', 'l', 'l'] none where
  starts := rfl
  read_eq _ hcs := by
    rw [readOptional, hcs]
    rfl

theorem endsValue_of_allBlank {b : List Char} (hb : allBlank b = true) : endsValue b = true := by
  cases b with
  | nil => rfl
  | cons c cs =>
      have hc : isBlank c = true := List.all_eq_true.1 hb c List.mem_cons_self
      simp [endsValue, hc]

theorem skipBlank_eq_nil {b : List Char} (hb : allBlank b = true) : skipBlank b = [] := by
  have hskip := skipBlank_append hb []
  rwa [List.append_nil] at hskip

theorem documentText_ofList {form : List Char → Prop} {text : List Char} (h : form text) :
    DocumentText form (String.ofList text) := by
  have hdoc : DocumentText form (String.ofList ([] ++ (text ++ []))) := .mk rfl h rfl
  rwa [List.nil_append, List.append_nil] at hdoc

/-- A document is read as what its text is read as. -/
theorem DocumentText.readDocument_eq {form : List Char → Prop} {doc : String}
    (h : DocumentText form doc) {read : Reader α} {a : α}
    (hread : ∀ {text}, form text → Denotes (read none maxLevels) text a) :
    readDocument read doc = .ok a := by
  cases h with
  | @mk b text b' hb htext hb' =>
      have hdenotes := hread htext
      have hskip : skipBlank (b ++ (text ++ b')) = text ++ b' := by
        rw [skipBlank_append hb, skipBlank_of_startsValue hdenotes.starts]
      have heq := hdenotes.read_eq (endsValue_of_allBlank hb') hskip
      rw [readDocument, String.toList_ofList, readWhole, heq]
      simp only [skipBlank_eq_nil hb', List.isEmpty_nil, if_true]

end PathRouter.Json

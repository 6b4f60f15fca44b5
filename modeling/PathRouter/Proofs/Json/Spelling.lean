import PathRouter.Proofs.Json.Forms
import PathRouter.Proofs.Json.Objects

/-!
# Texts of the values of a record

A record that is read from a text holds the same as a record that is decoded from a value, if the
text spells the value: the members of the object, in whatever order they are written, give the
fields, and so do the elements of the array.  Reading needs as many levels as the value is deep.

* `RecordValue.recordText` — the texts of a value of a record are texts of the record;
* `RecordValue.denotes_checked` — they are read as what the fields come to;
* `ValueText.denotes_readList` — the elements of a list.
-/

namespace PathRouter.Json

variable {α β σ : Type}

/-! ## All texts of values can be skipped -/

theorem numberText_ofInt (n : Int) : NumberText (Decimal.ofInt n) := by
  have hwhole : WholeText (Nat.toDigits 10 n.natAbs) := by
    rcases Nat.eq_zero_or_pos n.natAbs with hzero | hpos
    · rw [hzero]
      exact .zero
    · obtain ⟨c, cs, hdigits, -⟩ := toDigits_eq_cons n.natAbs
      have hhead := head_toDigits_ne hpos
      have hall : (Nat.toDigits 10 n.natAbs).all Char.isDigit = true :=
        List.all_eq_true.2 fun _ => isDigit_of_mem_toDigits
      rw [hdigits] at hhead hall ⊢
      exact .digits (fun heq => hhead (congrArg some heq)) (areDigits_iff.2 ⟨rfl, hall⟩)
  have htext : ∀ sign ∈ [[], ['-']], NumberText (sign ++ Nat.toDigits 10 n.natAbs) := by
    intro sign hsign
    simpa using NumberText.mk hsign hwhole .missing .missing
  unfold Decimal.ofInt
  split
  · exact htext ['-'] (by simp)
  · exact htext [] (by simp)

theorem CharText.any_append {text tail : List Char} {c : Char} (h : CharText text c)
    (htail : AnyCharsText tail) : AnyCharsText (text ++ tail) := by
  cases h with
  | plain hc => exact .plain hc htail
  | short h => exact .short h htail
  | code h => exact .code h htail
  | pair hlead _ htrail _ _ =>
      rw [List.append_assoc]
      exact .code hlead (.code htrail htail)

theorem CharsText.any {text cs : List Char} (h : CharsText text cs) : AnyCharsText text := by
  induction h with
  | nil => exact .nil
  | cons hc _ ih => exact hc.any_append ih

theorem StringText.any {text : List Char} {s : String} (h : StringText text s) :
    AnyStringText text := by
  cases h with
  | mk h => exact .mk h.any

mutual

theorem ValueText.any : ∀ {text : List Char} {v : Json}, ValueText text v → AnyText text
  | _, _, .null => AnyText.word (show "null" ∈ ["null", "true", "false"] by decide)
  | _, _, .bool_true => AnyText.word (show "true" ∈ ["null", "true", "false"] by decide)
  | _, _, .bool_false => AnyText.word (show "false" ∈ ["null", "true", "false"] by decide)
  | _, _, .int n => .number (numberText_ofInt n)
  | _, _, .str h => .string h.any
  | _, _, .arr h => .array h.any
  | _, _, .obj h _ => .object h.any

theorem ItemsText.any :
    ∀ {first : Bool} {text : List Char} {vs : List Json}, ItemsText ValueText first text vs →
    ItemsText (fun text _ => AnyText text) first text (vs.map fun _ => ())
  | _, _, _, .close hb => .close hb
  | _, _, _, .item hseparator hv hvs => .item hseparator hv.any hvs.any

theorem MembersText.any : ∀ {first : Bool} {text : List Char} {ms : List (String × Json)},
    MembersText StringText ValueText first text ms →
      MembersText (fun text _ => AnyStringText text) (fun text _ => AnyText text) first text
        (ms.map fun m => (m.1, ()))
  | _, _, _, .close hb => .close hb
  | _, _, _, .member hseparator hkey hcolon hv hms =>
      .member hseparator hkey.any hcolon hv.any hms.any

end

/-! ## Texts of parts -/

theorem ItemsText.exists_texts {item : List Char → α → Prop} {first : Bool} {text : List Char}
    {as : List α} (h : ItemsText item first text as) :
    ∃ texts, ItemsText Eq first text texts ∧ List.Forall₂ item texts as := by
  induction h with
  | close hb => exact ⟨[], .close hb, .nil⟩
  | item hseparator htext _ ih =>
      obtain ⟨texts, hitems, htexts⟩ := ih
      exact ⟨_, .item hseparator rfl hitems, .cons htext htexts⟩

theorem MembersText.exists_texts {value : List Char → α → Prop} {first : Bool} {text : List Char}
    {ms : List (String × α)} (h : MembersText StringText value first text ms) :
    ∃ texts, MembersText StringText Eq first text texts ∧
      List.Forall₂ (fun t m => t.1 = m.1 ∧ value t.2 m.2) texts ms := by
  induction h with
  | close hb => exact ⟨[], .close hb, .nil⟩
  | @member _ _ _ _ text _ k _ _ hseparator hkey hcolon htext _ ih =>
      obtain ⟨texts, hmembers, htexts⟩ := ih
      exact ⟨(k, text) :: texts, .member hseparator hkey hcolon rfl hmembers,
        .cons ⟨rfl, htext⟩ htexts⟩

variable {levels : Nat}

/-- Elements are told by the texts of their values. -/
theorem ItemsText.pairwise {item : List Char → α → Prop} {first : Bool} {text : List Char}
    {vs : List Json} {as : List α} (h : ItemsText ValueText first text vs)
    (hitems : List.Forall₂ (fun a v => ∀ {text}, ValueText text v → depth v ≤ levels →
      item text a) as vs) (hdepth : depthItems vs ≤ levels) : ItemsText item first text as := by
  induction h generalizing as with
  | close hb =>
      cases hitems
      exact .close hb
  | item hseparator htext _ ih =>
      rw [depthItems, Nat.max_le] at hdepth
      cases hitems with
      | cons ha has => exact .item hseparator (ha htext hdepth.1) (ih has hdepth.2)

/-- A list is read if its elements are, from the texts of their values and with a level less. -/
theorem ValueText.denotes_readList {read : Reader α} {vs : List Json} {as : List α}
    {text : List Char} (htext : ValueText text (Json.arr vs))
    (hdepth : depth (Json.arr vs) ≤ levels)
    (hitems : ∀ {inner}, levels = inner + 1 → List.Forall₂ (fun a v => ∀ {text}, ValueText text v →
      depth v ≤ inner → Denotes (read none inner) text a) as vs) :
    Denotes (readList read none levels) text as := by
  obtain ⟨inner, rfl⟩ : ∃ inner, levels = inner + 1 :=
    Nat.exists_eq_add_one.2 (Nat.lt_of_lt_of_le (Nat.succ_pos _) hdepth)
  cases htext with
  | arr h => exact Json.denotes_readList (h.pairwise (hitems rfl) (Nat.le_of_succ_le_succ hdepth))

theorem ValueText.denotes_string {v : Json} {text : List Char} {s : String}
    (htext : ValueText text v) (h : v = .str s) : Denotes (readString none levels) text s := by
  subst h
  cases htext with
  | str htext => exact htext.quotes.denotes_readString levels

/-! ## Texts of records -/

/-- How a field may be written, if its values are given. They are not nested deeper than some
levels. -/
def FieldForm.spelled (levels : Nat) (f : FieldForm Json) : FieldForm (List Char) where
  key := f.key
  form text := ∃ v, f.form v ∧ ValueText text v ∧ depth v ≤ levels
  omissible := f.omissible

variable {forms : List (FieldForm Json)}

/-- Members that give the fields of a record, and the texts of these members. -/
theorem GivesMembers.spelled {ms : List (String × Json)} {texts : List (String × List Char)}
    (h : GivesMembers forms (fun _ => True) ms)
    (htexts : List.Forall₂ (fun t m => t.1 = m.1 ∧ ValueText t.2 m.2) texts ms)
    (hdepth : ∀ m ∈ ms, depth m.2 ≤ levels) :
    GivesMembers (forms.map (·.spelled levels)) AnyText texts := by
  have hkeys : texts.map Prod.fst = ms.map Prod.fst := by
    rw [← List.forall₂_eq_eq_eq, List.forall₂_map_left_iff, List.forall₂_map_right_iff]
    exact htexts.imp fun _ _ ht => ht.1
  refine ⟨?_, fun t ht => ?_, fun t ht => ?_, ?_⟩
  · rw [List.forall_mem_map, hkeys]
    exact h.once
  · obtain ⟨m, hm, hkey, htext⟩ := exists_partner htexts ht
    rw [List.forall_mem_map]
    exact fun f hf heq => ⟨m.2, h.form m hm f hf (heq.trans hkey), htext, hdepth m hm⟩
  · obtain ⟨m, -, -, htext⟩ := exists_partner htexts ht
    exact fun _ => htext.any
  · rw [List.forall_mem_map, hkeys]
    exact h.given

theorem GivesItems.spelled {vs : List Json} {texts : List (List Char)} (h : GivesItems forms vs)
    (htexts : List.Forall₂ ValueText texts vs) (hdepth : ∀ v ∈ vs, depth v ≤ levels) :
    GivesItems (forms.map (·.spelled levels)) texts := by
  induction h generalizing texts with
  | nil h =>
      cases htexts
      exact .nil (List.forall_mem_map.2 h)
  | @cons f _ v _ hv _ ih =>
      rw [List.forall_mem_cons] at hdepth
      cases htexts with
      | cons htext htexts =>
          exact .cons (f := f.spelled levels) ⟨v, hv, htext, hdepth.1⟩ (ih htexts hdepth.2)

/-- The texts of a value of a record are texts of the record. -/
theorem RecordValue.recordText {v : Json} {text : List Char} (h : RecordValue forms v)
    (htext : ValueText text v) (hdepth : depth v ≤ levels + 1) :
    RecordText (forms.map (·.spelled levels)) text := by
  cases h with
  | object hms =>
      cases htext with
      | obj hmembers horder =>
          obtain ⟨texts, htexts, hspelled⟩ := hmembers.exists_texts
          have hdepth' := depthMembers_le_iff.1 (Nat.le_of_succ_le_succ hdepth)
          exact .object htexts ((hms.perm horder.symm).spelled hspelled fun m hm =>
            hdepth' m (horder.mem_iff.1 hm))
  | array hitems =>
      cases htext with
      | arr htexts =>
          obtain ⟨texts, htexts, hspelled⟩ := htexts.exists_texts
          exact .array htexts
            (hitems.spelled hspelled (depthItems_le_iff.1 (Nat.le_of_succ_le_succ hdepth)))

/-- A field fits the texts of its values. -/
theorem Field.fits_spelled {key : String} {form : Json → Prop} {omissible : Prop}
    {hasDefault : Bool} {get : σ → Option α} {set : σ → α → σ} {read : Reader α}
    {view : List String → σ} {a : α} (hget : ∀ keys, get (view keys) = given keys key a)
    (hset : ∀ keys, set (view keys) a = view (key :: keys))
    (hread : ∀ {v text}, form v → ValueText text v → depth v ≤ levels →
      Denotes (read none levels) text a) (hdefault : omissible → hasDefault = true) :
    (Field.of key hasDefault get set read).Fits view levels
      (FieldForm.spelled levels { key, form, omissible }) :=
  Field.fits_of hget hset (fun ⟨_, hv, htext, hdepth⟩ => hread hv htext hdepth) hdefault

/-- Any text of a value of a record is read as what all the fields come to. -/
theorem RecordValue.denotes_checked {l : Layout σ} (view : List String → σ)
    (hfits : ∀ {inner}, levels = inner + 1 →
      List.Forall₂ (Field.Fits view inner) l.fields (forms.map (·.spelled inner)))
    {v : Json} {text : List Char} (h : RecordValue forms v) (htext : ValueText text v)
    (hdepth : depth v ≤ levels) {blank : σ} {check : σ → Except DecodeError β} {b : β}
    (hblank : view [] = blank)
    (hfull : ∀ keys, (∀ form ∈ forms, form.key ∈ keys ∨ form.omissible) →
      check (view keys) = .ok b) :
    Denotes (readChecked (l.read blank) check none levels) text b := by
  obtain ⟨inner, rfl⟩ : ∃ inner, levels = inner + 1 :=
    Nat.exists_eq_add_one.2 (Nat.lt_of_lt_of_le h.depth_pos hdepth)
  obtain ⟨keys, hkeys, hread⟩ := (h.recordText htext hdepth).denotes (hfits rfl)
  rw [hblank] at hread
  exact hread.checked (hfull keys (List.forall_mem_map.1 hkeys))

end PathRouter.Json

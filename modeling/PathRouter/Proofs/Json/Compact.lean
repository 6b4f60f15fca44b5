import PathRouter.Proofs.Json.Forms

/-!
# Compact texts are in the grammar

What is written for a value is one of its texts, without any white space and with as few escapes as
there can be.

* `valueText_writeCompact` — values without numbers in double precision;
* `arrayText_writeCompact`, `membersText_writeCompact` — lists and objects, by the texts of their
  parts.
-/

namespace PathRouter.Json

variable {α : Type}

/-! ## Strings -/

theorem hexDigit_small : ∀ n < 16, HexDigit (hexDigit n) n := fun _ => .lower

/-- A character is escaped in one of its written forms. -/
theorem charText_escape (c : Char) : CharText (escape c) c := by
  have hshort {letter c : Char} (h : (letter, c) ∈ shortForms) :
      CharText ['\\', letter] c := .short h
  unfold escape
  split
  -- no short form: the code of a control character, or the character itself
  case h_8 hquote hbackslash _ _ _ _ _ =>
    by_cases hcontrol : c.toNat < 32
    · have hdigits :
          CodeText ['0', '0', hexDigit (c.toNat / 16), hexDigit (c.toNat % 16)] c.toNat := by
        have hcode := CodeText.mk (hexDigit_small 0 (by omega)) (hexDigit_small 0 (by omega))
          (hexDigit_small (c.toNat / 16) (by omega)) (hexDigit_small (c.toNat % 16) (by omega))
        have hvalue : 16 * (16 * (16 * 0 + 0) + c.toNat / 16) + c.toNat % 16 = c.toNat := by omega
        rwa [hvalue] at hcode
      rw [if_pos hcontrol]
      exact .code hdigits
    · rw [if_neg hcontrol]
      exact .plain (isPlain_iff.2 ⟨hquote, hbackslash, hcontrol⟩)
  all_goals exact hshort (by decide)

theorem charsText_flatMap_escape (cs : List Char) : CharsText (cs.flatMap escape) cs := by
  induction cs with
  | nil => exact .nil
  | cons c cs ih => exact .cons (charText_escape c) ih

theorem stringText_writeString (s : String) : StringText (writeString s) s :=
  .mk (charsText_flatMap_escape s.toList)

/-! ## Arrays and objects -/

theorem separates_comma : Separates false [','] :=
  .next (b := []) rfl rfl

theorem separates_nothing : Separates true [] :=
  .first rfl

theorem isColon_compact : IsColon [':'] :=
  .mk (b := []) rfl rfl

/-- The elements after the first. -/
theorem itemsText_writeCompactItems {item : List Char → α → Prop} {vs : List Json} {as : List α}
    (h : List.Forall₂ (fun v a => item (writeCompact v) a) vs as) :
    ItemsText item false (writeCompactItems vs) as := by
  induction h with
  | nil => exact .close (b := []) rfl
  | cons hhead _ ih => exact .item separates_comma hhead ih

theorem arrayText_writeCompact {item : List Char → α → Prop} {vs : List Json} {as : List α}
    (h : List.Forall₂ (fun v a => item (writeCompact v) a) vs as) :
    ArrayText item (writeCompact (arr vs)) as := by
  cases h with
  | nil => exact .mk (.close (b := []) rfl)
  | cons hhead htail =>
      exact .mk (.item separates_nothing hhead (itemsText_writeCompactItems htail))

theorem arrayText_strings (l : List String) :
    ArrayText StringText (writeCompact (strings l)) l := by
  refine arrayText_writeCompact ?_
  rw [List.forall₂_map_left_iff]
  exact List.forall₂_same.2 fun s _ => stringText_writeString s

/-- The members after the first. -/
theorem membersText_writeCompactMembers {value : List Char → α → Prop} {f : Json → α}
    {ms : List (String × Json)} (h : ∀ m ∈ ms, value (writeCompact m.2) (f m.2)) :
    MembersText StringText value false (writeCompactMembers ms)
      (ms.map fun m => (m.1, f m.2)) := by
  induction ms with
  | nil => exact .close (b := []) rfl
  | cons m ms ih =>
      rw [List.forall_mem_cons] at h
      have hmember :=
        MembersText.member separates_comma (stringText_writeString m.1) isColon_compact
          h.1 (ih h.2)
      simpa [writeCompactMembers] using hmember

theorem membersText_writeCompact {value : List Char → α → Prop} {f : Json → α}
    {ms : List (String × Json)} (h : ∀ m ∈ ms, value (writeCompact m.2) (f m.2)) :
    ∃ text, writeCompact (obj ms) = '\x7B' :: text ∧
      MembersText StringText value true text (ms.map fun m => (m.1, f m.2)) := by
  cases ms with
  | nil => exact ⟨_, rfl, .close (b := []) rfl⟩
  | cons m ms =>
      rw [List.forall_mem_cons] at h
      have hmember :=
        MembersText.member separates_nothing (stringText_writeString m.1) isColon_compact h.1
        (membersText_writeCompactMembers h.2)
      exact ⟨_, by simp [writeCompact], hmember⟩

theorem valueText_writeCompact_arr {vs : List Json} (h : ∀ v ∈ vs, ValueText (writeCompact v) v) :
    ValueText (writeCompact (arr vs)) (arr vs) := by
  have hitems : ArrayText ValueText (writeCompact (arr vs)) vs :=
    arrayText_writeCompact (List.forall₂_same.2 h)
  generalize writeCompact (arr vs) = text at hitems ⊢
  cases hitems with
  | mk hitems => exact .arr hitems

/-- An object may be written with its members in another order. -/
theorem valueText_writeCompact_obj {ms members : List (String × Json)}
    (h : ∀ m ∈ ms, ValueText (writeCompact m.2) m.2) (horder : ms.Perm members) :
    ValueText (writeCompact (obj ms)) (obj members) := by
  obtain ⟨text, htext, hmembers⟩ : ∃ text, writeCompact (obj ms) = '\x7B' :: text ∧
      MembersText StringText ValueText true text (ms.map fun m => (m.1, id m.2)) :=
    membersText_writeCompact h
  rw [htext]
  exact .obj hmembers (by simpa using horder)

mutual

/-- A value that a text can hold is written as one of its texts. -/
theorem valueText_writeCompact : ∀ {v : Json}, isExact v = true → ValueText (writeCompact v) v
  | null, _ => .null
  | bool true, _ => .bool_true
  | bool false, _ => .bool_false
  | int n, _ => .int n
  | float _, h => by cases h
  | str s, _ => .str (stringText_writeString s)
  | arr _, h => valueText_writeCompact_arr (valueTexts_writeCompact h)
  | obj members, h => by
      simp only [isExact, Bool.and_eq_true] at h
      exact valueText_writeCompact_obj (memberTexts_writeCompact h.2) (List.Perm.refl _)

theorem valueTexts_writeCompact : ∀ {vs : List Json}, areExact vs = true →
    ∀ v ∈ vs, ValueText (writeCompact v) v
  | [], _, _, hv => absurd hv List.not_mem_nil
  | v :: vs, h, w, hw => by
      simp only [areExact, Bool.and_eq_true] at h
      rcases List.mem_cons.1 hw with heq | hw
      · exact heq ▸ valueText_writeCompact h.1
      · exact valueTexts_writeCompact h.2 w hw

theorem memberTexts_writeCompact : ∀ {ms : List (String × Json)}, areExactMembers ms = true →
    ∀ m ∈ ms, ValueText (writeCompact m.2) m.2
  | [], _, _, hm => absurd hm List.not_mem_nil
  | (k, v) :: ms, h, m, hm => by
      simp only [areExactMembers, Bool.and_eq_true] at h
      rcases List.mem_cons.1 hm with heq | hm
      · exact heq ▸ valueText_writeCompact h.1
      · exact memberTexts_writeCompact h.2 m hm

end

end PathRouter.Json

import PathRouter.Json.Record
import PathRouter.Proofs.Json.Grammar
import PathRouter.Proofs.Json.Scalars

/-!
# Texts read back

`Denotes read text a` says that a reader takes a text for a value, with any white space in front of
it and anything behind it that may follow a value.  Texts with this property are put together into
texts of arrays, objects and records with this property, with any white space between the parts.

* `Json.denotes_readList`, `Json.Layout.denotes_read` — arrays that are read as lists, objects that
  are read as records;
* `Json.denotes_readValue_arr`, `Json.denotes_readValue_obj` — arrays and objects that are read as
  values.
-/

namespace PathRouter.Json

variable {α β σ : Type}

/-! ## White space -/

/-- Whether a text starts like a value. -/
def startsValue : List Char → Bool
  | [] => false
  | c :: _ => !isBlank c && c != ']'

theorem skipBlank_append {b : List Char} (hb : allBlank b = true) (cs : List Char) :
    skipBlank (b ++ cs) = skipBlank cs :=
  List.dropWhile_append_of_pos (List.all_eq_true.1 hb)

theorem skipBlank_append_cons {b : List Char} (hb : allBlank b = true) {c : Char}
    (hc : isBlank c = false) (cs : List Char) : skipBlank (b ++ c :: cs) = c :: cs := by
  rw [skipBlank_append hb, skipBlank, List.dropWhile_cons_of_neg (by simp [hc])]

theorem exists_cons_of_startsValue {text : List Char} (h : startsValue text = true) :
    ∃ c cs, text = c :: cs ∧ isBlank c = false ∧ c ≠ ']' := by
  cases text with
  | nil => cases h
  | cons c cs =>
      simp only [startsValue, Bool.and_eq_true, Bool.not_eq_true', bne_iff_ne, ne_eq] at h
      exact ⟨c, cs, rfl, h⟩

theorem startsValue_append {text : List Char} (h : startsValue text = true) (rest : List Char) :
    startsValue (text ++ rest) = true := by
  obtain ⟨c, cs, rfl, -⟩ := exists_cons_of_startsValue h
  exact h

theorem skipBlank_of_startsValue {text : List Char} (h : startsValue text = true)
    (rest : List Char) :
    skipBlank (text ++ rest) = text ++ rest := by
  obtain ⟨c, cs, rfl, hc, -⟩ := exists_cons_of_startsValue h
  exact skipBlank_append_cons (b := []) rfl hc _

theorem allBlank_newLine (level : Nat) : allBlank (newLine level) = true := by
  simp [allBlank, newLine, isBlank]

theorem length_lt_append (text rest : List Char) : text.length < (text ++ rest).length + 1 := by
  rw [List.length_append]
  omega

theorem endsValue_append_cons {b : List Char} (hb : allBlank b = true) {c : Char} {cs : List Char}
    (hc : endsValue (c :: cs) = true) : endsValue (b ++ c :: cs) = true := by
  cases b with
  | nil => exact hc
  | cons d b =>
      have hd : isBlank d = true := List.all_eq_true.1 hb d List.mem_cons_self
      simp [endsValue, hd]

/-- What stands between two values may follow the first one. -/
theorem Separates.endsValue {separator : List Char} (h : Separates false separator)
    (cs : List Char) :
    endsValue (separator ++ cs) = true := by
  cases h with
  | next hb hb' =>
      rw [List.append_assoc]
      exact endsValue_append_cons hb rfl

/-! ## Texts of values -/

/-- A reader takes a text for a value, whatever white space is in front of it and whatever comes
behind it that may follow a value. -/
structure Denotes (read : List Char → Parsed α) (text : List Char) (a : α) : Prop where
  /-- The text starts like a value. -/
  starts : startsValue text = true
  /-- The text is read as the value, and no more is read. -/
  read_eq : ∀ {rest cs : List Char}, endsValue rest = true → skipBlank cs = text ++ rest →
    read cs = .ok (a, rest)

theorem Denotes.read_append {read : List Char → Parsed α} {text : List Char} {a : α}
    (h : Denotes read text a) {rest : List Char} (hrest : endsValue rest = true) :
    read (text ++ rest) = .ok (a, rest) :=
  h.read_eq hrest (skipBlank_of_startsValue h.starts rest)

/-! ## Arrays -/

theorem nextItem_close (first : Bool) {b : List Char} (hb : allBlank b = true) (rest : List Char) :
    nextItem first (b ++ ']' :: rest) = .ok (false, ']' :: rest) := by
  rw [nextItem, skipBlank_append_cons hb rfl]
  rfl

theorem nextItem_item {first : Bool} {separator text : List Char}
    (hseparator : Separates first separator) (htext : startsValue text = true) :
    nextItem first (separator ++ text) = .ok (true, text) := by
  obtain ⟨c, cs, rfl, hblank, hbracket⟩ := exists_cons_of_startsValue htext
  cases hseparator with
  | first hb =>
      rw [nextItem, skipBlank_append_cons hb hblank]
      exact if_neg hbracket
  | next hb hb' =>
      rw [nextItem, List.append_assoc, List.cons_append, skipBlank_append_cons hb rfl]
      show (match skipBlank _ with | [] => _ | c :: cs => _) = _
      rw [skipBlank_append_cons hb' hblank]
      exact if_neg hbracket

namespace ItemsText

variable {item : List Char → α → Prop} {first : Bool} {text : List Char} {as : List α}

/-- What comes after an element may follow a value. -/
theorem endsValue_append (h : ItemsText item false text as) (rest : List Char) :
    endsValue (text ++ rest) = true := by
  cases h with
  | close hb =>
      rw [List.append_assoc]
      exact endsValue_append_cons hb rfl
  | item hseparator =>
      rw [List.append_assoc]
      exact hseparator.endsValue _

/-- Fuel for every character of the text is enough, since every element takes some space. -/
theorem readItems_eq {read : List Char → Parsed α} (h : ItemsText (Denotes read) first text as)
    {fuel : Nat} (hfuel : text.length < fuel) (rest : List Char) :
    readItems read fuel first (text ++ rest) = .ok (as, rest) := by
  induction h generalizing fuel with
  | close hb =>
      cases fuel with
      | zero => exact absurd hfuel (Nat.not_lt_zero _)
      | succ fuel =>
          rw [readItems, List.append_assoc, List.singleton_append, nextItem_close _ hb]
          rfl
  | @item first separator text tail a as hseparator htext htail ih =>
      cases fuel with
      | zero => exact absurd hfuel (Nat.not_lt_zero _)
      | succ fuel =>
          obtain ⟨c, cs, rfl, -⟩ := exists_cons_of_startsValue htext.starts
          have htailFuel : tail.length < fuel := by
            simp only [List.length_append, List.length_cons] at hfuel
            omega
          have hstarts : startsValue (c :: cs ++ (tail ++ rest)) = true := htext.starts
          rw [readItems, List.append_assoc, List.append_assoc, nextItem_item hseparator hstarts]
          simp only [htext.read_append (htail.endsValue_append rest), ih htailFuel]
          rfl

end ItemsText

/-- The text of an array is read as the list of what its elements are read as. -/
theorem denotes_readList {read : Reader α} {levels : Nat} {text : List Char} {as : List α}
    (h : ItemsText (Denotes (read none levels)) true text as) :
    Denotes (readList read none (levels + 1)) ('[' :: text) as where
  starts := rfl
  read_eq hrest hcs := by
    simp only [readList, hcs, List.cons_append, if_true]
    exact h.readItems_eq (length_lt_append _ _) _

/-- The text of an array is read as the array of what its elements are read as. -/
theorem denotes_readValue_arr {levels : Nat} {text : List Char} {vs : List Json}
    (h : ItemsText (Denotes (readValue none levels)) true text vs) :
    Denotes (readValue none (levels + 1)) ('[' :: text) (arr vs) where
  starts := rfl
  read_eq hrest hcs := by
    unfold readValue
    simp only [hcs, List.cons_append, if_true, h.readItems_eq (length_lt_append _ _)]
    rfl

/-! ## Objects -/

theorem nextKey_close (text : List Char → Parsed String) (first : Bool) {b : List Char}
    (hb : allBlank b = true) (rest : List Char) :
    nextKey text first (b ++ '\x7D' :: rest) = .ok (none, rest) := by
  rw [nextKey, skipBlank_append_cons hb rfl]
  rfl

/-- A reader of strings takes a text in quotation marks for a string. -/
def Quotes (read : List Char → Parsed String) (text : List Char) (s : String) : Prop :=
  ∃ body, text = '"' :: body ∧ ∀ rest, read (body ++ rest) = .ok (s, rest)

theorem quotes_writeString (s : String) : Quotes (readText none) (writeString s) s := by
  refine ⟨s.toList.flatMap escape ++ ['"'], rfl, fun rest => ?_⟩
  rw [List.append_assoc]
  exact readText_escape s rest

theorem Quotes.readKey_eq {read : List Char → Parsed String} {text : List Char} {key : String}
    (h : Quotes read text key) (rest : List Char) :
    readKey read (text ++ rest) = .ok (some key, rest) := by
  obtain ⟨body, rfl, hread⟩ := h
  simp only [List.cons_append, readKey, if_true, hread]
  rfl

theorem nextKey_key {read : List Char → Parsed String} {first : Bool} {separator text : List Char}
    {key : String} (hseparator : Separates first separator) (hkey : Quotes read text key)
    (rest : List Char) :
    nextKey read first (separator ++ (text ++ rest)) = .ok (some key, rest) := by
  have hread := hkey.readKey_eq rest
  obtain ⟨body, rfl, -⟩ := hkey
  cases hseparator with
  | first hb =>
      rw [nextKey, List.cons_append, skipBlank_append_cons hb rfl]
      exact hread
  | next hb hb' =>
      rw [nextKey, List.append_assoc, List.cons_append, skipBlank_append_cons hb rfl]
      show readKey _ (skipBlank _) = _
      rw [List.cons_append, skipBlank_append_cons hb' rfl]
      exact hread

theorem readColon_eq {colon text : List Char} (hcolon : IsColon colon)
    (htext : startsValue text = true) (rest : List Char) :
    ∃ cs, readColon (colon ++ (text ++ rest)) = .ok cs ∧ skipBlank cs = text ++ rest := by
  cases hcolon with
  | @mk b b' hb hb' =>
      refine ⟨b' ++ (text ++ rest), ?_, ?_⟩
      · rw [readColon, List.append_assoc, List.cons_append, skipBlank_append_cons hb rfl]
        rfl
      · rw [skipBlank_append hb', skipBlank_of_startsValue htext]

/-- A member takes some space, so fuel for it and for what comes after it is more than the latter
needs. -/
theorem length_tail_lt {separator key colon text tail : List Char} (hcolon : IsColon colon)
    {fuel : Nat} (h : (separator ++ (key ++ (colon ++ (text ++ tail)))).length < fuel + 1) :
    tail.length < fuel := by
  cases hcolon with
  | mk =>
      simp only [List.length_append, List.length_cons] at h
      omega

namespace MembersText

variable {key : List Char → String → Prop} {value : List Char → α → Prop} {first : Bool}
    {text : List Char}
  {ms : List (String × α)}

theorem endsValue_append (h : MembersText key value false text ms) (rest : List Char) :
    endsValue (text ++ rest) = true := by
  cases h with
  | close hb =>
      rw [List.append_assoc]
      exact endsValue_append_cons hb rfl
  | member hseparator =>
      rw [List.append_assoc]
      exact hseparator.endsValue _

theorem readMembers_eq {readName : List Char → Parsed String} {read : List Char → Parsed α}
    (h : MembersText (Quotes readName) (Denotes read) first text ms) {fuel : Nat}
    (hfuel : text.length < fuel) (rest : List Char) :
    readMembers readName read fuel first (text ++ rest) = .ok (ms, rest) := by
  induction h generalizing fuel with
  | close hb =>
      cases fuel with
      | zero => exact absurd hfuel (Nat.not_lt_zero _)
      | succ fuel =>
          rw [readMembers, List.append_assoc, List.singleton_append, nextKey_close _ _ hb]
  | @member first separator keyText colon text tail key a ms hseparator hkey hcolon htext
    htail ih =>
      cases fuel with
      | zero => exact absurd hfuel (Nat.not_lt_zero _)
      | succ fuel =>
          obtain ⟨cs, hcs, hskip⟩ := readColon_eq hcolon htext.starts (tail ++ rest)
          have hread := htext.read_eq (htail.endsValue_append rest) hskip
          have htailFuel := length_tail_lt hcolon hfuel
          simp only [readMembers, List.append_assoc, nextKey_key hseparator hkey, hcs, hread,
            ih htailFuel]
          rfl

end MembersText

/-- The text of an object is read as the object of what its members are read as. -/
theorem denotes_readValue_obj {levels : Nat} {text : List Char} {ms : List (String × Json)}
    (h : MembersText (Quotes (readText none)) (Denotes (readValue none levels)) true text ms) :
    Denotes (readValue none (levels + 1)) ('\x7B' :: text) (ofMembers ms) where
  starts := rfl
  read_eq hrest hcs := by
    unfold readValue
    simp only [hcs, List.cons_append, if_true, h.readMembers_eq (length_lt_append _ _)]
    rfl

/-! ## Records -/

namespace Layout

variable {l : Layout σ} {levels : Nat}

/-- The fields of a record that are still to come and its closing brace, with the drafts before and
after them. -/
inductive FieldsText (l : Layout σ) (levels : Nat) : Bool → List Char → σ → σ → Prop where
  /-- There are no more fields. -/
  | close {first : Bool} {b : List Char} {draft : σ} (hb : allBlank b = true) :
    FieldsText l levels first (b ++ ['\x7D']) draft draft
  /-- A field comes next, which the draft does not have yet. -/
  | field {first : Bool} {separator keyText colon text tail : List Char} {key : String}
    {f : Field σ}
    {draft draft' draft'' : σ} (hfind : (l.fields.find? fun f => f.key == key) = some f)
    (hset : f.isSet draft = false) (hseparator : Separates first separator)
    (hkey : Quotes (readText none) keyText key) (hcolon : IsColon colon)
    (htext : Denotes (f.read draft none levels) text draft')
    (htail : FieldsText l levels false tail draft' draft'') :
    FieldsText l levels first (separator ++ (keyText ++ (colon ++ (text ++ tail)))) draft draft''
  /-- A member comes next that belongs to no field. -/
  | other {first : Bool} {separator keyText colon text tail : List Char} {key : String}
    {draft draft' : σ}
    (hfind : (l.fields.find? fun f => f.key == key) = none)
      (hseparator : Separates first separator)
    (hkey : Quotes (readText none) keyText key) (hcolon : IsColon colon)
    (htext : Denotes (skipValue none) text ())
      (htail : FieldsText l levels false tail draft draft') :
    FieldsText l levels first (separator ++ (keyText ++ (colon ++ (text ++ tail)))) draft draft'

namespace FieldsText

variable {first : Bool} {text : List Char} {draft draft' : σ}

theorem endsValue_append (h : FieldsText l levels false text draft draft') (rest : List Char) :
    endsValue (text ++ rest) = true := by
  cases h with
  | close hb =>
      rw [List.append_assoc]
      exact endsValue_append_cons hb rfl
  | field hfind hset hseparator =>
      rw [List.append_assoc]
      exact hseparator.endsValue _
  | other hfind hseparator =>
      rw [List.append_assoc]
      exact hseparator.endsValue _

theorem readMembers_eq (h : FieldsText l levels first text draft draft')
    (hmissing : l.missing? draft' = none) {fuel : Nat} (hfuel : text.length < fuel)
    (rest : List Char) :
    l.readMembers none levels fuel first draft (text ++ rest) = .ok (draft', rest) := by
  induction h generalizing fuel with
  | close hb =>
      cases fuel with
      | zero => exact absurd hfuel (Nat.not_lt_zero _)
      | succ fuel =>
          rw [readMembers, List.append_assoc, List.singleton_append, nextKey_close _ _ hb]
          simp only [hmissing]
  | @field first separator keyText colon text tail key f draft draft' draft'' hfind hset hseparator
    hkey hcolon htext
      htail ih =>
      cases fuel with
      | zero => exact absurd hfuel (Nat.not_lt_zero _)
      | succ fuel =>
          obtain ⟨cs, hcs, hskip⟩ := readColon_eq hcolon htext.starts (tail ++ rest)
          have hread := htext.read_eq (htail.endsValue_append rest) hskip
          have htailFuel := length_tail_lt hcolon hfuel
          simp only [readMembers, List.append_assoc, nextKey_key hseparator hkey, hfind, hset,
            hcs, hread]
          exact ih hmissing htailFuel
  | @other first separator keyText colon text tail key draft draft' hfind hseparator hkey hcolon
    htext htail ih =>
      cases fuel with
      | zero => exact absurd hfuel (Nat.not_lt_zero _)
      | succ fuel =>
          obtain ⟨cs, hcs, hskip⟩ := readColon_eq hcolon htext.starts (tail ++ rest)
          have hread := htext.read_eq (htail.endsValue_append rest) hskip
          have htailFuel := length_tail_lt hcolon hfuel
          simp only [readMembers, List.append_assoc, nextKey_key hseparator hkey, hfind,
            hcs, hread]
          exact ih hmissing htailFuel

end FieldsText

/-- A record that is written as an object is read as the draft that has all its fields. -/
theorem denotes_read {text : List Char} {blank draft : σ}
    (h : FieldsText l levels true text blank draft) (hmissing : l.missing? draft = none) :
    Denotes (l.read blank none (levels + 1)) ('\x7B' :: text) draft where
  starts := rfl
  read_eq hrest hcs := by
    simp only [read, hcs, List.cons_append]
    exact h.readMembers_eq hmissing (length_lt_append _ _) _

end Layout

/-! ## Readers made of readers -/

namespace Denotes

variable {levels : Nat} {text : List Char} {a : α}

theorem field {read : Reader α} (h : Denotes (read none levels) text a) (key : String)
    (hasDefault : Bool) (get : σ → Option α) (set : σ → α → σ) (draft : σ) :
    Denotes ((Field.of key hasDefault get set read).read draft none levels) text
      (set draft a) where
  starts := h.starts
  read_eq hrest hcs := by
    simp only [Field.of, h.read_eq hrest hcs]
    rfl

theorem checked {read : Reader α} (h : Denotes (read none levels) text a)
    {check : α → Except DecodeError β} {b : β} (hcheck : check a = .ok b) :
    Denotes (readChecked read check none levels) text b where
  starts := h.starts
  read_eq hrest hcs := by simp only [readChecked, h.read_eq hrest hcs, hcheck]

/-- A value that does not start like `null` is not taken for it. -/
theorem optional {read : Reader α} (h : Denotes (read none levels) text a)
    (htext : text.head? ≠ some 'n') : Denotes (readOptional read none levels) text (some a) where
  starts := h.starts
  read_eq hrest hcs := by
    obtain ⟨c, cs, rfl, -⟩ := exists_cons_of_startsValue h.starts
    have hne : c ≠ 'n' := fun hc => htext (congrArg some hc)
    have hread := h.read_append hrest
    simp only [readOptional, hcs, List.cons_append, if_neg hne]
    rw [List.cons_append] at hread
    rw [hread]
    rfl

end Denotes

/-! ## Strings -/

theorem Quotes.denotes_readString {text : List Char} {s : String}
    (h : Quotes (readText none) text s) (levels : Nat) :
    Denotes (readString none levels) text s := by
  obtain ⟨body, rfl, hread⟩ := h
  refine ⟨rfl, fun hrest hcs => ?_⟩
  simp only [readString, hcs, List.cons_append, if_true, hread]

theorem Quotes.denotes_readValue {text : List Char} {s : String}
    (h : Quotes (readText none) text s) (levels : Nat) :
    Denotes (readValue none levels) text (str s) := by
  obtain ⟨body, rfl, hread⟩ := h
  refine ⟨rfl, fun hrest hcs => ?_⟩
  unfold readValue
  simp only [hcs, List.cons_append]
  show (readText none _).map _ = _
  rw [hread]
  rfl

theorem denotes_readString (levels : Nat) (s : String) :
    Denotes (readString none levels) (writeString s) s :=
  (quotes_writeString s).denotes_readString levels

end PathRouter.Json

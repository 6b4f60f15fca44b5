import PathRouter.Json.Decode
import PathRouter.Proofs.Json.Rereading

/-!
# Indented texts read back

The indented text of a value is read as the value, provided that a text can hold the value exactly:
a number in double precision may be read as the one next to it, and an object is read with its keys
in increasing order.

* `Json.itemsText_writePrettyItems`, `Json.Layout.fieldsText_writePrettyMembers` — what is written
  for lists and records;
* `Json.denotes_value` — any value that is exact and not nested too deep.
-/

namespace PathRouter.Json

variable {α σ : Type}

mutual

/-- Whether a text can hold a value exactly: there are no numbers in double precision, integers fit
into 64 bits, and the keys of objects are in increasing order. -/
def isExact : Json → Bool
  | int n => decide (-(1 <<< 63) ≤ n) && decide (n < 1 <<< 64)
  | float _ => false
  | arr items => areExact items
  | obj members => decide ((members.map Prod.fst).Pairwise (· < ·)) && areExactMembers members
  | _ => true

/-- Whether a text can hold some values exactly. -/
def areExact : List Json → Bool
  | [] => true
  | v :: vs => isExact v && areExact vs

/-- Whether a text can hold the values of some members exactly. -/
def areExactMembers : List (String × Json) → Bool
  | [] => true
  | (_, v) :: ms => isExact v && areExactMembers ms

end

/-! ## Lists and records -/

theorem separates_newLine (level : Nat) : Separates false (',' :: newLine level) :=
  .next (b := []) rfl (allBlank_newLine level)

theorem isColon_colon : IsColon [':', ' '] :=
  .mk (b := []) rfl rfl

/-- The elements after the first. -/
theorem itemsText_writePrettyItems {read : List Char → Parsed α} {json : α → Json} {level : Nat}
    {as : List α} (h : ∀ a ∈ as, Denotes read (writePretty (level + 1) (json a)) a) :
    ItemsText (Denotes read) false (writePrettyItems level (as.map json)) as := by
  induction as with
  | nil => exact .close (allBlank_newLine level)
  | cons a as ih =>
      rw [List.forall_mem_cons] at h
      rw [List.map_cons, writePrettyItems, List.append_assoc]
      exact .item (separates_newLine (level + 1)) h.1 (ih h.2)

theorem itemsText_writePretty {read : List Char → Parsed α} {json : α → Json} {level : Nat}
    {as : List α} (h : ∀ a ∈ as, Denotes read (writePretty (level + 1) (json a)) a) :
    ∃ text, writePretty level (arr (as.map json)) = '[' :: text ∧
      ItemsText (Denotes read) true text as := by
  cases as with
  | nil => exact ⟨_, rfl, .close (b := []) rfl⟩
  | cons a as =>
      rw [List.forall_mem_cons] at h
      refine ⟨_, ?_,
        .item (.first (allBlank_newLine (level + 1))) h.1 (itemsText_writePrettyItems h.2)⟩
      rw [List.map_cons, writePretty, List.append_assoc]
      rfl

theorem denotes_list {read : Reader α} {json : α → Json} {levels level : Nat} {as : List α}
    (h : ∀ a ∈ as, Denotes (read none levels) (writePretty (level + 1) (json a)) a) :
    Denotes (readList read none (levels + 1)) (writePretty level (arr (as.map json))) as := by
  obtain ⟨text, htext, hitems⟩ := itemsText_writePretty h
  rw [htext]
  exact denotes_readList hitems

/-- Fields are written one after the other, each one as the draft takes it up. -/
inductive Layout.Fills (l : Layout σ) (levels level : Nat) : σ → List (String × Json) → σ →
    Prop where
  /-- There are no fields. -/
  | nil {draft : σ} : Fills l levels level draft [] draft
  /-- A field that the draft does not have yet, and more fields. -/
  | cons {key : String} {v : Json} {ms : List (String × Json)} {f : Field σ}
    {draft draft' draft'' : σ}
    (hfind : (l.fields.find? fun f => f.key == key) = some f) (hset : f.isSet draft = false)
    (hread : Denotes (f.read draft none levels) (writePretty level v) draft')
    (htail : Fills l levels level draft' ms draft'') :
      Fills l levels level draft ((key, v) :: ms) draft''

namespace Layout

variable {l : Layout σ} {levels level : Nat} {ms : List (String × Json)} {draft draft' : σ}

/-- The members after the first. -/
theorem fieldsText_writePrettyMembers (h : l.Fills levels (level + 1) draft ms draft') :
    FieldsText l levels false (writePrettyMembers level ms) draft draft' := by
  -- the level of the members is an index that the induction has to keep
  generalize hlevel : level + 1 = inner at h
  induction h with
  | nil => exact .close (allBlank_newLine level)
  | cons hfind hset hread htail ih =>
      subst hlevel
      simp only [writePrettyMembers, List.append_assoc]
      exact .field hfind hset (separates_newLine (level + 1))
        (quotes_writeString _) isColon_colon hread ih

/-- A record that is written with all its fields is read as the draft with these fields. -/
theorem denotes_record (h : l.Fills levels (level + 1) draft ms draft')
    (hmissing : l.missing? draft' = none) :
    Denotes (l.read draft none (levels + 1)) (writePretty level (obj ms)) draft' := by
  cases h with
  | nil => exact denotes_read (.close (b := []) rfl) hmissing
  | @cons key v ms f _ draft₁ _ hfind hset hread htail =>
      simp only [writePretty, List.append_assoc]
      exact denotes_read (.field hfind hset (.first (allBlank_newLine (level + 1)))
        (quotes_writeString _)
        isColon_colon hread (fieldsText_writePrettyMembers htail)) hmissing

end Layout

/-! ## Objects -/

/-- A member with a key above those of some members is put behind them. -/
theorem insertMember_eq_append {key : String} {v : Json} {ms : List (String × Json)}
    (h : ∀ m ∈ ms, m.1 < key) : insertMember key v ms = ms ++ [(key, v)] := by
  induction ms with
  | nil => rfl
  | cons m ms ih =>
      obtain ⟨k, w⟩ := m
      rw [List.forall_mem_cons] at h
      have hne : key ≠ k := by
        rintro rfl
        exact String.lt_irrefl key h.1
      rw [insertMember, if_neg (String.lt_asymm h.1), if_neg hne, ih h.2]
      rfl

theorem foldl_insertMember (ms ms' : List (String × Json))
    (h : ((ms' ++ ms).map Prod.fst).Pairwise (· < ·)) :
    ms.foldl (fun sorted m => insertMember m.1 m.2 sorted) ms' = ms' ++ ms := by
  induction ms generalizing ms' with
  | nil => rw [List.append_nil, List.foldl_nil]
  | cons m ms ih =>
      have hlast : ∀ m' ∈ ms', m'.1 < m.1 := by
        rw [List.map_append, List.pairwise_append] at h
        exact fun m' hm' => h.2.2 m'.1 (List.mem_map_of_mem hm') m.1 List.mem_cons_self
      rw [List.foldl_cons, insertMember_eq_append hlast, ih _ (by simpa using h),
        List.append_assoc]
      rfl

/-- Members whose keys are in increasing order make up the object as they stand. -/
theorem ofMembers_eq {ms : List (String × Json)} (h : (ms.map Prod.fst).Pairwise (· < ·)) :
    ofMembers ms = obj ms :=
  congrArg obj (foldl_insertMember ms [] h)

/-- The members after the first. -/
theorem membersText_writePrettyMembers {read : List Char → Parsed Json} {level : Nat}
    {ms : List (String × Json)} (h : ∀ m ∈ ms, Denotes read (writePretty (level + 1) m.2) m.2) :
    MembersText (Quotes (readText none))
      (Denotes read) false (writePrettyMembers level ms) ms := by
  induction ms with
  | nil => exact .close (allBlank_newLine level)
  | cons m ms ih =>
      rw [List.forall_mem_cons] at h
      simp only [writePrettyMembers, List.append_assoc]
      exact .member (separates_newLine (level + 1))
        (quotes_writeString _) isColon_colon h.1 (ih h.2)

theorem membersText_writePretty {read : List Char → Parsed Json} {level : Nat}
    {ms : List (String × Json)} (h : ∀ m ∈ ms, Denotes read (writePretty (level + 1) m.2) m.2) :
    ∃ text, writePretty level (obj ms) = '\x7B' :: text ∧
      MembersText (Quotes (readText none)) (Denotes read) true text ms := by
  cases ms with
  | nil => exact ⟨_, rfl, .close (b := []) rfl⟩
  | cons m ms =>
      rw [List.forall_mem_cons] at h
      simp only [writePretty, List.append_assoc]
      exact ⟨_, rfl,
        .member (.first (allBlank_newLine (level + 1))) (quotes_writeString _) isColon_colon h.1
        (membersText_writePrettyMembers h.2)⟩

/-! ## Values -/

/-- A text of an integer is read as the integer. -/
theorem denotes_int {n : Int} (hlow : -(1 <<< 63) ≤ n) (hhigh : n < 1 <<< 64) (levels : Nat) :
    Denotes (readValue none levels) (Decimal.ofInt n) (int n) := by
  obtain ⟨c, cs, hcs, hc⟩ := ofInt_eq_cons n
  have hne {d : Char} (hd : d.isDigit = false) (hminus : '-' ≠ d) : c ≠ d :=
    hc.elim (fun h => h ▸ hminus) fun h => ne_of_isDigit h hd
  refine ⟨?_, fun {rest cs'} hrest hcs' => ?_⟩
  · have hblank : isBlank c = false := by
      simp [isBlank, hne (d := ' ') rfl (by decide), hne (d := '\n') rfl (by decide),
        hne (d := '\t') rfl (by decide), hne (d := '\r') rfl (by decide)]
    rw [hcs]
    simp [startsValue, hblank, hne (d := ']') rfl (by decide)]
  · have hread := readScalar_ofInt hlow hhigh hrest (by rw [hcs, List.cons_append])
    rw [hcs, List.cons_append] at hcs'
    unfold readValue
    simp only [hcs', if_neg (hne (d := '[') rfl (by decide)),
      if_neg (hne (d := '\x7B') rfl (by decide))]
    exact hread

theorem denotes_null (levels : Nat) :
    Denotes (readValue none levels) ['n', 'u', 'l', 'l'] null where
  starts := rfl
  read_eq _ hcs := by
    unfold readValue
    rw [hcs]
    rfl

theorem denotes_bool (b : Bool) (levels : Nat) :
    Denotes (readValue none levels) (writeAtom (bool b)) (bool b) where
  starts := by cases b <;> rfl
  read_eq _ hcs := by
    unfold readValue
    rw [hcs]
    cases b <;> rfl

mutual

/-- A value that a text can hold is read back from its indented text, at any level of
indentation. -/
theorem denotes_value : ∀ (v : Json) {levels : Nat}, isExact v = true → depth v ≤ levels →
    ∀ level, Denotes (readValue none levels) (writePretty level v) v
  | null, levels, _, _, _ => denotes_null levels
  | bool b, levels, _, _, _ => denotes_bool b levels
  | int n, levels, h, _, _ => by
      simp only [isExact, Bool.and_eq_true, decide_eq_true_eq] at h
      exact denotes_int h.1 h.2 levels
  | float bits, _, h, _, _ => by cases h
  | str s, levels, _, _, _ => (quotes_writeString s).denotes_readValue levels
  | arr items, 0, _, hdepth, _ => absurd hdepth (by simp [depth])
  | arr items, levels + 1, h, hdepth, level => by
      have hitems :
          ∀ v ∈ items, Denotes (readValue none levels) (writePretty (level + 1) (id v)) v :=
        fun v hv => denotes_items items h (Nat.le_of_succ_le_succ hdepth) v hv (level + 1)
      obtain ⟨text, htext, hread⟩ := itemsText_writePretty hitems
      rw [List.map_id] at htext
      rw [htext]
      exact denotes_readValue_arr hread
  | obj members, 0, _, hdepth, _ => absurd hdepth (by simp [depth])
  | obj members, levels + 1, h, hdepth, level => by
      simp only [isExact, Bool.and_eq_true, decide_eq_true_eq] at h
      obtain ⟨text, htext, hread⟩ := membersText_writePretty fun m hm =>
        denotes_members members h.2 (Nat.le_of_succ_le_succ hdepth) m hm (level + 1)
      rw [htext, ← ofMembers_eq h.1]
      exact denotes_readValue_obj hread

theorem denotes_items :
    ∀ (vs : List Json) {levels : Nat}, areExact vs = true → depthItems vs ≤ levels →
    ∀ v ∈ vs, ∀ level, Denotes (readValue none levels) (writePretty level v) v
  | [], _, _, _, _, hv, _ => absurd hv List.not_mem_nil
  | v :: vs, levels, h, hdepth, w, hw, level => by
      simp only [areExact, Bool.and_eq_true] at h
      rw [depthItems, Nat.max_le] at hdepth
      rcases List.mem_cons.1 hw with heq | hw
      · exact heq ▸ denotes_value v h.1 hdepth.1 level
      · exact denotes_items vs h.2 hdepth.2 w hw level

theorem denotes_members : ∀ (ms : List (String × Json)) {levels : Nat}, areExactMembers ms = true →
    depthMembers ms ≤ levels → ∀ m ∈ ms, ∀ level,
      Denotes (readValue none levels) (writePretty level m.2) m.2
  | [], _, _, _, _, hm, _ => absurd hm List.not_mem_nil
  | (k, v) :: ms, levels, h, hdepth, m, hm, level => by
      simp only [areExactMembers, Bool.and_eq_true] at h
      rw [depthMembers, Nat.max_le] at hdepth
      rcases List.mem_cons.1 hm with heq | hm
      · exact heq ▸ denotes_value v h.1 hdepth.1 level
      · exact denotes_members ms h.2 hdepth.2 m hm level

end

end PathRouter.Json

import PathRouter.Proofs.Json.Rereading

/-!
# Texts tell their values

No two values without numbers in double precision have one text.  The objects may hold their
members in any order, and several with one key, and a value may be nested as deep as it likes: a
reader would lose some of this, so the texts are compared with each other and not with what is read
from them.  The first character of a text says what kind of value it is, and the parts follow one
after the other, each up to a character that may follow a value.

* `Json.writeCompact_append_inj` — compact texts, whatever may follow them;
* `Json.squeeze_writePretty` — the indented text without the white space between its parts is the
  compact one;
* `Json.compact_inj`, `Json.pretty_inj` — values with the same text.
-/

namespace PathRouter.Json

/-! ## Values without numbers in double precision -/

mutual

/-- Whether there are no numbers in double precision in a value. -/
def isFloatFree : Json → Bool
  | float _ => false
  | arr items => areFloatFree items
  | obj members => areFloatFreeMembers members
  | _ => true

/-- Whether there are none in some values. -/
def areFloatFree : List Json → Bool
  | [] => true
  | v :: vs => isFloatFree v && areFloatFree vs

/-- Whether there are none in the values of some members. -/
def areFloatFreeMembers : List (String × Json) → Bool
  | [] => true
  | (_, v) :: ms => isFloatFree v && areFloatFreeMembers ms

end

theorem areFloatFree_strings (l : List String) : areFloatFree (l.map str) = true := by
  induction l with
  | nil => rfl
  | cons s l ih => exact ih

/-! ## The first character -/

/-- The kinds of values that differ in the first character of their texts. -/
inductive Kind where
  | null
  | bool (b : Bool)
  | number
  | string
  | array
  | object
deriving DecidableEq

/-- The kind of a value. -/
def kind : Json → Kind
  | null => .null
  | bool b => .bool b
  | int _ => .number
  | float _ => .number
  | str _ => .string
  | arr _ => .array
  | obj _ => .object

/-- The kind of the values whose texts start with a character. -/
def Kind.ofFirst? (c : Char) : Option Kind :=
  if c = '-' ∨ c.isDigit = true then some .number
  else
    match c with
    | 'n' => some .null
    | 't' => some (.bool true)
    | 'f' => some (.bool false)
    | '"' => some .string
    | '[' => some .array
    | '\x7B' => some .object
    | _ => none

theorem exists_first {v : Json} (hv : isFloatFree v = true) :
    ∃ c cs, writeCompact v = c :: cs ∧ Kind.ofFirst? c = some v.kind := by
  cases v with
  | null => exact ⟨_, _, rfl, rfl⟩
  | bool b => cases b <;> exact ⟨_, _, rfl, rfl⟩
  | int n =>
      obtain ⟨c, cs, hcs, hc⟩ := ofInt_eq_cons n
      exact ⟨c, cs, hcs, if_pos hc⟩
  | float bits => cases hv
  | str s => exact ⟨_, _, rfl, rfl⟩
  | arr items => cases items <;> exact ⟨_, _, rfl, rfl⟩
  | obj members => cases members <;> exact ⟨_, _, rfl, rfl⟩

/-- Texts that start alike are those of values of one kind. -/
theorem kind_eq_of_append {v w : Json} (hv : isFloatFree v = true) (hw : isFloatFree w = true)
    {r s : List Char} (h : writeCompact v ++ r = writeCompact w ++ s) : v.kind = w.kind := by
  obtain ⟨c, cs, hcs, hc⟩ := exists_first hv
  obtain ⟨d, ds, hds, hd⟩ := exists_first hw
  rw [hcs, hds] at h
  obtain rfl : c = d := (List.cons.inj h).1
  exact Option.some.inj (hc.symm.trans hd)

/-- No value starts like the end of an array. -/
theorem writeCompact_append_ne_bracket {v : Json} (hv : isFloatFree v = true) (r s : List Char) :
    writeCompact v ++ r ≠ ']' :: s := by
  obtain ⟨c, cs, hcs, hc⟩ := exists_first hv
  rw [hcs]
  rintro h
  obtain rfl : c = ']' := (List.cons.inj h).1
  cases hc

/-! ## Strings and integers -/

/-- A string ends at its closing quotation mark. -/
theorem writeString_append_inj {a b : String} {r s : List Char}
    (h : writeString a ++ r = writeString b ++ s) : a = b ∧ r = s := by
  have hread (t : String) (u : List Char) :
      readText none (t.toList.flatMap escape ++ ['"'] ++ u) = .ok (t, u) := by
    rw [List.append_assoc]
    exact readText_escape t u
  have htexts : a.toList.flatMap escape ++ ['"'] ++ r = b.toList.flatMap escape ++ ['"'] ++ s :=
    (List.cons.inj h).2
  have hpairs : (a, r) = (b, s) := by
    rw [← Except.ok.injEq (ε := ReadError), ← hread a r, ← hread b s, htexts]
  exact Prod.mk.inj hpairs

/-- The characters of integers. -/
def isIntegerChar (c : Char) : Bool :=
  c == '-' || c.isDigit

theorem isIntegerChar_of_mem_ofInt {n : Int} {c : Char} (h : c ∈ Decimal.ofInt n) :
    isIntegerChar c = true := by
  rw [isIntegerChar, Bool.or_eq_true, beq_iff_eq]
  unfold Decimal.ofInt at h
  split at h
  · exact (List.mem_cons.1 h).imp_right isDigit_of_mem_toDigits
  · exact .inr (isDigit_of_mem_toDigits h)

/-- An integer ends where something else begins. -/
theorem takeWhile_ofInt_append (n : Int) {r : List Char} (hr : endsValue r = true) :
    (Decimal.ofInt n ++ r).takeWhile isIntegerChar = Decimal.ofInt n ∧
      (Decimal.ofInt n ++ r).dropWhile isIntegerChar = r := by
  have hall : ∀ c ∈ Decimal.ofInt n, isIntegerChar c = true := fun _ => isIntegerChar_of_mem_ofInt
  have hstop : r.takeWhile isIntegerChar = [] ∧ r.dropWhile isIntegerChar = r := by
    cases r with
    | nil => exact ⟨rfl, rfl⟩
    | cons c r =>
        have hc : isIntegerChar c = false := by
          simp only [endsValue, isBlank, Bool.or_eq_true, beq_iff_eq] at hr
          rcases hr with (((((rfl | rfl) | rfl) | rfl) | rfl) | rfl) | rfl <;> rfl
        simp [hc]
  rw [List.takeWhile_append_of_pos hall, List.dropWhile_append_of_pos hall, hstop.1, hstop.2]
  exact ⟨List.append_nil _, rfl⟩

theorem ofInt_inj {m n : Int} (h : Decimal.ofInt m = Decimal.ofInt n) : m = n := by
  have htoDigits {a b : Nat} (h : Nat.toDigits 10 a = Nat.toDigits 10 b) : a = b := by
    rw [← Nat.ofDigitChars_ten_toDigits (n := a), h, Nat.ofDigitChars_ten_toDigits]
  have hsign {a b : Nat} : '-' :: Nat.toDigits 10 a ≠ Nat.toDigits 10 b := by
    intro h
    obtain ⟨c, cs, hcs, hc⟩ := toDigits_eq_cons b
    rw [hcs] at h
    exact ne_of_isDigit hc rfl (List.cons.inj h).1.symm
  unfold Decimal.ofInt at h
  split at h <;> split at h
  · have habs := htoDigits (List.cons.inj h).2
    omega
  · exact absurd h hsign
  · exact absurd h.symm hsign
  · have habs := htoDigits h
    omega

theorem ofInt_append_inj {m n : Int} {r s : List Char} (hr : endsValue r = true)
    (hs : endsValue s = true) (h : Decimal.ofInt m ++ r = Decimal.ofInt n ++ s) :
    m = n ∧ r = s := by
  obtain ⟨htake, hdrop⟩ := takeWhile_ofInt_append m hr
  obtain ⟨htake', hdrop'⟩ := takeWhile_ofInt_append n hs
  rw [h] at htake hdrop
  exact ⟨ofInt_inj (htake.symm.trans htake'), hdrop.symm.trans hdrop'⟩

/-! ## Compact texts -/

/-- If the compact texts of two values start one text, each in front of something that may follow a
value, then the values are the same and so is what follows. -/
def Told (v w : Json) : Prop :=
  ∀ {r s : List Char}, endsValue r = true → endsValue s = true →
    writeCompact v ++ r = writeCompact w ++ s → v = w ∧ r = s

/-- The same for the elements of an array after the first, with the end of the array. -/
def ItemsTold (vs ws : List Json) : Prop :=
  ∀ {r s : List Char}, writeCompactItems vs ++ r = writeCompactItems ws ++ s → vs = ws ∧ r = s

/-- The same for the members of an object after the first, with the end of the object. -/
def MembersTold (ms ns : List (String × Json)) : Prop :=
  ∀ {r s : List Char}, writeCompactMembers ms ++ r = writeCompactMembers ns ++ s → ms = ns ∧ r = s

theorem endsValue_writeCompactItems (vs : List Json) (r : List Char) :
    endsValue (writeCompactItems vs ++ r) = true := by
  cases vs <;> rfl

theorem endsValue_writeCompactMembers (ms : List (String × Json)) (r : List Char) :
    endsValue (writeCompactMembers ms ++ r) = true := by
  cases ms <;> rfl

section Parts

variable {v w : Json} {r s : List Char}

/-- An element ends where the next one or the end of the array begins. -/
theorem Told.cons_item (h : Told v w) {vs ws : List Json} (hitems : ItemsTold vs ws)
    (htext : writeCompact v ++ writeCompactItems vs ++ r =
      writeCompact w ++ writeCompactItems ws ++ s) :
    v :: vs = w :: ws ∧ r = s := by
  rw [List.append_assoc, List.append_assoc] at htext
  obtain ⟨rfl, htail⟩ :=
    h (endsValue_writeCompactItems vs r) (endsValue_writeCompactItems ws s) htext
  obtain ⟨rfl, hrest⟩ := hitems htail
  exact ⟨rfl, hrest⟩

/-- A key ends at its quotation mark, and its value where the next member or the end of the object
begins. -/
theorem Told.cons_member (h : Told v w) {ms ns : List (String × Json)}
    (hmembers : MembersTold ms ns) {k l : String}
    (htext : writeString k ++ ':' :: writeCompact v ++ writeCompactMembers ms ++ r =
      writeString l ++ ':' :: writeCompact w ++ writeCompactMembers ns ++ s) :
    (k, v) :: ms = (l, w) :: ns ∧ r = s := by
  simp only [List.append_assoc, List.cons_append] at htext
  obtain ⟨rfl, hvalue⟩ := writeString_append_inj htext
  obtain ⟨rfl, htail⟩ :=
    h (endsValue_writeCompactMembers ms r) (endsValue_writeCompactMembers ns s)
    (List.cons.inj hvalue).2
  obtain ⟨rfl, hrest⟩ := hmembers htail
  exact ⟨rfl, hrest⟩

end Parts

mutual

/-- A compact text tells its value and where it ends. -/
theorem writeCompact_append_inj :
    ∀ {v w : Json}, isFloatFree v = true → isFloatFree w = true → Told v w
  | null, w, hv, hw, r, s, _, _, h => by
      have hkind := kind_eq_of_append hv hw h
      cases w with
      | null => exact ⟨rfl, List.append_cancel_left h⟩
      | _ => cases hkind
  | bool a, w, hv, hw, r, s, _, _, h => by
      have hkind := kind_eq_of_append hv hw h
      cases w with
      | bool b =>
          obtain rfl : a = b := Kind.bool.inj hkind
          exact ⟨rfl, List.append_cancel_left h⟩
      | _ => cases hkind
  | int m, w, hv, hw, r, s, hr, hs, h => by
      have hkind := kind_eq_of_append hv hw h
      cases w with
      | int n =>
          obtain ⟨rfl, hrest⟩ := ofInt_append_inj hr hs h
          exact ⟨rfl, hrest⟩
      | float bits => cases hw
      | _ => cases hkind
  | float bits, _, hv, _, _, _, _, _, _ => by cases hv
  | str a, w, hv, hw, r, s, _, _, h => by
      have hkind := kind_eq_of_append hv hw h
      cases w with
      | str b =>
          obtain ⟨rfl, hrest⟩ := writeString_append_inj h
          exact ⟨rfl, hrest⟩
      | _ => cases hkind
  | arr vs, w, hv, hw, r, s, _, _, h => by
      have hkind := kind_eq_of_append hv hw h
      cases w with
      | arr ws =>
          obtain ⟨rfl, hrest⟩ := writeCompact_arr_append_inj hv hw h
          exact ⟨rfl, hrest⟩
      | _ => cases hkind
  | obj ms, w, hv, hw, r, s, _, _, h => by
      have hkind := kind_eq_of_append hv hw h
      cases w with
      | obj ns =>
          obtain ⟨rfl, hrest⟩ := writeCompact_obj_append_inj hv hw h
          exact ⟨rfl, hrest⟩
      | _ => cases hkind

theorem writeCompact_arr_append_inj :
    ∀ {vs ws : List Json}, areFloatFree vs = true → areFloatFree ws = true →
    ∀ {r s : List Char}, writeCompact (arr vs) ++ r = writeCompact (arr ws) ++ s → vs = ws ∧ r = s
  | [], [], _, _, r, s, h => ⟨rfl, List.append_cancel_left h⟩
  | [], w :: ws, _, hws, r, s, h => by
      simp only [areFloatFree, Bool.and_eq_true] at hws
      have htail : ']' :: r = writeCompact w ++ writeCompactItems ws ++ s := (List.cons.inj h).2
      rw [List.append_assoc] at htail
      exact absurd htail.symm (writeCompact_append_ne_bracket hws.1 _ _)
  | v :: vs, [], hvs, _, r, s, h => by
      simp only [areFloatFree, Bool.and_eq_true] at hvs
      have htail : writeCompact v ++ writeCompactItems vs ++ r = ']' :: s := (List.cons.inj h).2
      rw [List.append_assoc] at htail
      exact absurd htail (writeCompact_append_ne_bracket hvs.1 _ _)
  | v :: vs, w :: ws, hvs, hws, r, s, h => by
      simp only [areFloatFree, Bool.and_eq_true] at hvs hws
      exact Told.cons_item (writeCompact_append_inj hvs.1 hws.1)
        (writeCompactItems_append_inj hvs.2 hws.2)
        (List.cons.inj h).2

theorem writeCompactItems_append_inj :
    ∀ {vs ws : List Json}, areFloatFree vs = true → areFloatFree ws = true →
    ItemsTold vs ws
  | [], [], _, _, r, s, h => ⟨rfl, List.append_cancel_left h⟩
  | [], w :: ws, _, _, r, s, h => absurd (List.cons.inj h).1 (by decide)
  | v :: vs, [], _, _, r, s, h => absurd (List.cons.inj h).1 (by decide)
  | v :: vs, w :: ws, hvs, hws, r, s, h => by
      simp only [areFloatFree, Bool.and_eq_true] at hvs hws
      exact Told.cons_item (writeCompact_append_inj hvs.1 hws.1)
        (writeCompactItems_append_inj hvs.2 hws.2)
        (List.cons.inj h).2

theorem writeCompact_obj_append_inj :
    ∀ {ms ns : List (String × Json)}, areFloatFreeMembers ms = true →
    areFloatFreeMembers ns = true → ∀ {r s : List Char},
      writeCompact (obj ms) ++ r = writeCompact (obj ns) ++ s → ms = ns ∧ r = s
  | [], [], _, _, r, s, h => ⟨rfl, List.append_cancel_left h⟩
  | [], (l, w) :: ns, _, _, r, s, h => absurd (List.cons.inj (List.cons.inj h).2).1 (by decide)
  | (k, v) :: ms, [], _, _, r, s, h => absurd (List.cons.inj (List.cons.inj h).2).1 (by decide)
  | (k, v) :: ms, (l, w) :: ns, hms, hns, r, s, h => by
      simp only [areFloatFreeMembers, Bool.and_eq_true] at hms hns
      exact Told.cons_member (writeCompact_append_inj hms.1 hns.1)
        (writeCompactMembers_append_inj hms.2 hns.2)
        (List.cons.inj h).2

theorem writeCompactMembers_append_inj :
    ∀ {ms ns : List (String × Json)}, areFloatFreeMembers ms = true →
    areFloatFreeMembers ns = true → MembersTold ms ns
  | [], [], _, _, r, s, h => ⟨rfl, List.append_cancel_left h⟩
  | [], (l, w) :: ns, _, _, r, s, h => absurd (List.cons.inj h).1 (by decide)
  | (k, v) :: ms, [], _, _, r, s, h => absurd (List.cons.inj h).1 (by decide)
  | (k, v) :: ms, (l, w) :: ns, hms, hns, r, s, h => by
      simp only [areFloatFreeMembers, Bool.and_eq_true] at hms hns
      exact Told.cons_member (writeCompact_append_inj hms.1 hns.1)
        (writeCompactMembers_append_inj hms.2 hns.2)
        (List.cons.inj h).2

end

/-- Values with the same compact text are the same. -/
theorem compact_inj {v w : Json} (hv : isFloatFree v = true) (hw : isFloatFree w = true)
    (h : v.compact = w.compact) : v = w := by
  have htexts : writeCompact v ++ [] = writeCompact w ++ [] := by
    rw [List.append_nil, List.append_nil]
    exact String.ofList_inj.1 h
  exact (writeCompact_append_inj hv hw rfl rfl htexts).1

/-! ## Indented texts -/

/-- A text without the white space outside of its strings.  `quoted` says whether it starts inside
of one. -/
def squeeze : (quoted : Bool) → List Char → List Char
  | _, [] => []
  | false, c :: cs => if isBlank c then squeeze false cs else c :: squeeze (c == '"') cs
  | true, '\\' :: c :: cs => '\\' :: c :: squeeze true cs
  | true, c :: cs => c :: squeeze (c != '"') cs

/-- White space goes. -/
theorem squeeze_append_of_blank {b : List Char} (hb : allBlank b = true) (cs : List Char) :
    squeeze false (b ++ cs) = squeeze false cs := by
  induction b with
  | nil => rfl
  | cons c b ih =>
      rw [allBlank, List.all_cons, Bool.and_eq_true] at hb
      rw [List.cons_append, squeeze, if_pos hb.1]
      exact ih hb.2

/-- Other characters outside of strings stay. -/
theorem squeeze_append_of_solid {u : List Char} (hu : ∀ c ∈ u, isBlank c = false ∧ c ≠ '"')
    (cs : List Char) :
    squeeze false (u ++ cs) = u ++ squeeze false cs := by
  induction u with
  | nil => rfl
  | cons c u ih =>
      rw [List.forall_mem_cons] at hu
      rw [List.cons_append, squeeze, if_neg (by simp [hu.1.1]), beq_false_of_ne hu.1.2, ih hu.2]
      rfl

theorem hexDigit_solid : ∀ n < 16, hexDigit n ≠ '"' ∧ hexDigit n ≠ '\\' := by
  decide

/-- A character inside of a string stays. -/
theorem squeeze_escape (c : Char) (cs : List Char) :
    squeeze true (escape c ++ cs) = escape c ++ squeeze true cs := by
  have hplain {c : Char} (hquote : c ≠ '"') (hbackslash : c ≠ '\\') (cs : List Char) :
      squeeze true (c :: cs) = c :: squeeze true cs := by
    rw [squeeze.eq_4 c cs (fun c' cs' h _ => hbackslash h), bne_iff_ne.2 hquote]
  unfold escape
  split
  case h_8 hquote hbackslash _ _ _ _ _ =>
    split
    next hcontrol =>
      obtain ⟨hq, hb⟩ := hexDigit_solid (c.toNat / 16) (by omega)
      obtain ⟨hq', hb'⟩ := hexDigit_solid (c.toNat % 16) (by omega)
      simp [squeeze, hplain hq hb, hplain hq' hb']
    next => exact hplain hquote hbackslash cs
  all_goals rfl

/-- A string stays as it is. -/
theorem squeeze_writeString (t : String) (cs : List Char) :
    squeeze false (writeString t ++ cs) = writeString t ++ squeeze false cs := by
  have hbody (u : List Char) : squeeze true (u.flatMap escape ++ '"' :: cs) =
      u.flatMap escape ++ '"' :: squeeze false cs := by
    induction u with
    | nil => rfl
    | cons c u ih =>
        rw [List.flatMap_cons, List.append_assoc, squeeze_escape, ih, List.append_assoc]
  simpa [writeString, squeeze, isBlank] using hbody t.toList

/-! ### Values -/

theorem isSolid_of_isIntegerChar {c : Char} (h : isIntegerChar c = true) :
    isBlank c = false ∧ c ≠ '"' := by
  have hne {d : Char} (hd : isIntegerChar d = false) : c ≠ d := by
    rintro rfl
    exact absurd (h.symm.trans hd) (by decide)
  refine ⟨?_, hne rfl⟩
  simp [isBlank, hne (d := ' ') rfl, hne (d := '\n') rfl, hne (d := '\t') rfl, hne (d := '\r') rfl]

theorem squeeze_cons_of_solid {c : Char} (hc : isBlank c = false ∧ c ≠ '"') (cs : List Char) :
    squeeze false (c :: cs) = c :: squeeze false cs :=
  squeeze_append_of_solid (u := [c]) (by simpa using hc) cs

section Parts

variable {v : Json} {level : Nat}
  (h : ∀ cs, squeeze false (writePretty level v ++ cs) = writeCompact v ++ squeeze false cs)
include h

/-- An element on a line of its own. -/
theorem squeeze_item (cs : List Char) :
    squeeze false (newLine level ++ (writePretty level v ++ cs)) =
      writeCompact v ++ squeeze false cs := by
  rw [squeeze_append_of_blank (allBlank_newLine level), h]

/-- A member on a line of its own. -/
theorem squeeze_member (key : String) (cs : List Char) :
    squeeze false
      (newLine level ++ (writeString key ++ ':' :: ' ' :: (writePretty level v ++ cs))) =
      writeString key ++ ':' :: (writeCompact v ++ squeeze false cs) := by
  have hspace :
      squeeze false (' ' :: (writePretty level v ++ cs)) = writeCompact v ++ squeeze false cs :=
    h cs
  rw [squeeze_append_of_blank (allBlank_newLine level), squeeze_writeString,
    squeeze_cons_of_solid (by decide), hspace]

end Parts

mutual

/-- The compact text is the indented one without the white space between its parts. -/
theorem squeeze_writePretty :
    ∀ {v : Json}, isFloatFree v = true → ∀ (level : Nat) (cs : List Char),
    squeeze false (writePretty level v ++ cs) = writeCompact v ++ squeeze false cs
  | null, _, _, _ => rfl
  | bool true, _, _, _ => rfl
  | bool false, _, _, _ => rfl
  | int n, _, _, cs =>
      squeeze_append_of_solid (fun _ hc =>
        isSolid_of_isIntegerChar (isIntegerChar_of_mem_ofInt hc)) cs
  | float _, h, _, _ => by cases h
  | str s, _, _, cs => squeeze_writeString s cs
  | arr [], _, _, _ => rfl
  | arr (v :: vs), h, level, cs => by
      simp only [isFloatFree, areFloatFree, Bool.and_eq_true] at h
      simp only [writePretty, writeCompact, List.append_assoc, List.cons_append]
      rw [squeeze_cons_of_solid (by decide), squeeze_item (squeeze_writePretty h.1 (level + 1)),
        squeeze_writePrettyItems h.2]
  | obj [], _, _, _ => rfl
  | obj ((k, v) :: ms), h, level, cs => by
      simp only [isFloatFree, areFloatFreeMembers, Bool.and_eq_true] at h
      simp only [writePretty, writeCompact, List.append_assoc, List.cons_append, List.nil_append]
      rw [squeeze_cons_of_solid (by decide), squeeze_member (squeeze_writePretty h.1 (level + 1)),
        squeeze_writePrettyMembers h.2]

theorem squeeze_writePrettyItems :
    ∀ {vs : List Json}, areFloatFree vs = true → ∀ (level : Nat) (cs : List Char),
    squeeze false (writePrettyItems level vs ++ cs) = writeCompactItems vs ++ squeeze false cs
  | [], _, level, cs => by
      simp only [writePrettyItems, writeCompactItems, List.append_assoc, List.cons_append,
        List.nil_append]
      rw [squeeze_append_of_blank (allBlank_newLine level), squeeze_cons_of_solid (by decide)]
  | v :: vs, h, level, cs => by
      simp only [areFloatFree, Bool.and_eq_true] at h
      simp only [writePrettyItems, writeCompactItems, List.append_assoc, List.cons_append]
      rw [squeeze_cons_of_solid (by decide), squeeze_item (squeeze_writePretty h.1 (level + 1)),
        squeeze_writePrettyItems h.2]

theorem squeeze_writePrettyMembers : ∀ {ms : List (String × Json)}, areFloatFreeMembers ms = true →
    ∀ (level : Nat) (cs : List Char),
      squeeze false (writePrettyMembers level ms ++ cs) =
        writeCompactMembers ms ++ squeeze false cs
  | [], _, level, cs => by
      simp only [writePrettyMembers, writeCompactMembers, List.append_assoc, List.cons_append,
        List.nil_append]
      rw [squeeze_append_of_blank (allBlank_newLine level), squeeze_cons_of_solid (by decide)]
  | (k, v) :: ms, h, level, cs => by
      simp only [areFloatFreeMembers, Bool.and_eq_true] at h
      simp only [writePrettyMembers, writeCompactMembers, List.append_assoc, List.cons_append,
        List.nil_append]
      rw [squeeze_cons_of_solid (by decide), squeeze_member (squeeze_writePretty h.1 (level + 1)),
        squeeze_writePrettyMembers h.2]

end

/-- Values with the same indented text are the same. -/
theorem pretty_inj {v w : Json} (hv : isFloatFree v = true) (hw : isFloatFree w = true)
    (h : v.pretty = w.pretty) : v = w := by
  have hsqueezed {u : Json} (hu : isFloatFree u = true) :
      squeeze false (writePretty 0 u) = writeCompact u := by
    simpa [squeeze] using squeeze_writePretty hu 0 []
  have htexts : writePretty 0 v = writePretty 0 w := String.ofList_inj.1 h
  have hcompact : writeCompact v = writeCompact w := by
    rw [← hsqueezed hv, ← hsqueezed hw, htexts]
  exact compact_inj hv hw (congrArg String.ofList hcompact)

end PathRouter.Json

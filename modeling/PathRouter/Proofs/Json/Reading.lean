import Mathlib.Data.List.Nodup
import PathRouter.Proofs.Json.Indented

/-!
# Texts of the grammar are read

Whatever text of a value is given, the reader takes it for the value; and whatever text of any
value is given, it can be skipped.  Nothing limits the nesting of what is skipped, since every
level takes up a character of the text.

* `StringText.quotes`, `AnyStringText.quotes` — strings, which are keys and values;
* `ValueText.denotes` — values, nested as deep as there are levels;
* `AnyText.denotes` — what is skipped.
-/

namespace PathRouter.Json

variable {α : Type}

/-! ## Codes -/

theorem hexValue?_digitChar : ∀ n < 16,
    hexValue? n.digitChar = some n ∧ hexValue? n.digitChar.toUpper = some n ∧
      n.digitChar.utf8Size = 1 ∧ n.digitChar.toUpper.utf8Size = 1 := by
  decide

theorem HexDigit.hexValue?_eq {c : Char} {n : Nat} (h : HexDigit c n) : hexValue? c = some n := by
  cases h with
  | lower hn => exact (hexValue?_digitChar n hn).1
  | upper hn => exact (hexValue?_digitChar n hn).2.1

theorem HexDigit.byteSize_eq {c : Char} {n : Nat} (h : HexDigit c n) : byteSize none c = 1 := by
  cases h with
  | lower hn => exact (hexValue?_digitChar n hn).2.2.1
  | upper hn => exact (hexValue?_digitChar n hn).2.2.2

theorem CodeText.hexNumber?_eq {digits : List Char} {n : Nat} (h : CodeText digits n) :
    hexNumber? digits = some n := by
  cases h with
  | mk ha hb hc hd =>
      simp [hexNumber?, ha.hexValue?_eq, hb.hexValue?_eq, hc.hexValue?_eq, hd.hexValue?_eq]

/-- A code is complete after its fourth digit. -/
theorem CodeText.readChars_eq {digits : List Char} {n : Nat} (h : CodeText digits n)
    (lead : Option Nat) (cs : List Char) : readChars none (.code lead []) (digits ++ cs) =
      match CodeUnit.ofCode? lead digits with
      | none => .error .malformed
      | some (.char d) => (readChars none .plain cs).map fun (s, cs) => (d :: s, cs)
      | some (.lead n) => readChars none (.afterLead n) cs := by
  cases h with
  | mk ha hb hc hd =>
      simp only [List.cons_append, List.nil_append, readChars, width, List.foldr_cons,
        List.foldr_nil, ha.byteSize_eq, hb.byteSize_eq, hc.byteSize_eq, hd.byteSize_eq]
      rfl

theorem CodeText.skipChars_eq {digits : List Char} {n : Nat} (h : CodeText digits n)
    (cs : List Char) :
    skipChars none (.code none []) (digits ++ cs) = skipChars none .plain cs := by
  have hvalue := h.hexNumber?_eq
  cases h with
  | mk ha hb hc hd =>
      simp [skipChars, width, ha.byteSize_eq, hb.byteSize_eq, hc.byteSize_eq,
        hd.byteSize_eq, hvalue]

/-! ## Strings -/

theorem isPlain_iff {c : Char} : isPlain c = true ↔ c ≠ '"' ∧ c ≠ '\\' ∧ ¬c.toNat < 32 := by
  simp [isPlain, and_assoc]

theorem unescape?_of_mem {letter c : Char} (h : (letter, c) ∈ shortForms) :
    unescape? letter = some c ∧ letter ≠ 'u' := by
  have hall : ∀ form ∈ shortForms, unescape? form.1 = some form.2 ∧ form.1 ≠ 'u' := by decide
  exact hall _ h

/-- No character has a code that is half a pair. -/
theorem not_half (c : Char) : isTrail c.toNat = false ∧ isLead c.toNat = false := by
  have hvalid := c.valid
  rw [isTrail, isLead, Bool.and_eq_false_iff, Bool.and_eq_false_iff, decide_eq_false_iff_not,
    decide_eq_false_iff_not, decide_eq_false_iff_not, decide_eq_false_iff_not]
  simp only [UInt32.isValidChar, Nat.isValidChar] at hvalid
  rw [Char.toNat]
  omega

/-- A pair of codes is read as the character that it stands for. -/
theorem ofCode?_pair {lead trail : List Char} {i j : Nat} {c : Char}
    (hlead : CodeText lead (0xD800 + i)) (hi : i < 1024) (htrail : CodeText trail (0xDC00 + j))
    (hj : j < 1024) (hc : c.toNat = 0x10000 + i * 1024 + j) :
    CodeUnit.ofCode? none lead = some (.lead (0xD800 + i)) ∧
      CodeUnit.ofCode? (some (0xD800 + i)) trail = some (.char c) := by
  have hi' : isTrail (0xD800 + i) = false ∧ isLead (0xD800 + i) = true := by
    simp [isTrail, isLead]
    omega
  have hj' : isTrail (0xDC00 + j) = true := by
    simp [isTrail]
    omega
  have hvalue : 0x10000 + (0xD800 + i - 0xD800) * 1024 + (0xDC00 + j - 0xDC00) =
      c.toNat := by omega
  constructor
  · simp [CodeUnit.ofCode?, hlead.hexNumber?_eq, hi']
  · simp only [CodeUnit.ofCode?, htrail.hexNumber?_eq, hj', if_true, hvalue, Char.ofNat_toNat]

/-- A character is read from any of its written forms. -/
theorem CharText.readChars_eq {text : List Char} {c : Char} (h : CharText text c)
    (cs : List Char) :
    readChars none .plain (text ++ cs) = (readChars none .plain cs).map fun p =>
      (c :: p.1, p.2) := by
  cases h with
  | plain hc =>
      obtain ⟨hquote, hbackslash, hcontrol⟩ := isPlain_iff.1 hc
      rw [List.singleton_append, readChars, if_neg hquote, if_neg hbackslash, if_neg hcontrol]
      cases readChars none .plain cs <;> rfl
  | short h =>
      obtain ⟨hletter, hu⟩ := unescape?_of_mem h
      simp [readChars, hletter, hu]
  | @code digits _ h =>
      have hcode : CodeUnit.ofCode? none digits = some (.char c) := by
        simp [CodeUnit.ofCode?, h.hexNumber?_eq, not_half]
      show readChars none (.code none []) (digits ++ cs) = _
      rw [h.readChars_eq, hcode]
  | @pair lead trail i j _ hlead hi htrail hj hc =>
      obtain ⟨hfirst, hsecond⟩ := ofCode?_pair hlead hi htrail hj hc
      rw [List.append_assoc]
      show readChars none (.code none []) (lead ++ _) = _
      rw [hlead.readChars_eq, hfirst]
      show readChars none (.code (some (0xD800 + i)) []) (trail ++ cs) = _
      rw [htrail.readChars_eq, hsecond]

theorem CharsText.readChars_eq {text s : List Char} (h : CharsText text s) (rest : List Char) :
    readChars none .plain (text ++ '"' :: rest) = .ok (s, rest) := by
  induction h with
  | nil => rfl
  | cons hc hcs ih =>
      rw [List.append_assoc, hc.readChars_eq, ih]
      rfl

/-- A string is read from any of its texts. -/
theorem StringText.quotes {text : List Char} {s : String} (h : StringText text s) :
    Quotes (readText none) text s := by
  cases h with
  | @mk text _ h =>
      refine ⟨text ++ ['"'], rfl, fun rest => ?_⟩
      rw [List.append_assoc, List.singleton_append, readText, h.readChars_eq]
      exact congrArg (fun s => Except.ok (s, rest)) String.ofList_toList

/-- Anything in quotation marks is skipped. -/
theorem AnyCharsText.skipChars_eq {text : List Char} (h : AnyCharsText text) (rest : List Char) :
    skipChars none .plain (text ++ '"' :: rest) = .ok rest := by
  induction h with
  | nil => rfl
  | plain hc htail ih =>
      obtain ⟨hquote, hbackslash, hcontrol⟩ := isPlain_iff.1 hc
      rw [List.cons_append, skipChars, if_neg hquote, if_neg hbackslash, if_neg hcontrol, ih]
  | short h htail ih =>
      obtain ⟨hletter, hu⟩ := unescape?_of_mem h
      simp [skipChars, hletter, hu, ih]
  | @code digits n tail h htail ih =>
      rw [List.append_assoc]
      show skipChars none (.code none []) (digits ++ _) = _
      rw [h.skipChars_eq, ih]

theorem AnyStringText.quotes {text : List Char} (h : AnyStringText text) :
    Quotes (skipText none) text "" := by
  cases h with
  | @mk text h =>
      refine ⟨text ++ ['"'], rfl, fun rest => ?_⟩
      rw [List.append_assoc, List.singleton_append, skipText, h.skipChars_eq]
      rfl

/-! ## Members in another order -/

/-- Members with different keys may be put into an object in any order. -/
theorem insertMember_comm {k k' : String} (hne : k ≠ k') (v v' : Json)
    (ms : List (String × Json)) :
    insertMember k v (insertMember k' v' ms) = insertMember k' v' (insertMember k v ms) := by
  have hasymm : ∀ a b : String, a < b → ¬b < a := fun _ _ => String.lt_asymm
  have htrans : ∀ a b c : String, a < b → b < c → a < c := fun _ _ _ => String.lt_trans
  have htotal : ∀ a b : String, ¬a < b → a ≠ b → b < a :=
    fun _ _ hlt hab => Std.lt_of_le_of_ne (String.not_lt.1 hlt) hab.symm
  -- both keys are compared with each key of the object, and with each other where they meet
  induction ms with
  | nil => grind [insertMember]
  | cons m ms ih => grind [insertMember]

theorem areExactMembers_iff {ms : List (String × Json)} :
    areExactMembers ms = true ↔ ∀ m ∈ ms, isExact m.2 = true := by
  induction ms with
  | nil => simp [areExactMembers]
  | cons m ms ih => simp only [areExactMembers, Bool.and_eq_true, ih, List.forall_mem_cons]

/-- The object with some members whose keys are different does not depend on their order. -/
theorem ofMembers_eq_of_perm {ms members : List (String × Json)} (horder : ms.Perm members)
    (h : (members.map Prod.fst).Pairwise (· < ·)) : ofMembers ms = obj members := by
  have hkeys : (members.map Prod.fst).Nodup := by
    refine h.imp fun hlt heq => ?_
    subst heq
    exact String.lt_irrefl _ hlt
  rw [← ofMembers_eq h]
  refine congrArg obj (horder.foldl_eq' (fun m hm m' hm' sorted => ?_) _)
  by_cases hkey : m.1 = m'.1
  · rw [List.inj_on_of_nodup_map hkeys (horder.mem_iff.1 hm) (horder.mem_iff.1 hm') hkey]
  · exact insertMember_comm (Ne.symm hkey) _ _ _

/-! ## Values that are read -/

mutual

/-- A value is read from any of its texts. -/
theorem ValueText.denotes : ∀ {text : List Char} {v : Json} {levels : Nat}, ValueText text v →
    isExact v = true → depth v ≤ levels → Denotes (readValue none levels) text v
  | _, _, _, .null, _, _ => denotes_null _
  | _, _, _, .bool_true, _, _ => denotes_bool true _
  | _, _, _, .bool_false, _, _ => denotes_bool false _
  | _, _, _, .int n, hexact, _ => by
      simp only [isExact, Bool.and_eq_true, decide_eq_true_eq] at hexact
      exact denotes_int hexact.1 hexact.2 _
  | _, _, _, .str htext, _, _ => htext.quotes.denotes_readValue _
  | _, _, 0, .arr _, _, hdepth => absurd hdepth (by simp [depth])
  | _, _, _ + 1, .arr h, hexact, hdepth =>
      denotes_readValue_arr (h.denotes_values hexact (Nat.le_of_succ_le_succ hdepth))
  | _, _, 0, .obj _ _, _, hdepth => absurd hdepth (by simp [depth])
  | _, _, levels + 1, @ValueText.obj _ ms members h horder, hexact, hdepth => by
      simp only [isExact, Bool.and_eq_true, decide_eq_true_eq, areExactMembers_iff] at hexact
      have hdepth' : ∀ m ∈ members, depth m.2 ≤ levels :=
        depthMembers_le_iff.1 (Nat.le_of_succ_le_succ hdepth)
      rw [← ofMembers_eq_of_perm horder hexact.1]
      refine denotes_readValue_obj (h.denotes_values ?_ ?_)
      · exact areExactMembers_iff.2 fun m hm => hexact.2 m (horder.mem_iff.1 hm)
      · exact depthMembers_le_iff.2 fun m hm => hdepth' m (horder.mem_iff.1 hm)

theorem ItemsText.denotes_values :
    ∀ {first : Bool} {text : List Char} {vs : List Json} {levels : Nat},
    ItemsText ValueText first text vs → areExact vs = true → depthItems vs ≤ levels →
      ItemsText (Denotes (readValue none levels)) first text vs
  | _, _, _, _, .close hb, _, _ => .close hb
  | _, _, _, _, .item hseparator hv hvs, hexact, hdepth => by
      simp only [areExact, Bool.and_eq_true] at hexact
      rw [depthItems, Nat.max_le] at hdepth
      exact .item hseparator (hv.denotes hexact.1 hdepth.1) (hvs.denotes_values hexact.2 hdepth.2)

theorem MembersText.denotes_values :
    ∀ {first : Bool} {text : List Char} {ms : List (String × Json)} {levels : Nat},
    MembersText StringText ValueText first text ms → areExactMembers ms = true →
      depthMembers ms ≤ levels →
      MembersText (Quotes (readText none)) (Denotes (readValue none levels)) first text ms
  | _, _, _, _, .close hb, _, _ => .close hb
  | _, _, _, _, .member hseparator hkey hcolon hv hms, hexact, hdepth => by
      simp only [areExactMembers, Bool.and_eq_true] at hexact
      rw [depthMembers, Nat.max_le] at hdepth
      exact .member hseparator hkey.quotes hcolon (hv.denotes hexact.1 hdepth.1)
        (hms.denotes_values hexact.2 hdepth.2)

end

/-! ## Numbers that are skipped -/

/-- A row of digits ends where no digit follows. -/
theorem span_digits {digits cs : List Char} (h : digits.all Char.isDigit = true)
    (hcs : cs.takeWhile Char.isDigit = []) : (digits ++ cs).takeWhile Char.isDigit = digits ∧
      (digits ++ cs).dropWhile Char.isDigit = cs := by
  have hall : ∀ c ∈ digits, c.isDigit = true := List.all_eq_true.1 h
  have hdrop : cs.dropWhile Char.isDigit = cs := by
    simpa [hcs] using List.takeWhile_append_dropWhile (p := Char.isDigit) (l := cs)
  rw [List.takeWhile_append_of_pos hall, List.dropWhile_append_of_pos hall, hcs, List.append_nil]
  exact ⟨rfl, hdrop⟩

theorem areDigits_iff {digits : List Char} :
    areDigits digits = true ↔ digits.isEmpty = false ∧ digits.all Char.isDigit = true := by
  simp [areDigits]

theorem exists_cons_of_areDigits {digits : List Char} (h : areDigits digits = true) :
    ∃ c cs, digits = c :: cs ∧ c.isDigit = true := by
  cases digits with
  | nil => cases h
  | cons c cs =>
      simp only [areDigits_iff, List.all_cons, Bool.and_eq_true] at h
      exact ⟨c, cs, rfl, h.2.1⟩

/-- The letter of an exponent is passed over, and the sign if there is one. -/
theorem skipExponent_letter {letter : Char} {sign digits rest : List Char}
    (hletter : letter ∈ ['e', 'E']) (hsign : sign ∈ [[], ['+'], ['-']])
    (hdigits : areDigits digits = true) (hrest : rest.takeWhile Char.isDigit = []) :
    skipExponent (letter :: (sign ++ (digits ++ rest))) = .ok rest := by
  obtain ⟨hne, hall⟩ := areDigits_iff.1 hdigits
  obtain ⟨htake, hdrop⟩ := span_digits hall hrest
  have hstarts : ∀ cs, startsExponent (letter :: cs) = true := by
    simp only [List.mem_cons, List.not_mem_nil, or_false] at hletter
    obtain rfl | rfl := hletter <;> exact fun _ => rfl
  have hread : (if ((digits ++ rest).takeWhile Char.isDigit).isEmpty then .error .malformed
      else .ok ((digits ++ rest).dropWhile Char.isDigit)) =
        (.ok rest : Except ReadError (List Char)) := by
    rw [htake, hdrop, hne, if_neg Bool.false_ne_true]
  rw [skipExponent, hstarts, if_pos rfl, List.tail_cons]
  simp only [List.mem_cons, List.not_mem_nil, or_false] at hsign
  obtain rfl | rfl | rfl := hsign
  · obtain ⟨c, cs, rfl, hc⟩ := exists_cons_of_areDigits hdigits
    rw [List.nil_append, List.cons_append]
    split
    next heq => exact absurd (List.cons.inj heq).1 (ne_of_isDigit hc rfl)
    next heq => exact absurd (List.cons.inj heq).1 (ne_of_isDigit hc rfl)
    next => exact hread
  · exact hread
  · exact hread

/-- After the exponent comes what follows the number. Neither starts with a digit or a point. -/
theorem ExponentText.skipExponent_eq {exponent rest : List Char} (h : ExponentText exponent)
    (hrest : endsValue rest = true) : skipExponent (exponent ++ rest) = .ok rest ∧
      (exponent ++ rest).takeWhile Char.isDigit = [] ∧ (exponent ++ rest).head? ≠ some '.' := by
  obtain ⟨htake, -, hexponent, hpoint⟩ := not_continues_number hrest
  cases h with
  | missing =>
      refine ⟨?_, htake, hpoint⟩
      rw [List.nil_append, skipExponent, hexponent, if_neg Bool.false_ne_true]
  | @mk letter sign digits hletter hsign hdigits =>
      have hletter' : letter.isDigit = false ∧ letter ≠ '.' := by
        simp only [List.mem_cons, List.not_mem_nil, or_false] at hletter
        obtain rfl | rfl := hletter <;> decide
      rw [List.cons_append, List.cons_append, List.append_assoc]
      exact ⟨skipExponent_letter hletter hsign hdigits htake,
        List.takeWhile_cons_of_neg (by simp [hletter']), by simpa using hletter'.2⟩

/-- A number is skipped from after its sign. -/
theorem skipNumber_eq {whole fraction exponent rest : List Char} (hwhole : WholeText whole)
    (hfraction : FractionText fraction) (hexponent : ExponentText exponent)
    (hrest : endsValue rest = true) :
    skipNumber (whole ++ (fraction ++ exponent) ++ rest) = .ok rest := by
  obtain ⟨hskip, htake, hpoint⟩ := hexponent.skipExponent_eq hrest
  have hfractionTake : (fraction ++ (exponent ++ rest)).takeWhile Char.isDigit = [] := by
    cases hfraction with
    | missing => exact htake
    | mk => rfl
  have hwholeDigits : whole.all Char.isDigit = true ∧
      (whole.isEmpty || whole.head? == some '0' && whole.length ≠ 1) = false := by
    cases hwhole with
    | zero => decide
    | digits hc h => exact ⟨(areDigits_iff.1 h).2, by simp [hc]⟩
  obtain ⟨htakeAll, hdropAll⟩ := span_digits hwholeDigits.1 hfractionTake
  rw [List.append_assoc, List.append_assoc, skipNumber]
  simp only [htakeAll, hdropAll, hwholeDigits.2, if_neg Bool.false_ne_true]
  cases hfraction with
  | missing =>
      rw [List.nil_append]
      split
      next heq => exact absurd (by rw [heq]; rfl) hpoint
      next => exact hskip
  | @mk digits hdigits =>
      obtain ⟨hne, hall⟩ := areDigits_iff.1 hdigits
      obtain ⟨htakeDigits, hdropDigits⟩ := span_digits hall htake
      rw [List.cons_append]
      show (if ((digits ++ (exponent ++ rest)).takeWhile Char.isDigit).isEmpty then _
        else skipExponent ((digits ++ (exponent ++ rest)).dropWhile Char.isDigit)) = _
      rw [htakeDigits, hdropDigits, hne, if_neg Bool.false_ne_true, hskip]

/-- The first character of a number is a sign or a digit. -/
theorem NumberText.skipScalar_eq {text : List Char} (h : NumberText text) :
    ∃ c cs, text = c :: cs ∧
    isBlank c = false ∧ c ∉ [']', '[', '\x7B'] ∧
      ∀ {rest : List Char}, endsValue rest = true → skipScalar none c (cs ++ rest) =
        .ok ((), rest) := by
  cases h with
  | @mk sign whole fraction exponent hsign hwhole hfraction hexponent =>
      have hskip {rest : List Char} (hrest : endsValue rest = true) :=
        skipNumber_eq hwhole hfraction hexponent hrest
      simp only [List.mem_cons, List.not_mem_nil, or_false] at hsign
      obtain rfl | rfl := hsign
      · have hwhole' : ∃ c cs, whole = c :: cs ∧ c.isDigit = true := by
          cases hwhole with
          | zero => exact ⟨_, _, rfl, rfl⟩
          | digits hc h =>
              simp only [areDigits_iff, List.all_cons, Bool.and_eq_true] at h
              exact ⟨_, _, rfl, h.2.1⟩
        obtain ⟨c, cs, rfl, hc⟩ := hwhole'
        refine ⟨c, cs ++ (fraction ++ exponent), rfl, ?_, ?_, fun {rest} hrest => ?_⟩
        · simp [isBlank, ne_of_isDigit hc (d := ' ') rfl, ne_of_isDigit hc (d := '\n') rfl,
            ne_of_isDigit hc (d := '\t') rfl, ne_of_isDigit hc (d := '\r') rfl]
        · simp [ne_of_isDigit hc (d := ']') rfl, ne_of_isDigit hc (d := '[') rfl,
            ne_of_isDigit hc (d := '\x7B') rfl]
        · have hnumber := hskip hrest
          rw [List.cons_append, List.cons_append] at hnumber
          rw [skipScalar, if_neg (ne_of_isDigit hc rfl), if_neg (ne_of_isDigit hc rfl),
            if_pos hc, hnumber]
          rfl
      · refine ⟨'-', whole ++ (fraction ++ exponent), rfl, rfl, by decide, fun {rest} hrest => ?_⟩
        show (skipNumber _).map _ = _
        rw [hskip hrest]
        rfl

/-! ## Values that are skipped -/

theorem Quotes.denotes_skipLevels {text : List Char} (h : Quotes (skipText none) text "")
    (levels : Nat) :
    Denotes (skipLevels none levels) text () := by
  obtain ⟨body, rfl, hread⟩ := h
  refine ⟨rfl, fun hrest hcs => ?_⟩
  unfold skipLevels
  simp only [hcs, List.cons_append]
  show (skipText none _).map _ = _
  rw [hread]
  rfl

theorem NumberText.denotes {text : List Char} (h : NumberText text) (levels : Nat) :
    Denotes (skipLevels none levels) text () := by
  obtain ⟨c, cs, rfl, hblank, hc, hskip⟩ := h.skipScalar_eq
  simp only [List.mem_cons, List.not_mem_nil, or_false, not_or] at hc
  refine ⟨by simp [startsValue, hblank, hc.1], fun hrest hcs => ?_⟩
  unfold skipLevels
  simp only [hcs, List.cons_append, if_neg hc.2.1, if_neg hc.2.2, hskip hrest]

theorem denotes_word {word : String} (h : word ∈ ["null", "true", "false"]) (levels : Nat) :
    Denotes (skipLevels none levels) word.toList () := by
  simp only [List.mem_cons, List.not_mem_nil, or_false] at h
  obtain rfl | rfl | rfl :=
    h <;> refine ⟨rfl, fun hrest hcs => ?_⟩ <;> unfold skipLevels <;> rw [hcs] <;> rfl

/-- An array is skipped if its elements are. -/
theorem denotes_skipLevels_arr {levels : Nat} {text : List Char} {items : List Unit}
    (h : ItemsText (Denotes (skipLevels none levels)) true text items) :
    Denotes (skipLevels none (levels + 1)) ('[' :: text) () where
  starts := rfl
  read_eq hrest hcs := by
    unfold skipLevels
    simp only [hcs, List.cons_append, if_true, h.readItems_eq (length_lt_append _ _)]
    rfl

/-- An object is skipped if its keys and the values of its members are. -/
theorem denotes_skipLevels_obj {levels : Nat} {text : List Char} {ms : List (String × Unit)}
    (h : MembersText (Quotes (skipText none)) (Denotes (skipLevels none levels)) true text ms) :
    Denotes (skipLevels none (levels + 1)) ('\x7B' :: text) () where
  starts := rfl
  read_eq hrest hcs := by
    unfold skipLevels
    simp only [hcs, List.cons_append, if_true, h.readMembers_eq (length_lt_append _ _)]
    rfl

mutual

/-- Any value is skipped with a level for each character of its text. -/
theorem AnyText.denotes_skipLevels : ∀ {text : List Char} {levels : Nat}, AnyText text →
    text.length ≤ levels → Denotes (skipLevels none levels) text ()
  | _, _, .word h, _ => denotes_word h _
  | _, _, .number h, _ => h.denotes _
  | _, _, .string h, _ => h.quotes.denotes_skipLevels _
  | _, 0, .array _, hlength => absurd hlength (by simp)
  | _, _ + 1, .array h, hlength =>
      denotes_skipLevels_arr (h.denotes_any (Nat.le_of_succ_le_succ hlength))
  | _, 0, .object _, hlength => absurd hlength (by simp)
  | _, _ + 1, .object h, hlength => by
      obtain ⟨ms, hms⟩ := h.denotes_any (Nat.le_of_succ_le_succ hlength)
      exact denotes_skipLevels_obj hms

theorem ItemsText.denotes_any :
    ∀ {first : Bool} {text : List Char} {items : List Unit} {levels : Nat},
    ItemsText (fun text _ => AnyText text) first text items → text.length ≤ levels →
      ItemsText (Denotes (skipLevels none levels)) first text items
  | _, _, _, _, .close hb, _ => .close hb
  | _, _, _, _, .item hseparator htext htail, hlength => by
      simp only [List.length_append] at hlength
      exact .item hseparator (htext.denotes_skipLevels (by omega)) (htail.denotes_any (by omega))

/-- The keys of an object that is skipped are taken for the empty one. -/
theorem MembersText.denotes_any :
    ∀ {first : Bool} {text : List Char} {ms : List (String × Unit)} {levels : Nat},
    MembersText (fun text _ => AnyStringText text) (fun text _ => AnyText text) first text ms →
      text.length ≤ levels →
      ∃ ms', MembersText (Quotes (skipText none)) (Denotes (skipLevels none levels)) first text ms'
  | _, _, _, _, .close hb, _ => ⟨_, .close hb⟩
  | _, _, _, levels,
    @MembersText.member _ _ _ _ _ _ _ _ tail _ _ _ hseparator hkey hcolon htext htail, hlength =>
      by
      simp only [List.length_append] at hlength
      have htailLength : tail.length ≤ levels := by omega
      obtain ⟨ms, hms⟩ := htail.denotes_any htailLength
      exact ⟨_, .member hseparator hkey.quotes hcolon (htext.denotes_skipLevels (by omega)) hms⟩

end

/-- Any value is skipped. -/
theorem AnyText.denotes {text : List Char} (h : AnyText text) :
    Denotes (skipValue none) text () where
  starts := (h.denotes_skipLevels (Nat.le_refl _)).starts
  read_eq {rest cs} hrest hcs := by
    have hlength : text.length ≤ cs.length := by
      have hskipped : (skipBlank cs).length ≤ cs.length := (List.dropWhile_sublist _).length_le
      rw [hcs, List.length_append] at hskipped
      omega
    exact (h.denotes_skipLevels hlength).read_eq hrest hcs

end PathRouter.Json

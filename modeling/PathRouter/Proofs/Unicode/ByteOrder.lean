/-!
# The order of the bytes of a text

Texts are compared by their code points.  Comparing their bytes in UTF-8 comes to the same: the
first byte of a character tells how many bytes it takes and rises with their number, and the other
bytes hold the digits of its code in base 64.

* `encode_append_lt` — the bytes of two characters are in the order of the characters, whatever
  comes after them;
* `utf8Bytes_lt_iff` — the bytes of two texts are in the order of the texts.
-/

namespace PathRouter

/-- The bytes of a text in UTF-8. -/
def utf8Bytes (s : String) : List UInt8 :=
  s.toUTF8.data.toList

theorem utf8Bytes_eq (s : String) : utf8Bytes s = s.toList.flatMap String.utf8EncodeChar := by
  rw [utf8Bytes, String.toUTF8, ← String.utf8Encode_toList, List.utf8Encode, List.data_toByteArray]

/-! ## Characters -/

theorem div_4096 (n : Nat) : n / 4096 = n / 64 / 64 := by
  rw [Nat.div_div_eq_div_mul]

theorem div_262144 (n : Nat) : n / 262144 = n / 64 / 64 / 64 := by
  rw [Nat.div_div_eq_div_mul, Nat.div_div_eq_div_mul]

/-- The bytes of a character are before those of a character with a higher code, whatever comes
after them. -/
theorem encode_append_lt {c d : Char} (h : c < d) (bytes bytes' : List UInt8) :
    String.utf8EncodeChar c ++ bytes < String.utf8EncodeChar d ++ bytes' := by
  have hlt : c.val.toNat < d.val.toNat := h
  have hvalid := d.valid
  simp only [UInt32.isValidChar, Nat.isValidChar] at hvalid
  simp only [String.utf8EncodeChar]
  generalize c.val.toNat = m at *
  generalize d.val.toNat = n at *
  -- a case for each number of bytes of the two characters; in each of them the bytes are compared
  -- one by one
  repeat' split
  all_goals simp only [List.cons_append, List.nil_append, List.cons_lt_cons_iff,
    UInt8.lt_iff_toNat_lt, ← UInt8.toNat_inj, UInt8.toNat_ofNat', div_4096, div_262144]
  all_goals simp (disch := omega) only [Nat.mod_eq_of_lt]
  all_goals omega

/-! ## Texts -/

theorem flatMap_encode_lt {cs ds : List Char} (h : cs < ds) :
    cs.flatMap String.utf8EncodeChar < ds.flatMap String.utf8EncodeChar := by
  induction h with
  | @nil d ds =>
      obtain ⟨byte, bytes, hbytes⟩ :=
        List.exists_cons_of_ne_nil (String.utf8EncodeChar_ne_nil (c := d))
      rw [List.flatMap_nil, List.flatMap_cons, hbytes]
      exact List.nil_lt_cons _ _
  | rel hlt => exact encode_append_lt hlt _ _
  | cons _ ih => exact List.append_left_lt ih

/-- The bytes of two texts are in the order of the texts. -/
theorem utf8Bytes_lt_iff {s t : String} : utf8Bytes s < utf8Bytes t ↔ s < t := by
  have himp {s t : String} (h : s < t) : utf8Bytes s < utf8Bytes t := by
    rw [utf8Bytes_eq, utf8Bytes_eq]
    exact flatMap_encode_lt h
  refine ⟨fun h => Classical.byContradiction fun hlt => ?_, himp⟩
  by_cases heq : s = t
  · exact List.lt_irrefl _ (heq ▸ h)
  · exact List.lt_asymm h (himp (Std.lt_of_le_of_ne (String.not_lt.1 hlt) (Ne.symm heq)))

end PathRouter

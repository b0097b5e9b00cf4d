import CloudLift.Text.Utf8

/-!
# Reading what was encoded

The bytes of a text are the bytes of its characters, one after the other, and reading
them gives the text back.  The reader looks at one sequence at a time, so the work is in
`first_utf8EncodeChar`: of the bytes of a character and whatever follows them, the reader
takes the character and leaves the rest.
-/

namespace CloudLift.Text.Utf8

/-! ## Leads -/

theorem Lead.ofByte?_of_lt_80 {n : Nat} (hn : n < 0x80) :
    Lead.ofByte? (UInt8.ofNat n) = some ⟨0, 0, 0, n⟩ := by
  have hval : (UInt8.ofNat n).toNat = n :=
    UInt8.toNat_ofNat_of_lt' (Nat.lt_trans hn (by decide))
  simp only [Lead.ofByte?, hval]
  rw [if_pos hn]

theorem Lead.ofByte?_of_lt_E0 {n : Nat} (hlow : 0xC2 ≤ n) (hhigh : n < 0xE0) :
    Lead.ofByte? (UInt8.ofNat n) = some ⟨1, 0x80, 0xBF, n - 0xC0⟩ := by
  have hval : (UInt8.ofNat n).toNat = n :=
    UInt8.toNat_ofNat_of_lt' (Nat.lt_trans hhigh (by decide))
  simp only [Lead.ofByte?, hval]
  rw [if_neg (by omega), if_neg (by omega), if_pos hhigh]

/-- The range of the second byte of three excludes overlong forms and surrogates. -/
theorem Lead.ofByte?_of_lt_F0 {n : Nat} (hlow : 0xE0 ≤ n) (hhigh : n < 0xF0) :
    Lead.ofByte? (UInt8.ofNat n) =
      some ⟨2, if n = 0xE0 then 0xA0 else 0x80, if n = 0xED then 0x9F else 0xBF,
        n - 0xE0⟩ := by
  have hval : (UInt8.ofNat n).toNat = n :=
    UInt8.toNat_ofNat_of_lt' (Nat.lt_trans hhigh (by decide))
  simp only [Lead.ofByte?, hval]
  rw [if_neg (by omega), if_neg (by omega), if_neg (by omega)]
  by_cases hfirst : n = 0xE0
  · subst n
    rfl
  · by_cases hsurrogate : n = 0xED
    · subst n
      rfl
    · simp [hfirst, hsurrogate, hhigh]

/-- The range of the second byte of four excludes overlong forms and what lies past the
last code point. -/
theorem Lead.ofByte?_of_lt_F5 {n : Nat} (hlow : 0xF0 ≤ n) (hhigh : n < 0xF5) :
    Lead.ofByte? (UInt8.ofNat n) =
      some ⟨3, if n = 0xF0 then 0x90 else 0x80, if n = 0xF4 then 0x8F else 0xBF,
        n - 0xF0⟩ := by
  have hval : (UInt8.ofNat n).toNat = n :=
    UInt8.toNat_ofNat_of_lt' (Nat.lt_trans hhigh (by decide))
  simp only [Lead.ofByte?, hval]
  rw [if_neg (by omega), if_neg (by omega), if_neg (by omega), if_neg (by omega),
    if_neg (by omega), if_neg (by omega)]
  by_cases hfirst : n = 0xF0
  · subst n
    rfl
  · by_cases hlast : n = 0xF4
    · subst n
      rfl
    · have hbelow : n < 0xF4 := by omega
      simp [hfirst, hlast, hbelow]

/-! ## Bytes that follow a lead -/

theorem follow_zero (low high : UInt8) (bits : Nat) (bytes : List UInt8) :
    follow low high bits 0 bytes = (some bits, bytes) := by
  rw [follow]

theorem follow_succ_of_mem_range {low high : UInt8} {b : Nat} (hb : b < 0x100)
    (hlow : low.toNat ≤ b) (hhigh : b ≤ high.toNat) (bits n : Nat)
    (bytes : List UInt8) :
    follow low high bits (n + 1) (UInt8.ofNat b :: bytes) =
      follow 0x80 0xBF (bits * 64 + (b - 0x80)) n bytes := by
  have hval : (UInt8.ofNat b).toNat = b := UInt8.toNat_ofNat_of_lt' hb
  have hrange : (decide (low ≤ UInt8.ofNat b) && decide (UInt8.ofNat b ≤ high)) = true := by
    simp [UInt8.le_iff_toNat_le, hval, hlow, hhigh]
  rw [follow, if_pos hrange, hval]

/-- A byte that continues a sequence carries six bits of the number. -/
theorem follow_succ_mod (bits n v : Nat) (bytes : List UInt8) :
    follow 0x80 0xBF bits (n + 1) (UInt8.ofNat (v % 64 + 0x80) :: bytes) =
      follow 0x80 0xBF (bits * 64 + v % 64) n bytes := by
  have hmod : v % 64 < 64 := Nat.mod_lt _ (by decide)
  have hlow : (0x80 : UInt8).toNat ≤ v % 64 + 0x80 := Nat.le_add_left _ _
  have hhigh : v % 64 + 0x80 ≤ (0xBF : UInt8).toNat := by
    show v % 64 + 0x80 ≤ 0xBF
    omega
  rw [follow_succ_of_mem_range (by omega) hlow hhigh, Nat.add_sub_cancel]

/-! ## One character -/

theorem val_range (c : Char) :
    c.val.toNat < 0xD800 ∨ (0xDFFF < c.val.toNat ∧ c.val.toNat < 0x110000) :=
  c.valid

/-- Of the bytes of a character and what follows them, reading takes the character. -/
theorem first_utf8EncodeChar (c : Char) (rest : List UInt8) :
    ∃ b bytes, String.utf8EncodeChar c ++ rest = b :: bytes ∧
      first b bytes = (some c, rest) := by
  have hrange := val_range c
  have hchar : Char.ofNat c.val.toNat = c := Char.ofNat_toNat c
  generalize hv : c.val.toNat = v at hrange hchar
  unfold String.utf8EncodeChar
  simp only [hv]
  split
  case isTrue hone =>
    simp only [List.cons_append, List.nil_append]
    refine ⟨_, _, rfl, ?_⟩
    rw [first, Lead.ofByte?_of_lt_80 (by omega)]
    simp only [follow_zero, Option.map_some, hchar]
  case isFalse hone =>
    split
    case isTrue htwo =>
      have hvalue : (v / 64 % 32 + 0xC0 - 0xC0) * 64 + v % 64 = v := by omega
      simp only [List.cons_append, List.nil_append]
      refine ⟨_, _, rfl, ?_⟩
      rw [first, Lead.ofByte?_of_lt_E0 (by omega) (by omega)]
      simp only [follow_succ_mod, follow_zero, Option.map_some, hvalue, hchar]
    case isFalse htwo =>
      split
      case isTrue hthree =>
        have hvalue : ((v / 4096 % 16 + 0xE0 - 0xE0) * 64 +
            (v / 64 % 64 + 0x80 - 0x80)) * 64 + v % 64 = v := by omega
        simp only [List.cons_append, List.nil_append]
        refine ⟨_, _, rfl, ?_⟩
        rw [first, Lead.ofByte?_of_lt_F0 (by omega) (by omega)]
        simp only
        rw [follow_succ_of_mem_range (by omega)]
        · simp only [follow_succ_mod, follow_zero, Option.map_some, hvalue, hchar]
        · split <;> simp
          omega
        · split <;> simp <;> omega
      case isFalse hthree =>
        have hvalue : (((v / 262144 % 8 + 0xF0 - 0xF0) * 64 +
            (v / 4096 % 64 + 0x80 - 0x80)) * 64 + v / 64 % 64) * 64 + v % 64 = v := by
          omega
        simp only [List.cons_append, List.nil_append]
        refine ⟨_, _, rfl, ?_⟩
        rw [first, Lead.ofByte?_of_lt_F5 (by omega) (by omega)]
        simp only
        rw [follow_succ_of_mem_range (by omega)]
        · simp only [follow_succ_mod, follow_zero, Option.map_some, hvalue, hchar]
        · split <;> simp
          omega
        · split <;> simp <;> omega

/-! ## Whole texts -/

theorem chars_utf8EncodeChar_append (c : Char) (rest : List UInt8) :
    chars (String.utf8EncodeChar c ++ rest) = some c :: chars rest := by
  obtain ⟨b, bytes, hbytes, hfirst⟩ := first_utf8EncodeChar c rest
  rw [hbytes, chars, hfirst]

theorem chars_flatMap_utf8EncodeChar (cs : List Char) :
    chars (cs.flatMap String.utf8EncodeChar) = cs.map some := by
  induction cs with
  | nil => simp [chars]
  | cons c cs ih => rw [List.flatMap_cons, chars_utf8EncodeChar_append, ih, List.map_cons]

/-- The list of the bytes of an array is built backwards from where the loop stands. -/
private theorem toList_loop_eq (array : ByteArray) (i : Nat) (before : List UInt8) :
    ByteArray.toList.loop array i before = before.reverse ++ array.data.toList.drop i := by
  induction hleft : array.size - i generalizing i before with
  | zero =>
    have hend : ¬ i < array.size := by omega
    have hdrop : array.data.toList.drop i = [] :=
      List.drop_eq_nil_of_le (Nat.le_of_not_lt hend)
    rw [ByteArray.toList.loop, if_neg hend, hdrop, List.append_nil]
  | succ left ih =>
    have hi : i < array.size := by omega
    have hbyte : array.data.toList.drop i = array.get! i :: array.data.toList.drop (i + 1) := by
      have hget : array.get! i = array.data[i] := getElem!_pos array.data i hi
      rw [hget, List.drop_eq_getElem_cons (i := i) hi, Array.getElem_toList]
    rw [ByteArray.toList.loop, if_pos hi, ih (i + 1) _ (by omega), hbyte,
      List.reverse_cons, List.append_assoc]
    rfl

theorem encode_ofList (cs : List Char) :
    encode (String.ofList cs) = cs.flatMap String.utf8EncodeChar := by
  have hbytes : (String.ofList cs).toUTF8 =
      (cs.flatMap String.utf8EncodeChar).toByteArray := rfl
  rw [encode, hbytes, ByteArray.toList, toList_loop_eq,
    List.toList_data_toByteArray]
  rfl

theorem encode_eq_flatMap (s : String) :
    encode s = s.toList.flatMap String.utf8EncodeChar := by
  rw [← encode_ofList, String.ofList_toList]

theorem encode_empty : encode "" = [] := by
  rw [encode_eq_flatMap]
  rfl

theorem mapM_id_map_some {α : Type} (xs : List α) :
    (xs.map some).mapM id = some xs := by
  induction xs with
  | nil => rfl
  | cons x xs ih => simp [ih]

/-- The bytes of a text are read as that text. -/
theorem decode?_encode (s : String) : decode? (encode s) = some s := by
  rw [decode?, encode_eq_flatMap, chars_flatMap_utf8EncodeChar, mapM_id_map_some,
    Option.map_some, String.ofList_toList]

end CloudLift.Text.Utf8

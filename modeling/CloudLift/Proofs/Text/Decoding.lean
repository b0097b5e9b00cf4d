import CloudLift.Proofs.Text.Lines
import CloudLift.Proofs.Text.Lowercase

/-!
# What is read was encoded

Bytes are read as a text exactly if they are the bytes of that text.  One half of this is that
an encoded text is read back.  For the other half a sequence that the reader takes must be the
one sequence that encodes the character: the ranges of its lead leave out the overlong forms.

Lines are read one by one, and the bytes of a source are valid exactly if those of each line
are.  A line feed or a carriage return between two valid parts is a character of its own.
-/

namespace CloudLift.Text.Utf8

/-! ## One sequence -/

/-- The leads of sequences of one, two, three and four bytes. -/
theorem Lead.ofByte?_cases {b : UInt8} {lead : Lead} (hlead : Lead.ofByte? b = some lead) :
    (b.toNat < 0x80 ∧ lead = ⟨0, 0, 0, b.toNat⟩) ∨
    (0xC2 ≤ b.toNat ∧ b.toNat < 0xE0 ∧ lead = ⟨1, 0x80, 0xBF, b.toNat - 0xC0⟩) ∨
    (0xE0 ≤ b.toNat ∧ b.toNat < 0xF0 ∧
      lead = ⟨2, if b.toNat = 0xE0 then 0xA0 else 0x80, if b.toNat = 0xED then 0x9F else 0xBF,
        b.toNat - 0xE0⟩) ∨
    (0xF0 ≤ b.toNat ∧ b.toNat < 0xF5 ∧
      lead = ⟨3, if b.toNat = 0xF0 then 0x90 else 0x80, if b.toNat = 0xF4 then 0x8F else 0xBF,
        b.toNat - 0xF0⟩) := by
  have hbyte : UInt8.ofNat b.toNat = b := UInt8.ofNat_toNat
  rcases Nat.lt_or_ge b.toNat 0x80 with hone | hone
  · have hknown := Lead.ofByte?_of_lt_80 hone
    rw [hbyte, hlead, Option.some.injEq] at hknown
    exact .inl ⟨hone, hknown⟩
  rcases Nat.lt_or_ge b.toNat 0xC2 with hcontinues | htwo
  · unfold Lead.ofByte? at hlead
    rw [if_neg (by omega), if_pos hcontinues] at hlead
    cases hlead
  rcases Nat.lt_or_ge b.toNat 0xE0 with hlast | hthree
  · have hknown := Lead.ofByte?_of_lt_E0 htwo hlast
    rw [hbyte, hlead, Option.some.injEq] at hknown
    exact .inr (.inl ⟨htwo, hlast, hknown⟩)
  rcases Nat.lt_or_ge b.toNat 0xF0 with hlast | hfour
  · have hknown := Lead.ofByte?_of_lt_F0 hthree hlast
    rw [hbyte, hlead, Option.some.injEq] at hknown
    exact .inr (.inr (.inl ⟨hthree, hlast, hknown⟩))
  rcases Nat.lt_or_ge b.toNat 0xF5 with hlast | hpast
  · have hknown := Lead.ofByte?_of_lt_F5 hfour hlast
    rw [hbyte, hlead, Option.some.injEq] at hknown
    exact .inr (.inr (.inr ⟨hfour, hlast, hknown⟩))
  · unfold Lead.ofByte? at hlead
    rw [if_neg (by omega), if_neg (by omega), if_neg (by omega), if_neg (by omega),
      if_neg (by omega), if_neg (by omega), if_neg (by omega), if_neg (by omega),
      if_neg (by omega)] at hlead
    cases hlead

theorem exists_of_follow_succ {low high : UInt8} {bits n v : Nat} {bytes rest : List UInt8}
    (hfollow : follow low high bits (n + 1) bytes = (some v, rest)) :
    ∃ b more, bytes = b :: more ∧ low.toNat ≤ b.toNat ∧ b.toNat ≤ high.toNat ∧
      follow 0x80 0xBF (bits * 64 + (b.toNat - 0x80)) n more = (some v, rest) := by
  cases bytes with
  | nil =>
    rw [follow] at hfollow
    cases hfollow
  | cons b more =>
    rw [follow] at hfollow
    split at hfollow
    case isTrue hrange =>
      rw [Bool.and_eq_true, decide_eq_true_eq, decide_eq_true_eq, UInt8.le_iff_toNat_le,
        UInt8.le_iff_toNat_le] at hrange
      exact ⟨b, more, rfl, hrange.1, hrange.2, hfollow⟩
    case isFalse hrange => cases hfollow

theorem eq_of_follow_zero {low high : UInt8} {bits v : Nat} {bytes rest : List UInt8}
    (hfollow : follow low high bits 0 bytes = (some v, rest)) : v = bits ∧ bytes = rest := by
  rw [follow_zero] at hfollow
  obtain ⟨hv, hrest⟩ := Prod.mk.inj hfollow
  exact ⟨(Option.some.inj hv).symm, hrest⟩

/-- A byte that continues a sequence after the second one. -/
theorem exists_of_follow_continues {bits n v : Nat} {bytes rest : List UInt8}
    (hfollow : follow 0x80 0xBF bits (n + 1) bytes = (some v, rest)) :
    ∃ b more, bytes = b :: more ∧ 0x80 ≤ b.toNat ∧ b.toNat ≤ 0xBF ∧
      follow 0x80 0xBF (bits * 64 + (b.toNat - 0x80)) n more = (some v, rest) :=
  exists_of_follow_succ hfollow

theorem utf8EncodeChar_ofNat {v : Nat} (hvalid : v.isValidChar) :
    String.utf8EncodeChar (Char.ofNat v) =
      if v ≤ 0x7F then [UInt8.ofNat v]
      else if v ≤ 0x7FF then
        [UInt8.ofNat (v / 64 % 32 + 0xC0), UInt8.ofNat (v % 64 + 0x80)]
      else if v ≤ 0xFFFF then
        [UInt8.ofNat (v / 4096 % 16 + 0xE0), UInt8.ofNat (v / 64 % 64 + 0x80),
          UInt8.ofNat (v % 64 + 0x80)]
      else
        [UInt8.ofNat (v / 262144 % 8 + 0xF0), UInt8.ofNat (v / 4096 % 64 + 0x80),
          UInt8.ofNat (v / 64 % 64 + 0x80), UInt8.ofNat (v % 64 + 0x80)] := by
  have hvalue : (Char.ofNat v).val.toNat = v := (Chars.toNat_ofNat v).trans (if_pos hvalid)
  unfold String.utf8EncodeChar
  simp only [hvalue]

theorem ofNat_eq_of_eq_toNat {n : Nat} {b : UInt8} (hn : n = b.toNat) : UInt8.ofNat n = b := by
  rw [hn, UInt8.ofNat_toNat]

section Lead

variable {b : UInt8} {bytes rest : List UInt8} {v : Nat}

theorem eq_utf8EncodeChar_of_follow_one (hlow : 0xC2 ≤ b.toNat) (hhigh : b.toNat < 0xE0)
    (hfollow : follow 0x80 0xBF (b.toNat - 0xC0) 1 bytes = (some v, rest)) :
    b :: bytes = String.utf8EncodeChar (Char.ofNat v) ++ rest := by
  obtain ⟨b1, more, rfl, hlow1, hhigh1, hfollow⟩ := exists_of_follow_continues hfollow
  obtain ⟨hv, rfl⟩ := eq_of_follow_zero hfollow
  rw [utf8EncodeChar_ofNat (.inl (by omega)), if_neg (by omega), if_pos (by omega),
    ofNat_eq_of_eq_toNat (b := b) (by omega), ofNat_eq_of_eq_toNat (b := b1) (by omega)]
  rfl

theorem eq_utf8EncodeChar_of_follow_two (hlow : 0xE0 ≤ b.toNat) (hhigh : b.toNat < 0xF0)
    (hfollow : follow (if b.toNat = 0xE0 then 0xA0 else 0x80)
      (if b.toNat = 0xED then 0x9F else 0xBF) (b.toNat - 0xE0) 2 bytes = (some v, rest)) :
    b :: bytes = String.utf8EncodeChar (Char.ofNat v) ++ rest := by
  obtain ⟨b1, more, rfl, hlow1, hhigh1, hfollow⟩ := exists_of_follow_succ hfollow
  obtain ⟨b2, more, rfl, hlow2, hhigh2, hfollow⟩ := exists_of_follow_continues hfollow
  obtain ⟨hv, rfl⟩ := eq_of_follow_zero hfollow
  -- The second byte lies in its common range, and in a smaller one after the two special leads.
  have hfirst : 0x80 ≤ b1.toNat ∧ (b.toNat = 0xE0 → 0xA0 ≤ b1.toNat) := by
    have hA0 : (0xA0 : UInt8).toNat = 0xA0 := rfl
    have h80 : (0x80 : UInt8).toNat = 0x80 := rfl
    split at hlow1 <;> omega
  have hlast : b1.toNat ≤ 0xBF ∧ (b.toNat = 0xED → b1.toNat ≤ 0x9F) := by
    have h9F : (0x9F : UInt8).toNat = 0x9F := rfl
    have hBF : (0xBF : UInt8).toNat = 0xBF := rfl
    split at hhigh1 <;> omega
  clear hlow1 hhigh1
  have hvalid : v.isValidChar := by
    unfold Nat.isValidChar
    omega
  rw [utf8EncodeChar_ofNat hvalid, if_neg (by omega), if_neg (by omega), if_pos (by omega),
    ofNat_eq_of_eq_toNat (b := b) (by omega), ofNat_eq_of_eq_toNat (b := b1) (by omega),
    ofNat_eq_of_eq_toNat (b := b2) (by omega)]
  rfl

theorem eq_utf8EncodeChar_of_follow_three (hlow : 0xF0 ≤ b.toNat) (hhigh : b.toNat < 0xF5)
    (hfollow : follow (if b.toNat = 0xF0 then 0x90 else 0x80)
      (if b.toNat = 0xF4 then 0x8F else 0xBF) (b.toNat - 0xF0) 3 bytes = (some v, rest)) :
    b :: bytes = String.utf8EncodeChar (Char.ofNat v) ++ rest := by
  obtain ⟨b1, more, rfl, hlow1, hhigh1, hfollow⟩ := exists_of_follow_succ hfollow
  obtain ⟨b2, more, rfl, hlow2, hhigh2, hfollow⟩ := exists_of_follow_continues hfollow
  obtain ⟨b3, more, rfl, hlow3, hhigh3, hfollow⟩ := exists_of_follow_continues hfollow
  obtain ⟨hv, rfl⟩ := eq_of_follow_zero hfollow
  have hfirst : 0x80 ≤ b1.toNat ∧ (b.toNat = 0xF0 → 0x90 ≤ b1.toNat) := by
    have h90 : (0x90 : UInt8).toNat = 0x90 := rfl
    have h80 : (0x80 : UInt8).toNat = 0x80 := rfl
    split at hlow1 <;> omega
  have hlast : b1.toNat ≤ 0xBF ∧ (b.toNat = 0xF4 → b1.toNat ≤ 0x8F) := by
    have h8F : (0x8F : UInt8).toNat = 0x8F := rfl
    have hBF : (0xBF : UInt8).toNat = 0xBF := rfl
    split at hhigh1 <;> omega
  clear hlow1 hhigh1
  have hvalid : v.isValidChar := by
    unfold Nat.isValidChar
    omega
  rw [utf8EncodeChar_ofNat hvalid, if_neg (by omega), if_neg (by omega), if_neg (by omega),
    ofNat_eq_of_eq_toNat (b := b) (by omega), ofNat_eq_of_eq_toNat (b := b1) (by omega),
    ofNat_eq_of_eq_toNat (b := b2) (by omega), ofNat_eq_of_eq_toNat (b := b3) (by omega)]
  rfl

end Lead

theorem exists_lead_of_first {b : UInt8} {bytes rest : List UInt8} {c : Char}
    (hfirst : first b bytes = (some c, rest)) :
    ∃ lead v, Lead.ofByte? b = some lead ∧
      follow lead.low lead.high lead.bits lead.following bytes = (some v, rest) ∧
      c = Char.ofNat v := by
  rw [first] at hfirst
  cases hlead : Lead.ofByte? b with
  | none =>
    rw [hlead] at hfirst
    cases hfirst
  | some lead =>
    rw [hlead] at hfirst
    simp only at hfirst
    cases hfollow : follow lead.low lead.high lead.bits lead.following bytes with
    | mk v? left =>
      rw [hfollow] at hfirst
      cases v? with
      | none => cases hfirst
      | some v =>
        obtain ⟨hc, rfl⟩ := Prod.mk.inj hfirst
        exact ⟨lead, v, rfl, hfollow, (Option.some.inj hc).symm⟩

/-- A sequence that is read as a character is the encoding of that character. -/
theorem eq_utf8EncodeChar_of_first {b : UInt8} {bytes rest : List UInt8} {c : Char}
    (hfirst : first b bytes = (some c, rest)) :
    b :: bytes = String.utf8EncodeChar c ++ rest := by
  obtain ⟨lead, v, hlead, hfollow, rfl⟩ := exists_lead_of_first hfirst
  rcases Lead.ofByte?_cases hlead with ⟨hone, rfl⟩ | ⟨hlow, hhigh, rfl⟩ | ⟨hlow, hhigh, rfl⟩ |
    ⟨hlow, hhigh, rfl⟩
  · obtain ⟨hv, rfl⟩ := eq_of_follow_zero hfollow
    dsimp only at hv
    rw [utf8EncodeChar_ofNat (.inl (by omega)), if_pos (by omega), ofNat_eq_of_eq_toNat hv]
    rfl
  · exact eq_utf8EncodeChar_of_follow_one hlow hhigh hfollow
  · exact eq_utf8EncodeChar_of_follow_two hlow hhigh hfollow
  · exact eq_utf8EncodeChar_of_follow_three hlow hhigh hfollow

/-! ## Whole texts -/

theorem eq_flatMap_of_chars {bytes : List UInt8} {cs : List Char}
    (hchars : chars bytes = cs.map some) : bytes = cs.flatMap String.utf8EncodeChar := by
  induction bytes using chars.induct generalizing cs with
  | case1 =>
    rw [chars] at hchars
    rw [List.map_eq_nil_iff.mp hchars.symm]
    rfl
  | case2 b bytes ih =>
    rw [chars] at hchars
    obtain ⟨c, rest, rfl, hc, hrest⟩ := List.map_eq_cons_iff.mp hchars.symm
    have hfirst : first b bytes = (some c, (first b bytes).2) := by
      rw [hc]
    rw [eq_utf8EncodeChar_of_first hfirst, List.flatMap_cons, ih hrest.symm]

theorem eq_map_some_of_mapM_id {α : Type} {xs? : List (Option α)} {xs : List α}
    (hxs : xs?.mapM id = some xs) : xs? = xs.map some := by
  induction xs? generalizing xs with
  | nil =>
    rw [List.mapM_nil, Option.pure_def, Option.some.injEq] at hxs
    rw [← hxs]
    rfl
  | cons x? xs? ih =>
    rw [List.mapM_cons, Option.bind_eq_bind, Option.bind_eq_some_iff] at hxs
    obtain ⟨x, hx, hrest⟩ := hxs
    obtain ⟨others, hothers, hlist⟩ := Option.bind_eq_some_iff.mp hrest
    rw [Option.pure_def, Option.some.injEq] at hlist
    rw [← hlist, List.map_cons, ← ih hothers]
    exact congrArg (· :: xs?) hx

/-- Bytes are read as a text exactly if they are its encoding. -/
theorem decode?_eq_some_iff {bytes : List UInt8} {text : String} :
    decode? bytes = some text ↔ bytes = encode text := by
  constructor
  · intro hdecode
    rw [decode?, Option.map_eq_some_iff] at hdecode
    obtain ⟨cs, hcs, rfl⟩ := hdecode
    rw [encode_ofList, eq_flatMap_of_chars (eq_map_some_of_mapM_id hcs)]
  · rintro rfl
    exact decode?_encode text

/-! ## Lines of a text -/

theorem encode_append (text other : String) :
    encode (text ++ other) = encode text ++ encode other := by
  rw [encode_eq_flatMap, encode_eq_flatMap, encode_eq_flatMap, String.toList_append,
    List.flatMap_append]

theorem encode_lineFeed : encode "\n" = [lineFeed] := by
  rw [encode_eq_flatMap]
  rfl

theorem encode_return : encode "\r" = [carriageReturn] := by
  rw [encode_eq_flatMap]
  rfl

theorem eq_of_cutLine_none {bytes line : List UInt8}
    (hcut : cutLine bytes = (line, none)) : bytes = line := by
  induction bytes generalizing line with
  | nil => exact (Prod.mk.inj hcut).1
  | cons b bytes ih =>
    rw [cutLine] at hcut
    split at hcut
    case isTrue hb => cases hcut
    case isFalse hb =>
      obtain ⟨hline, hrest⟩ := Prod.mk.inj hcut
      rw [← hline]
      exact congrArg (b :: ·) (ih (Prod.ext rfl hrest))

theorem eq_of_cutLine_some {bytes line rest : List UInt8}
    (hcut : cutLine bytes = (line, some rest)) : bytes = line ++ lineFeed :: rest := by
  induction bytes generalizing line with
  | nil => cases hcut
  | cons b bytes ih =>
    rw [cutLine] at hcut
    split at hcut
    case isTrue hb =>
      cases hcut
      rw [hb]
      rfl
    case isFalse hb =>
      obtain ⟨hline, hrest⟩ := Prod.mk.inj hcut
      rw [← hline, List.cons_append]
      exact congrArg (b :: ·) (ih (Prod.ext rfl hrest))

/-- A carriage return that a line loses was a character of its own. -/
theorem exists_encode_of_dropFinalReturn {line : List UInt8} {text : String}
    (hline : dropFinalReturn line = encode text) : ∃ whole, line = encode whole := by
  rw [dropFinalReturn] at hline
  split at hline
  case isTrue hreturn =>
    have hwhole : line.dropLast ++ [carriageReturn] = line :=
      List.dropLast_append_getLast? carriageReturn hreturn
    exact ⟨text ++ "\r", by rw [← hwhole, hline, encode_append, encode_return]⟩
  case isFalse hother => exact ⟨text, hline⟩

theorem exists_encode_of_lines {bytes : List UInt8} {texts : List String}
    (hlines : lines bytes = texts.map encode) : ∃ text, bytes = encode text := by
  induction hlength : bytes.length using Nat.strongRecOn generalizing bytes texts with
  | ind length ih =>
    cases hcut : cutLine bytes with
    | mk line rest? =>
      cases rest? with
      | none =>
        rw [lines_of_cutLine_none hcut] at hlines
        rw [eq_of_cutLine_none hcut]
        split at hlines
        case isTrue hnil => exact ⟨"", hnil.trans encode_empty.symm⟩
        case isFalse hline =>
          obtain ⟨text, texts, -, htext, -⟩ := List.map_eq_cons_iff.mp hlines.symm
          exact ⟨text, htext.symm⟩
      | some rest =>
        rw [lines_of_cutLine_some hcut] at hlines
        obtain ⟨text, texts, -, htext, hrest⟩ := List.map_eq_cons_iff.mp hlines.symm
        have hshorter : rest.length < length := hlength ▸ length_cutLine_lt hcut
        obtain ⟨whole, hwhole⟩ := exists_encode_of_dropFinalReturn htext.symm
        obtain ⟨after, hafter⟩ := ih rest.length hshorter hrest.symm rfl
        refine ⟨whole ++ "\n" ++ after, ?_⟩
        rw [eq_of_cutLine_some hcut, encode_append, encode_append, ← hwhole, ← hafter,
          encode_lineFeed, List.append_cons]

theorem length_lines_le (bytes : List UInt8) : (lines bytes).length ≤ bytes.length := by
  induction hlength : bytes.length using Nat.strongRecOn generalizing bytes with
  | ind length ih =>
    cases hcut : cutLine bytes with
    | mk line rest? =>
      cases rest? with
      | none =>
        have hline : bytes = line := eq_of_cutLine_none hcut
        rw [lines_of_cutLine_none hcut]
        split
        case isTrue hnil => exact Nat.zero_le length
        case isFalse hline' =>
          have hpos : 0 < line.length := List.length_pos_iff.mpr hline'
          rw [List.length_singleton, ← hlength, hline]
          exact hpos
      | some rest =>
        have hshorter : rest.length < length := hlength ▸ length_cutLine_lt hcut
        rw [lines_of_cutLine_some hcut, List.length_cons]
        exact Nat.lt_of_le_of_lt (ih rest.length hshorter rest rfl) hshorter

theorem eq_map_encode_of_mapM_decode? {lines : List (List UInt8)} {texts : List String}
    (htexts : lines.mapM decode? = some texts) : lines = texts.map encode := by
  induction lines generalizing texts with
  | nil =>
    rw [List.mapM_nil, Option.pure_def, Option.some.injEq] at htexts
    rw [← htexts]
    rfl
  | cons line lines ih =>
    rw [List.mapM_cons, Option.bind_eq_bind, Option.bind_eq_some_iff] at htexts
    obtain ⟨text, htext, hrest⟩ := htexts
    obtain ⟨others, hothers, hlist⟩ := Option.bind_eq_some_iff.mp hrest
    rw [Option.pure_def, Option.some.injEq] at hlist
    rw [← hlist, List.map_cons, ← ih hothers, ← decode?_eq_some_iff.mp htext]

/-- All lines are read as texts exactly if the whole is the encoding of a text, and then they
are the lines of that text. -/
theorem mapM_decode?_lines_eq_some_iff {bytes : List UInt8} {texts : List String} :
    (lines bytes).mapM decode? = some texts ↔
      ∃ text, bytes = encode text ∧ texts = Text.lines text := by
  constructor
  · intro htexts
    obtain ⟨text, rfl⟩ := exists_encode_of_lines (eq_map_encode_of_mapM_decode? htexts)
    rw [mapM_decode?_lines_encode, Option.some.injEq] at htexts
    exact ⟨text, rfl, htexts.symm⟩
  · rintro ⟨text, rfl, rfl⟩
    exact mapM_decode?_lines_encode text

theorem isValidUTF8_toByteArray_iff {bytes : List UInt8} :
    bytes.toByteArray.IsValidUTF8 ↔ ∃ text, bytes = encode text := by
  constructor
  · rintro ⟨cs, hbytes⟩
    refine ⟨String.ofList cs, ?_⟩
    rw [List.utf8Encode, List.toByteArray_inj] at hbytes
    rw [hbytes, encode_ofList]
  · rintro ⟨text, rfl⟩
    rw [encode_eq_flatMap]
    exact ⟨text.toList, rfl⟩

/-- Whether bytes are valid is seen line by line. -/
theorem isValidUTF8_toByteArray_iff_lines {bytes : List UInt8} :
    bytes.toByteArray.IsValidUTF8 ↔ ((lines bytes).mapM decode?).isSome := by
  rw [isValidUTF8_toByteArray_iff, Option.isSome_iff_exists]
  constructor
  · rintro ⟨text, rfl⟩
    exact ⟨Text.lines text, mapM_decode?_lines_encode text⟩
  · rintro ⟨texts, htexts⟩
    obtain ⟨text, hbytes, -⟩ := mapM_decode?_lines_eq_some_iff.mp htexts
    exact ⟨text, hbytes⟩

end CloudLift.Text.Utf8

import CloudLift.Proofs.Text.Encoding

/-!
# The order of texts

Texts are ordered by their code points, and their bytes have the same order: the first byte
of a longer sequence is larger than that of a shorter one, and sequences of one length hold
the digits of the code point, the highest first.  So of two different characters the smaller
one has the smaller byte where their bytes first differ, whatever follows.
-/

namespace CloudLift.Text.Utf8

/-- The first bytes decide the order, or what follows them if they are equal. -/
theorem ofNat_cons_lt {m n : Nat} {bytes others : List UInt8} (hn : n < 0x100) (hle : m ≤ n)
    (hrest : m = n → bytes < others) :
    UInt8.ofNat m :: bytes < UInt8.ofNat n :: others := by
  rw [List.cons_lt_cons_iff]
  rcases Nat.lt_or_eq_of_le hle with hlt | heq
  · left
    rw [UInt8.lt_iff_toNat_lt, UInt8.toNat_ofNat_of_lt' (Nat.lt_trans hlt hn),
      UInt8.toNat_ofNat_of_lt' hn]
    exact hlt
  · exact Or.inr ⟨congrArg UInt8.ofNat heq, hrest heq⟩

theorem ofNat_cons_lt_of_lt {m n : Nat} {bytes others : List UInt8} (hn : n < 0x100)
    (hlt : m < n) : UInt8.ofNat m :: bytes < UInt8.ofNat n :: others :=
  ofNat_cons_lt hn (Nat.le_of_lt hlt) fun heq => absurd heq (Nat.ne_of_lt hlt)

/-- The smaller of two characters has the smaller bytes, whatever follows them. -/
theorem utf8EncodeChar_append_lt {c d : Char} (hlt : c < d) (bytes others : List UInt8) :
    String.utf8EncodeChar c ++ bytes < String.utf8EncodeChar d ++ others := by
  have hval : c.val.toNat < d.val.toNat := hlt
  have hbound := val_range d
  unfold String.utf8EncodeChar
  generalize c.val.toNat = v at hval
  generalize d.val.toNat = w at hval hbound
  simp only
  -- with sequences of two lengths the first bytes differ already
  split
  case isTrue hone =>
    split
    · exact ofNat_cons_lt_of_lt (by omega) (by omega)
    · split
      · exact ofNat_cons_lt_of_lt (by omega) (by omega)
      · split
        · exact ofNat_cons_lt_of_lt (by omega) (by omega)
        · exact ofNat_cons_lt_of_lt (by omega) (by omega)
  case isFalse hone =>
    rw [if_neg (by omega : ¬ w ≤ 127)]
    split
    case isTrue htwo =>
      split
      · exact ofNat_cons_lt (by omega) (by omega) fun _ =>
          ofNat_cons_lt_of_lt (by omega) (by omega)
      · split
        · exact ofNat_cons_lt_of_lt (by omega) (by omega)
        · exact ofNat_cons_lt_of_lt (by omega) (by omega)
    case isFalse htwo =>
      rw [if_neg (by omega : ¬ w ≤ 2047)]
      split
      case isTrue hthree =>
        split
        · exact ofNat_cons_lt (by omega) (by omega) fun _ =>
            ofNat_cons_lt (by omega) (by omega) fun _ =>
              ofNat_cons_lt_of_lt (by omega) (by omega)
        · exact ofNat_cons_lt_of_lt (by omega) (by omega)
      case isFalse hthree =>
        rw [if_neg (by omega : ¬ w ≤ 65535)]
        exact ofNat_cons_lt (by omega) (by omega) fun _ =>
          ofNat_cons_lt (by omega) (by omega) fun _ =>
            ofNat_cons_lt (by omega) (by omega) fun _ =>
              ofNat_cons_lt_of_lt (by omega) (by omega)

theorem flatMap_utf8EncodeChar_lt {cs ds : List Char} (hlt : cs < ds) :
    cs.flatMap String.utf8EncodeChar < ds.flatMap String.utf8EncodeChar := by
  induction cs generalizing ds with
  | nil =>
    cases ds with
    | nil => exact absurd hlt (List.lt_irrefl _)
    | cons d ds =>
      obtain ⟨b, bytes, hbytes, -⟩ :=
        first_utf8EncodeChar d (ds.flatMap String.utf8EncodeChar)
      rw [List.flatMap_cons, hbytes]
      exact List.nil_lt_cons b bytes
  | cons c cs ih =>
    cases ds with
    | nil => exact absurd hlt (List.not_lt_nil _)
    | cons d ds =>
      rw [List.flatMap_cons, List.flatMap_cons]
      rcases List.cons_lt_cons_iff.mp hlt with hchar | ⟨rfl, hrest⟩
      · exact utf8EncodeChar_append_lt hchar _ _
      · exact List.append_left_lt (ih hrest)

/-- The order of texts is the order of their bytes. -/
theorem encode_lt_encode {s t : String} (hlt : s < t) : encode s < encode t := by
  rw [encode_eq_flatMap, encode_eq_flatMap]
  exact flatMap_utf8EncodeChar_lt (String.lt_iff.mp hlt)

end CloudLift.Text.Utf8

import CloudLift.Generate.Shared
import CloudLift.Proofs.Settings.Check
import CloudLift.Proofs.Text.Cut
import CloudLift.Proofs.Text.Lines
import CloudLift.Proofs.Text.Numeral

/-!
# Address blocks

The numbers of an address are accepted as plain decimals only.  The length is read as any
numeral, so a block can have a plus sign or zeros before the decimal of its length.  It is
written in the usual way exactly if it is accepted and its length begins with neither.
-/

namespace CloudLift

theorem Terraform.exists_render_eq_of_mem {header : String} {item : Item} {items : List Item}
    (hitem : item ∈ items) :
    ∃ front back, render header items = front ++ item.render 1 ++ back := by
  obtain ⟨before, after, rfl⟩ := List.append_of_mem hitem
  refine ⟨openLine 0 header ++ renderItems 1 before, renderItems 1 after ++ topClose, ?_⟩
  rw [render, renderItems_append, renderItems]
  simp only [String.append_assoc]

namespace Cidr

open Text.Chars (decimal IsLead)

/-- An address and a length, with something before the decimal of the length. -/
def spelling (a b c d : Nat) (lead : String) (length : Nat) : String :=
  s!"{a}.{b}.{c}.{d}/{lead}{length}"

/-- The block has four numbers of eight bits and a length from 16 to 28, all in plain decimals
but for what stands before the length. -/
def WrittenWith (lead block : String) : Prop :=
  ∃ a b c d length, a ≤ 255 ∧ b ≤ 255 ∧ c ≤ 255 ∧ d ≤ 255 ∧ 16 ≤ length ∧ length ≤ 28 ∧
    block = spelling a b c d lead length

/-! ## Addresses -/

theorem isOctet_decimal {n : Nat} (hn : n ≤ 255) : isOctet (decimal n) = true := by
  have hall : (List.range 256).all (fun n => isOctet (decimal n)) = true := by
    decide +kernel
  exact List.all_eq_true.mp hall n (List.mem_range.mpr (Nat.lt_succ_of_le hn))

theorem isOctet_iff {cs : List Char} : isOctet cs = true ↔ ∃ n, n ≤ 255 ∧ cs = decimal n := by
  constructor
  · intro hoctet
    simp only [isOctet, Bool.and_eq_true, Bool.or_eq_true, List.all_eq_true, decide_eq_true_eq,
      beq_iff_eq, bne_iff_ne] at hoctet
    obtain ⟨⟨⟨hdigits, hlength⟩, hzero⟩, hvalue⟩ := hoctet
    have hne : cs ≠ [] := List.ne_nil_of_length_pos hlength.1
    obtain ⟨zeros, hzeros⟩ := Text.Chars.exists_zeros hne hdigits
    refine ⟨_, hvalue, ?_⟩
    cases zeros with
    | zero => exact hzeros
    | succ zeros =>
      -- The digits begin with a zero and are more than one.
      rw [List.replicate_succ, List.cons_append] at hzeros
      rcases hzero with hone | hhead
      · rw [hzeros, List.length_cons, Nat.succ_inj, List.length_eq_zero_iff] at hone
        exact absurd (List.append_eq_nil_iff.mp hone).2 (Text.Chars.decimal_ne_nil _)
      · rw [hzeros] at hhead
        exact absurd rfl hhead
  · rintro ⟨n, hn, rfl⟩
    exact isOctet_decimal hn

/-- The characters of an address. -/
def addressChars (a b c d : Nat) : List Char :=
  decimal a ++ '.' :: (decimal b ++ '.' :: (decimal c ++ '.' :: decimal d))

theorem notMem_decimal {mark : Char} (hmark : mark.isDigit = false) (n : Nat) :
    mark ∉ decimal n := by
  intro hmem
  exact absurd ((Text.Chars.isDigit_of_mem_decimal hmem).symm.trans hmark) (by decide)

theorem pieces_addressChars (a b c d : Nat) :
    Text.Chars.pieces '.' (addressChars a b c d) = [decimal a, decimal b, decimal c, decimal d] := by
  have hdecimal : ∀ n, Text.Chars.pieces '.' (decimal n) = [decimal n] :=
    fun n => Text.Chars.pieces_of_notMem (notMem_decimal (by decide) n)
  simp only [addressChars, Text.Chars.pieces_append_mark, hdecimal, List.singleton_append]

theorem isAddress_iff {address : String} :
    isAddress address = true ↔ ∃ a b c d, a ≤ 255 ∧ b ≤ 255 ∧ c ≤ 255 ∧ d ≤ 255 ∧
      address.toList = addressChars a b c d := by
  rw [isAddress, Bool.and_eq_true, beq_iff_eq, List.all_eq_true]
  constructor
  · rintro ⟨hlength, hoctets⟩
    match hpieces : Text.Chars.pieces '.' address.toList with
    | [first, second, third, fourth] =>
      rw [hpieces] at hoctets
      obtain ⟨rest, haddress, hrest⟩ := Text.Chars.exists_of_pieces_eq_cons_cons hpieces
      obtain ⟨rest', rfl, hrest'⟩ := Text.Chars.exists_of_pieces_eq_cons_cons hrest
      obtain ⟨rest'', rfl, hrest''⟩ := Text.Chars.exists_of_pieces_eq_cons_cons hrest'
      obtain rfl := Text.Chars.eq_of_pieces_eq_singleton hrest''
      simp only [List.forall_mem_cons, isOctet_iff] at hoctets
      obtain ⟨⟨a, ha, rfl⟩, ⟨b, hb, rfl⟩, ⟨c, hc, rfl⟩, ⟨d, hd, rfl⟩, -⟩ := hoctets
      exact ⟨a, b, c, d, ha, hb, hc, hd, haddress⟩
    | [] => simp [hpieces] at hlength
    | [_] => simp [hpieces] at hlength
    | [_, _] => simp [hpieces] at hlength
    | [_, _, _] => simp [hpieces] at hlength
    | _ :: _ :: _ :: _ :: _ :: _ => simp [hpieces] at hlength
  · rintro ⟨a, b, c, d, ha, hb, hc, hd, haddress⟩
    rw [haddress, pieces_addressChars]
    refine ⟨rfl, ?_⟩
    simp only [List.forall_mem_cons, isOctet_decimal ha, isOctet_decimal hb, isOctet_decimal hc,
      isOctet_decimal hd, true_and]
    exact List.forall_mem_nil _

/-! ## Blocks -/

theorem toList_spelling (a b c d : Nat) (lead : String) (length : Nat) :
    (spelling a b c d lead length).toList =
      addressChars a b c d ++ '/' :: (lead.toList ++ decimal length) := by
  simp [spelling, addressChars, decimal, toString]

/-- The length stands behind the only slash of the block. -/
theorem cutAt?_spelling (a b c d : Nat) (lead : String) (length : Nat) :
    Text.cutAt? '/' (spelling a b c d lead length) =
      some (String.ofList (addressChars a b c d),
        String.ofList (lead.toList ++ decimal length)) := by
  have hslash : '/' ∉ addressChars a b c d := by
    have hdecimal : ∀ n, '/' ∉ decimal n := notMem_decimal (by decide)
    simp [addressChars, hdecimal]
  rw [Text.cutAt?, toList_spelling, Text.Chars.cutAt?_append_mark hslash]
  rfl

theorem defect?_eq_none_iff {block : String} :
    defect? block = none ↔ ∃ address lengthText length,
      Text.cutAt? '/' block = some (address, lengthText) ∧
      Text.numeralBelow? 256 lengthText = some length ∧ (16 ≤ length ∧ length ≤ 28) ∧
      isAddress address = true := by
  unfold defect?
  cases Text.cutAt? '/' block with
  | none => simp
  | some cut =>
    obtain ⟨address, lengthText⟩ := cut
    cases hlength : Text.numeralBelow? 256 lengthText with
    | none => simp [hlength]
    | some length =>
      have hrange : (length < shortest ∨ longest < length) ↔ ¬ (16 ≤ length ∧ length ≤ 28) := by
        rw [shortest, longest]
        omega
      by_cases hin : 16 ≤ length ∧ length ≤ 28
      · by_cases haddress : isAddress address = true <;> simp [hlength, hrange, hin, haddress]
      · simp [hlength, hrange, hin]

/-- A block is accepted exactly if it is written with some lead. -/
theorem defect?_eq_none_iff_written {block : String} :
    defect? block = none ↔ ∃ lead, IsLead lead.toList ∧ WrittenWith lead block := by
  rw [defect?_eq_none_iff]
  constructor
  · rintro ⟨address, lengthText, length, hcut, hlength, hrange, haddress⟩
    obtain ⟨a, b, c, d, ha, hb, hc, hd, hchars⟩ := isAddress_iff.mp haddress
    obtain ⟨-, lead, hlead, htext⟩ := Text.numeralBelow?_eq_some_iff.mp hlength
    obtain ⟨⟨before, after⟩, hfound, hcut⟩ := Option.map_eq_some_iff.mp hcut
    obtain ⟨rfl, rfl⟩ := Prod.mk.inj hcut
    rw [String.toList_ofList] at hchars htext
    refine ⟨String.ofList lead, ?_, a, b, c, d, length, ha, hb, hc, hd, hrange.1, hrange.2, ?_⟩
    · rw [String.toList_ofList]
      exact hlead
    · rw [← String.toList_inj, toList_spelling, String.toList_ofList, ← hchars, ← htext]
      exact (Text.Chars.eq_of_cutAt? hfound).1
  · rintro ⟨lead, hlead, a, b, c, d, length, ha, hb, hc, hd, hshort, hlong, rfl⟩
    refine ⟨_, _, length, cutAt?_spelling a b c d lead length, ?_, ⟨hshort, hlong⟩, ?_⟩
    · rw [Text.numeralBelow?_eq_some_iff, String.toList_ofList]
      exact ⟨by omega, lead.toList, hlead, rfl⟩
    · rw [isAddress_iff, String.toList_ofList]
      exact ⟨a, b, c, d, ha, hb, hc, hd, rfl⟩

/-! ## Plain lengths -/

/-- The text behind the first slash begins with neither a zero nor a plus sign. -/
def PlainLength (block : String) : Prop :=
  ∀ address lengthText, Text.cutAt? '/' block = some (address, lengthText) →
    lengthText.toList.head? ≠ some '0' ∧ lengthText.toList.head? ≠ some '+'

theorem head?_decimal {n : Nat} (hn : n ≠ 0) :
    (decimal n).head? ≠ some '0' ∧ (decimal n).head? ≠ some '+' := by
  cases hdecimal : decimal n with
  | nil => exact absurd hdecimal (Text.Chars.decimal_ne_nil n)
  | cons c cs =>
    constructor
    · intro hhead
      obtain rfl := Option.some.inj hhead
      cases cs with
      | nil =>
        have hvalue := Text.Chars.numeralFrom_decimal n
        rw [hdecimal] at hvalue
        exact hn hvalue.symm
      | cons d cs => exact absurd hdecimal Text.Chars.decimal_ne_zero_cons
    · intro hhead
      obtain rfl := Option.some.inj hhead
      have hmem : '+' ∈ decimal n := hdecimal ▸ List.mem_cons_self
      exact notMem_decimal (by decide) n hmem

theorem plainLength_spelling_iff {lead : String} (hlead : IsLead lead.toList) {a b c d length : Nat}
    (hlength : length ≠ 0) : PlainLength (spelling a b c d lead length) ↔ lead = "" := by
  have hcut := cutAt?_spelling a b c d lead length
  constructor
  · intro hplain
    obtain ⟨hzero, hplus⟩ := hplain _ _ hcut
    rw [String.toList_ofList] at hzero hplus
    obtain ⟨zeros, hzeros | hzeros⟩ := hlead
    · cases zeros with
      | zero => exact String.toList_eq_nil_iff.mp hzeros
      | succ zeros =>
        rw [hzeros] at hzero
        exact absurd rfl hzero
    · rw [hzeros] at hplus
      exact absurd rfl hplus
  · rintro rfl address lengthText hfound
    obtain ⟨-, rfl⟩ := Prod.mk.inj (Option.some.inj (hcut.symm.trans hfound))
    rw [String.toList_ofList]
    exact head?_decimal hlength

/-- A block in plain decimals is an accepted one with a plain length. -/
theorem writtenWith_empty_iff {block : String} :
    WrittenWith "" block ↔ check block = .ok () ∧ PlainLength block := by
  rw [check_eq_ok_iff, defect?_eq_none_iff_written]
  constructor
  · intro hwritten
    have hlead : IsLead "".toList := ⟨0, .inl rfl⟩
    refine ⟨⟨"", hlead, hwritten⟩, ?_⟩
    obtain ⟨a, b, c, d, length, -, -, -, -, hshort, -, rfl⟩ := hwritten
    exact (plainLength_spelling_iff hlead (by omega)).mpr rfl
  · rintro ⟨⟨lead, hlead, hwritten⟩, hplain⟩
    have hspelling := hwritten
    obtain ⟨a, b, c, d, length, -, -, -, -, hshort, -, rfl⟩ := hspelling
    obtain rfl := (plainLength_spelling_iff hlead (by omega)).mp hplain
    exact hwritten

/-! ## What is written -/

/-- The line of a subnet that names its block. -/
def blockLine (block : String) : String :=
  "\tv4_cidr_blocks = [\"" ++ block ++ "\"]\n"

theorem render_singleton_eq_blockLine (block : String) :
    Terraform.Item.render 1 (.attribute "v4_cidr_blocks" (Terraform.singleton block)) =
      blockLine block := by
  have hopen : "\tv4_cidr_blocks = [\"" =
      Terraform.indent 1 ++ "v4_cidr_blocks" ++ " = " ++ "[" ++ "\"" := by
    decide
  have hclose : "\"]\n" = "\"" ++ "]" ++ "\n" := by
    decide
  unfold blockLine
  rw [hopen, hclose, Terraform.Item.render, Terraform.singleton, Terraform.quote]
  simp only [String.append_assoc]

theorem exists_subnetBlock_eq (settings : Settings) :
    ∃ front back, Generate.subnetBlock settings =
      front ++ blockLine settings.network.cidr ++ back := by
  rw [← render_singleton_eq_blockLine]
  apply Terraform.exists_render_eq_of_mem
  exact List.mem_cons_of_mem _ List.mem_cons_self

/-- A block is accepted exactly if it is in plain decimals but for a plus sign and zeros that may
stand before its length.  The accepted blocks in plain decimals throughout are those without
either.  A subnet has its block as it was accepted. -/
theorem check_accepts_lead (block : String) :
    (check block = .ok () ↔ ∃ lead, IsLead lead.toList ∧ WrittenWith lead block) ∧
      (WrittenWith "" block ↔ check block = .ok () ∧ PlainLength block) ∧
      ∀ settings : Settings, settings.network.cidr = block →
        ∃ front back, Generate.subnetBlock settings = front ++ blockLine block ++ back := by
  refine ⟨?_, writtenWith_empty_iff, ?_⟩
  · rw [check_eq_ok_iff]
    exact defect?_eq_none_iff_written
  · rintro settings rfl
    exact exists_subnetBlock_eq settings

/-- Settings whose block has a sign before its length. -/
def settingsWithSign : Settings :=
  { credentials := ⟨"token", "cloud", "folder", "ru-central1-a"⟩
    network := ⟨"net", "subnet", "10.0.0.0/+24"⟩
    serviceAccounts := .empty }

theorem sign_accepted :
    check "10.0.0.0/+24" = .ok () ∧ ¬ WrittenWith "" "10.0.0.0/+24" ∧
      ∃ front back, Generate.subnetBlock settingsWithSign =
        front ++ blockLine "10.0.0.0/+24" ++ back := by
  have hspec := check_accepts_lead "10.0.0.0/+24"
  have haccepted : check "10.0.0.0/+24" = .ok () := by
    apply hspec.1.mpr
    exact ⟨"+", ⟨0, .inr rfl⟩, 10, 0, 0, 0, 24, by decide, by decide, by decide, by decide,
      by decide, by decide, by decide⟩
  refine ⟨haccepted, ?_, hspec.2.2 settingsWithSign rfl⟩
  intro hwritten
  obtain ⟨-, hplain⟩ := hspec.2.1.mp hwritten
  exact (hplain "10.0.0.0" "+24" (by decide)).2 (by decide)

end Cidr

end CloudLift

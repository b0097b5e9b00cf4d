import CloudLift.Proofs.Generate.Address
import CloudLift.Proofs.Inventory.Enclosure
import CloudLift.Proofs.Text.Margins

/-!
# Labels

The reference of a machine is the third word of the line that declares it, and it stands in
the header of the instance as it was read.  So the label of the declaration is the label of
the instance if the word ends with the quote, that is, if a blank comes before the brace.
Without one the brace is read with the label, and the header has two.

A line with an equals sign declares nothing, even if the sign is in the label.
-/

namespace CloudLift

open Terraform (quote instanceType toList_quote)

namespace Line

/-- The line that declares a machine with a label, with a gap before its brace. -/
def declaration (label gap : String) : String :=
  machineMarker ++ " " ++ quote label ++ gap ++ "\x7b"

/-- The label has no blanks, no quotes and no braces. -/
def IsLabel (label : String) : Prop :=
  ∀ c ∈ label.toList, Text.isBlank c = false ∧ c ∉ ['"', '{', '}']

def IsGap (gap : String) : Prop :=
  ∀ c ∈ gap.toList, Text.isBlank c = true

/-- The line ends by opening a block and has no other brace. -/
def OpensOneBlock (line : String) : Prop :=
  opensBlock line = true ∧ line.toList.count '{' = 1 ∧ '}' ∉ line.toList

instance (label : String) : Decidable (IsLabel label) :=
  List.decidableBAll _ _

instance (gap : String) : Decidable (IsGap gap) :=
  List.decidableBAll _ _

instance (line : String) : Decidable (OpensOneBlock line) :=
  inferInstanceAs (Decidable (_ ∧ _ ∧ _))

/-! ## Declarations -/

/-- The label in quotes, with the brace if nothing stands between the two. -/
def readLabel (label gap : String) : String :=
  if gap = "" then quote label ++ "\x7b" else quote label

section Declaration

variable {label gap : String}

theorem toList_declaration (label gap : String) :
    (declaration label gap).toList = machineMarker.toList ++
      ' ' :: ((quote label).toList ++ (gap.toList ++ ['{'])) := by
  simp [declaration]

theorem isBlank_of_mem_quote (hlabel : IsLabel label) {c : Char} (hc : c ∈ (quote label).toList) :
    Text.isBlank c = false := by
  rw [toList_quote, List.mem_cons, List.mem_append, List.mem_singleton] at hc
  rcases hc with rfl | hc | rfl
  · decide
  · exact (hlabel c hc).1
  · decide

theorem words_machineMarker :
    Text.Chars.words machineMarker.toList =
      ["resource".toList, "\"virtualbox_server\"".toList] := by
  decide +kernel

theorem exists_words_declaration (hlabel : IsLabel label) (hgap : IsGap gap) :
    ∃ rest, Text.Chars.words ((quote label).toList ++ (gap.toList ++ ['{'])) =
      (readLabel label gap).toList :: rest := by
  cases hchars : gap.toList with
  | nil =>
    -- With nothing between them the quote and the brace are in one word.
    have hword : ∀ c ∈ (quote label).toList ++ ['{'], Text.isBlank c = false := by
      intro c hc
      rcases List.mem_append.mp hc with hc | hc
      · exact isBlank_of_mem_quote hlabel hc
      · rw [List.mem_singleton.mp hc]
        decide
    have hread : (readLabel label gap).toList = (quote label).toList ++ ['{'] := by
      rw [readLabel, if_pos (String.toList_eq_nil_iff.mp hchars), String.toList_append]
      rfl
    rw [List.nil_append, hread]
    exact ⟨[], Text.Chars.words_eq_singleton (by simp) hword⟩
  | cons c cs =>
    have hquote : (quote label).toList ≠ [] := by
      rw [toList_quote]
      exact List.cons_ne_nil _ _
    have hc : Text.isBlank c = true := by
      apply hgap c
      rw [hchars]
      exact List.mem_cons_self
    have hread : readLabel label gap = quote label := by
      apply if_neg
      rintro rfl
      cases hchars
    rw [List.cons_append, Text.Chars.words_append_blank hc, hread,
      Text.Chars.words_eq_singleton hquote fun _ hd => isBlank_of_mem_quote hlabel hd]
    exact ⟨_, rfl⟩

theorem reference?_declaration (hlabel : IsLabel label) (hgap : IsGap gap) :
    reference? (declaration label gap) = some (readLabel label gap) := by
  obtain ⟨rest, hrest⟩ := exists_words_declaration hlabel hgap
  rw [reference?, Text.words, toList_declaration,
    Text.Chars.words_append_blank (by decide), words_machineMarker, hrest]
  exact congrArg some String.ofList_toList

theorem namesMachine_declaration (label gap : String) :
    namesMachine (declaration label gap) = true := by
  apply Text.Chars.holds_iff_infix.mpr
  rw [toList_declaration]
  exact (List.prefix_append _ _).isInfix

theorem assignment?_declaration_eq_none_iff (hgap : IsGap gap) :
    assignment? (declaration label gap) = none ↔ '=' ∉ label.toList := by
  have hmarker : '=' ∉ machineMarker.toList := by
    decide
  have hblanks : '=' ∉ gap.toList := by
    intro hmem
    exact absurd (hgap '=' hmem) (by decide)
  rw [assignment?_eq_none_iff, toList_declaration, toList_quote]
  simp [hmarker, hblanks]

theorem declares_declaration_iff (hlabel : IsLabel label) (hgap : IsGap gap) {reference : String} :
    Declares (declaration label gap) reference ↔
      '=' ∉ label.toList ∧ readLabel label gap = reference := by
  rw [Declares, assignment?_declaration_eq_none_iff hgap, reference?_declaration hlabel hgap,
    Option.some.injEq]
  exact and_congr_right fun _ => and_iff_right (namesMachine_declaration label gap)

theorem readLabel_eq_quote_iff : readLabel label gap = quote label ↔ gap ≠ "" := by
  unfold readLabel
  by_cases hgap : gap = ""
  · rw [if_pos hgap]
    apply iff_of_false
    · intro heq
      have hlength := congrArg (fun text => text.toList.length) heq
      simp at hlength
    · exact not_not_intro hgap
  · rw [if_neg hgap]
    exact iff_of_true rfl hgap

end Declaration

end Line

/-! ## What the scan makes of a declaration -/

namespace Inventory

theorem declare_injective (inventory : Inventory) : Function.Injective inventory.declare := by
  intro reference other heq
  have hmachines := congrArg Inventory.machines heq
  have hnamed := List.append_cancel_left hmachines
  exact congrArg Machine.reference (List.head_eq_of_cons_eq hnamed)

end Inventory

namespace Scan

/-- From outside of every block the scan enters a machine exactly at a line that declares it. -/
theorem walk_concat_eq_opened_iff {before : List String} {line reference : String}
    (houtside : (start.walk before).place = .outside) :
    start.walk (before ++ [line]) = opened before reference ↔ Line.Declares line reference := by
  constructor
  · intro heq
    by_cases hdeclares : ∃ other, Line.Declares line other
    · obtain ⟨other, hother⟩ := hdeclares
      rw [walk_opener houtside hother, walk_nil] at heq
      have hinventory := congrArg Scan.inventory heq
      rw [← Inventory.declare_injective _ hinventory]
      exact hother
    · -- Any other line leaves the scan outside or in an adapter.
      have hbefore : start.walk before = ⟨(start.walk before).inventory, .outside⟩ := by
        rw [← houtside]
      rw [walk_append, hbefore, walk_cons, walk_nil] at heq
      have hplace := congrArg Scan.place heq
      by_cases horphan : Line.OpensOrphan line
      · rw [step_opensOrphan horphan] at hplace
        cases hplace
      · rw [step_outside_filler (fun other hother => hdeclares ⟨other, hother⟩) horphan] at hplace
        cases hplace
  · intro hdeclares
    rw [walk_opener houtside hdeclares, walk_nil]

/-- Wherever the declaration stands, the scan after it is in a new machine with the label in
quotes as its reference. -/
def ReadsLabel (label gap : String) : Prop :=
  ∀ before, (start.walk before).place = .outside →
    start.walk (before ++ [Line.declaration label gap]) = opened before (quote label)

theorem readsLabel_iff {label gap : String} (hlabel : Line.IsLabel label) (hgap : Line.IsGap gap) :
    ReadsLabel label gap ↔ '=' ∉ label.toList ∧ gap ≠ "" := by
  have hread : Line.readLabel label gap = quote label ↔ gap ≠ "" := Line.readLabel_eq_quote_iff
  rw [← hread, ← Line.declares_declaration_iff hlabel hgap]
  constructor
  · intro hreads
    have houtside : (start.walk []).place = .outside := rfl
    exact (walk_concat_eq_opened_iff houtside).mp (hreads [] houtside)
  · intro hdeclares before houtside
    exact (walk_concat_eq_opened_iff houtside).mpr hdeclares

/-- The reference of a machine stays, whatever lines come after its declaration. -/
theorem exists_machine_walk_opened (before : List String) (reference : String)
    (lines : List String) :
    ∃ machine : Machine,
      ((opened before reference).walk lines).inventory.machines[slotAfter before]? = some machine ∧
        machine.reference = reference := by
  -- The lines edit the inventory, and edits add references after those that are there.
  obtain ⟨edits, hedits, -⟩ := exists_edits_walk (opened before reference) lines
  have hreferences := Inventory.references_foldl_edit edits (opened before reference).inventory
  rw [← hedits] at hreferences
  have hslot : (((opened before reference).walk lines).inventory.machines.map
      Machine.reference)[slotAfter before]? = some reference := by
    rw [hreferences, opened, Inventory.declare, List.map_append, List.append_assoc, slotAfter,
      Inventory.nextSlot, List.getElem?_append_right (by simp)]
    simp [Machine.named]
  rw [List.getElem?_map] at hslot
  exact Option.map_eq_some_iff.mp hslot

end Scan

/-! ## The header of an instance -/

namespace Generate

/-- The first line of an instance with a label. -/
def instanceLine (label : String) : String :=
  "resource \"yandex_compute_instance\" \"" ++ label ++ "\" \x7b"

theorem header_instanceType (label : String) :
    header instanceType (quote label) = instanceLine label := by
  have hopen : "resource \"yandex_compute_instance\" \"" =
      "resource " ++ ("\"" ++ instanceType ++ "\"") ++ " " ++ "\"" := by
    decide
  have hclose : "\" \x7b" = "\"" ++ " \x7b" := by
    decide
  unfold instanceLine
  rw [hopen, hclose, header, Terraform.resource, quote, quote]
  simp only [String.append_assoc]

theorem opensOneBlock_instanceLine {label : String} (hlabel : Line.IsLabel label) :
    Line.OpensOneBlock (instanceLine label) := by
  have hchars : (instanceLine label).toList =
      "resource \"yandex_compute_instance\" \"".toList ++ (label.toList ++ ['"', ' ', '{']) := by
    unfold instanceLine
    rw [String.append_assoc, String.toList_append, String.toList_append]
    rfl
  have hbrace : ∀ c ∈ ['{', '}'], c ∉ label.toList := by
    intro c hc hmem
    exact (hlabel c hmem).2 (List.mem_cons_of_mem _ hc)
  have hopen : label.toList.count '{' = 0 :=
    List.count_eq_zero.mpr (hbrace '{' (by decide))
  have hclose : '}' ∉ label.toList := hbrace '}' (by decide)
  refine ⟨?_, ?_, ?_⟩
  · have hlast : (instanceLine label).toList.reverse =
        '{' :: ("resource \"yandex_compute_instance\" \"".toList ++
          (label.toList ++ ['"', ' '])).reverse := by
      rw [hchars]
      simp
    rw [Line.opensBlock, Text.Chars.getLast?_trimEnd, hlast, List.find?_cons_of_pos (by decide)]
    rfl
  · rw [hchars, List.count_append, List.count_append, hopen]
    decide
  · rw [hchars, List.mem_append, List.mem_append]
    rintro (hmem | hmem | hmem)
    · exact absurd hmem (by decide)
    · exact hclose hmem
    · exact absurd hmem (by decide)

variable {σ : Type}

/-- The header is the first piece of an instance, if there is room for it. -/
theorem head?_written_singleInstance (catalog : Image.Catalog) (settings : Settings)
    (machine : Machine) (op : Operator σ) (room : Room) (s : σ) :
    ((singleInstance catalog settings machine).run op room s).written.head? =
      (room.after? (instanceHeader machine)).map fun _ => instanceHeader machine := by
  obtain ⟨next, hnext⟩ : ∃ next, singleInstance catalog settings machine =
      .note (.debug s!"Converting virtual machine {machine.reference}")
        (.write (instanceHeader machine) next) :=
    ⟨_, rfl⟩
  rw [hnext, Interaction.run, Interaction.run]
  cases room.after? (instanceHeader machine) with
  | none => rfl
  | some left => rfl

/-- The label of a declaration is read exactly if it has no equals sign and a blank comes before
the brace.  Then the machine has the label in quotes as its reference, whatever else is in the
source, and the header of its instance has the same label and opens one block. -/
theorem declared_label_written (op : Operator σ) (room : Room) (s : σ) {text label gap : String}
    {before after : List String} (hlabel : Line.IsLabel label) (hgap : Line.IsGap gap)
    (htext : Text.lines text = before ++ Line.declaration label gap :: after)
    (houtside : (Scan.start.walk before).place = .outside) :
    (Scan.ReadsLabel label gap ↔ '=' ∉ label.toList ∧ gap ≠ "") ∧
      ('=' ∉ label.toList → gap ≠ "" →
        ∃ inventory machine,
          ((Inventory.read (Text.Utf8.encode text)).run op room s).outcome = .ok inventory ∧
          inventory.machines[Scan.slotAfter before]? = some machine ∧
          machine.reference = quote label ∧
          (∀ catalog settings room s,
            ((singleInstance catalog settings machine).run op room s).written.head? =
              (room.after? (instanceLine label ++ "\n")).map fun _ =>
                instanceLine label ++ "\n") ∧
          Line.OpensOneBlock (instanceLine label)) := by
  have hreads := Scan.readsLabel_iff hlabel hgap
  refine ⟨hreads, ?_⟩
  intro hsign hblank
  have hdeclares : Line.Declares (Line.declaration label gap) (quote label) :=
    (Line.declares_declaration_iff hlabel hgap).mpr
      ⟨hsign, Line.readLabel_eq_quote_iff.mpr hblank⟩
  obtain ⟨machine, hmachine, hreference⟩ :=
    Scan.exists_machine_walk_opened before (quote label) after
  have hheader : instanceHeader machine = instanceLine label ++ "\n" := by
    rw [← header_instanceType, ← hreference]
    exact instanceHeader_eq machine
  refine ⟨_, machine, Inventory.outcome_read_encode op room s text, ?_, hreference, ?_,
    opensOneBlock_instanceLine hlabel⟩
  · rw [htext, Scan.walk_opener houtside hdeclares]
    exact hmachine
  · intro catalog settings room s
    rw [head?_written_singleInstance, hheader]

/-- A source with a machine that is declared after another one. -/
def twoDeclarations : String :=
  "resource \"virtualbox_server\" \"db\" \x7b\n\x7d\n" ++
    "resource \"virtualbox_server\" \"web\"\t \x7b\ncpus = 2\n\x7d\n"

theorem twoDeclarations_label :
    Line.IsLabel "web" ∧ Line.IsGap "\t " ∧
      Text.lines twoDeclarations =
        [Line.declaration "db" " ", "\x7d"] ++ Line.declaration "web" "\t " ::
          ["cpus = 2", "\x7d"] ∧
      (Scan.start.walk [Line.declaration "db" " ", "\x7d"]).place = .outside ∧
      Scan.ReadsLabel "web" "\t " ∧
      ∃ inventory machine,
        ((Inventory.read (Text.Utf8.encode twoDeclarations)).run Operator.scripted none
          []).outcome = .ok inventory ∧
        inventory.machines[1]? = some machine ∧ machine.reference = quote "web" ∧
        ((singleInstance oneImage settingsWithoutAccounts machine).run Operator.scripted none
          []).written.head? = some (instanceLine "web" ++ "\n") := by
  have hlabel : Line.IsLabel "web" := by
    decide
  have hgap : Line.IsGap "\t " := by
    decide
  have htext : Text.lines twoDeclarations =
      [Line.declaration "db" " ", "\x7d"] ++ Line.declaration "web" "\t " ::
        ["cpus = 2", "\x7d"] := by
    decide +kernel
  have houtside : (Scan.start.walk [Line.declaration "db" " ", "\x7d"]).place = .outside := by
    decide +kernel
  obtain ⟨hreads, hwritten⟩ :=
    declared_label_written Operator.scripted none [] hlabel hgap htext houtside
  obtain ⟨inventory, machine, hread, hmachine, hreference, hheader, -⟩ :=
    hwritten (by decide) (by decide)
  have hslot : Scan.slotAfter [Line.declaration "db" " ", "\x7d"] = 1 := by
    decide +kernel
  rw [hslot] at hmachine
  exact ⟨hlabel, hgap, htext, houtside, hreads.mpr ⟨by decide, by decide⟩, inventory, machine,
    hread, hmachine, hreference, hheader oneImage settingsWithoutAccounts none []⟩

/-- The references of the machines in a source. -/
def referencesIn (lines : List String) : List String :=
  (Scan.start.walk lines).inventory.machines.map Machine.reference

/-- A brace next to the label is read with it and opens a second block.  An equals sign in a
label hides the declaration. -/
theorem labels_misread :
    (Line.IsLabel "web" ∧ ¬ Scan.ReadsLabel "web" "" ∧
      referencesIn [Line.declaration "web" ""] = ["\"web\"\x7b"] ∧
      ¬ Line.OpensOneBlock (header instanceType "\"web\"\x7b")) ∧
    Line.IsLabel "a=b" ∧ Line.IsGap " " ∧ ¬ Scan.ReadsLabel "a=b" " " ∧
      referencesIn [Line.declaration "a=b" " "] = [] := by
  have hweb : Line.IsLabel "web" := by
    decide
  have hsigned : Line.IsLabel "a=b" := by
    decide
  have hgap : Line.IsGap " " := by
    decide
  refine ⟨⟨hweb, ?_, by decide +kernel, by decide +kernel⟩, hsigned, hgap, ?_, by decide +kernel⟩
  · intro hreads
    exact ((Scan.readsLabel_iff hweb (by decide)).mp hreads).2 rfl
  · intro hreads
    exact ((Scan.readsLabel_iff hsigned hgap).mp hreads).1 (by decide)

end Generate

end CloudLift

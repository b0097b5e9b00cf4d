import CloudLift.Operator.Scripted
import CloudLift.Conversion.Source
import CloudLift.Proofs.Files.Entries
import CloudLift.Proofs.Operator.Terminal
import CloudLift.Proofs.Text.Order

/-!
# The choice of a source

The candidates for a source are told from the entries of a directory by their names alone,
and they are put in the order of the bytes of their names.  So the choice does not depend on
how the disk lists its nodes, and what is shown at a number is what that number takes.

Since only names are looked at, the output excludes every entry with its name and not just
itself.  The two agree as long as no other file in the directory has the name of the output.
-/

namespace CloudLift

/-! ## Names in order -/

theorem pairwise_le_mergeSort (names : List String) :
    (names.mergeSort fun a b => decide (a ≤ b)).Pairwise (· ≤ ·) := by
  have htrans (a b c : String) (hab : decide (a ≤ b) = true) (hbc : decide (b ≤ c) = true) :
      decide (a ≤ c) = true :=
    decide_eq_true (String.le_trans (of_decide_eq_true hab) (of_decide_eq_true hbc))
  have htotal (a b : String) : (decide (a ≤ b) || decide (b ≤ a)) = true := by
    simpa using String.le_total a b
  exact (List.pairwise_mergeSort htrans htotal names).imp of_decide_eq_true

theorem mergeSort_eq_of_perm {names others : List String} (hperm : names.Perm others) :
    (names.mergeSort fun a b => decide (a ≤ b)) = others.mergeSort fun a b => decide (a ≤ b) := by
  apply List.Perm.eq_of_pairwise (fun a b _ _ => String.le_antisymm)
    (pairwise_le_mergeSort names) (pairwise_le_mergeSort others)
  exact (List.mergeSort_perm _ _).trans (hperm.trans (List.mergeSort_perm _ _).symm)

theorem pairwise_encode_lt_mergeSort {names : List String} (hnodup : names.Nodup) :
    (names.mergeSort fun a b => decide (a ≤ b)).Pairwise fun a b =>
      Text.Utf8.encode a < Text.Utf8.encode b := by
  have hsorted : (names.mergeSort fun a b => decide (a ≤ b)).Nodup :=
    (List.mergeSort_perm _ _).nodup_iff.mpr hnodup
  refine ((pairwise_le_mergeSort names).and hsorted).imp ?_
  intro a b h
  apply Text.Utf8.encode_lt_encode
  rw [← String.not_le]
  intro hle
  exact h.2 (String.le_antisymm h.1 hle)

namespace Request

variable {request : Request} {disk other : Disk} {entries names : List String} {name : String}

/-! ## Candidates -/

/-- The path of the entry has the extension of a configuration, and the output's path has
another file name. -/
structure IsCandidate (request : Request) (name : String) : Prop where
  extension : (request.directory.child name).extension? = some "tf"
  fileName : (request.directory.child name).fileName? ≠ request.output.fileName?

instance (request : Request) (name : String) : Decidable (request.IsCandidate name) :=
  decidable_of_iff
    ((request.directory.child name).extension? = some "tf" ∧
      (request.directory.child name).fileName? ≠ request.output.fileName?)
    ⟨fun h => ⟨h.1, h.2⟩, fun h => ⟨h.extension, h.fileName⟩⟩

theorem text_ne_empty_of_list (hlist : disk.list request.directory = .ok entries) :
    request.directory.text ≠ "" := by
  obtain ⟨location, hlocate, -⟩ := except_bind_eq_ok_iff.mp hlist
  exact (Disk.locate_eq_ok_iff.mp hlocate).1

theorem accepts_iff (hdirectory : request.directory.text ≠ "") (hname : Disk.IsName name) :
    request.accepts name = true ↔ request.IsCandidate name := by
  have hchild := Path.fileName?_child hdirectory hname
  rw [accepts, Bool.and_eq_true, beq_iff_eq, bne_iff_ne, ← Path.extension?_child hdirectory hname,
    ← hchild]
  constructor
  · exact fun h => ⟨h.1, h.2.symm⟩
  · exact fun h => ⟨h.extension, h.fileName.symm⟩

theorem candidates_of_list (hdisk : disk.WellFormed)
    (hlist : disk.list request.directory = .ok entries) :
    ∃ names, request.candidates disk = .ok names ∧
      (∀ name, name ∈ names ↔ name ∈ entries ∧ request.IsCandidate name) ∧
      names.Pairwise fun a b => Text.Utf8.encode a < Text.Utf8.encode b := by
  refine ⟨(entries.filter request.accepts).mergeSort fun a b => decide (a ≤ b), ?_, ?_, ?_⟩
  · rw [candidates, hlist]
    rfl
  · intro name
    rw [List.mem_mergeSort, List.mem_filter]
    apply and_congr_right
    intro hmem
    exact accepts_iff (text_ne_empty_of_list hlist) (hdisk.isName_of_list hlist hmem)
  · exact pairwise_encode_lt_mergeSort ((hdisk.nodup_of_list hlist).filter _)

theorem candidates_eq_of_reorders (hdisk : disk.WellFormed) (hreorders : disk.Reorders other) :
    request.candidates other = request.candidates disk := by
  rcases hreorders.list_perm hdisk request.directory with
    ⟨fault, hlist, hother⟩ | ⟨names, others, hlist, hother, hperm⟩
  · rw [candidates, candidates, hlist, hother]
  · rw [candidates, candidates, hlist, hother]
    exact congrArg Except.ok (mergeSort_eq_of_perm (hperm.symm.filter _))

/-! ## Selection -/

/-- What selecting one of the names comes to with the answers of a list. -/
structure Selects (request : Request) (names answers : List String)
    (run : Run (List String) Path) : Prop where
  calls : run.calls = if 2 ≤ names.length then [.choose sourceQuestion names] else []
  nothing : names = [] → run.outcome = .error (.noSourceFile request.directory.text)
  only : ∀ name, names = [name] → run.outcome = .ok (request.directory.child name)
  chosen : ∀ answer later number, answers = answer :: later →
    Text.numeralBelow? Text.wordBound answer = some number →
    ∀ hrange : 1 ≤ number ∧ number ≤ names.length, 2 ≤ names.length →
      run.outcome = .ok (request.directory.child names[number - 1])
  refused : ∀ answer later, answers = answer :: later →
    (∀ number, Text.numeralBelow? Text.wordBound answer = some number →
      ¬ (1 ≤ number ∧ number ≤ names.length)) → 2 ≤ names.length →
      run.outcome = .error (.notAChoice answer sourceQuestion)
  unanswered : answers = [] → 2 ≤ names.length →
    run.outcome = .error (.noAnswer sourceQuestion)

theorem selectAmong_of_two_le (hnames : 2 ≤ names.length) :
    request.selectAmong names =
      .choose sourceQuestion names fun choice =>
        match names[choice]? with
        | some name => .done (request.directory.child name)
        | none => .fail (.noSuchOption choice sourceQuestion) := by
  match names, hnames with
  | first :: second :: rest, _ => rfl

theorem selects_of_length_lt (hnames : names.length < 2) (answers : List String) (room : Room) :
    request.Selects names answers
      ((request.selectAmong names).run Operator.scripted room answers) := by
  have hnot {p : Prop} (htwo : 2 ≤ names.length) : p := absurd htwo (Nat.not_le.mpr hnames)
  constructor
  case calls =>
    rw [if_neg (Nat.not_le.mpr hnames)]
    match names, hnames with
    | [], _ => rfl
    | [name], _ => rfl
  case nothing =>
    rintro rfl
    rfl
  case only =>
    rintro name rfl
    rfl
  case chosen => exact fun _ _ _ _ _ _ htwo => hnot htwo
  case refused => exact fun _ _ _ _ htwo => hnot htwo
  case unanswered => exact fun _ htwo => hnot htwo

theorem selects_of_two_le (hnames : 2 ≤ names.length) (answers : List String) (room : Room) :
    request.Selects names answers
      ((request.selectAmong names).run Operator.scripted room answers) := by
  rw [selectAmong_of_two_le hnames]
  constructor
  case calls =>
    rw [if_pos hnames]
    cases answers with
    | nil => rfl
    | cons answer later =>
      simp only [Interaction.run, Operator.scripted]
      cases hchoice : choice? names.length answer with
      | none => rfl
      | some choice =>
        dsimp only
        rw [List.getElem?_eq_getElem (choice?_lt hchoice)]
        rfl
  case nothing =>
    rintro rfl
    exact absurd hnames (by decide)
  case only =>
    rintro name rfl
    exact absurd hnames (by simp)
  case chosen =>
    rintro answer later number rfl hnumber hrange -
    have hindex : number - 1 < names.length := by omega
    simp only [Interaction.run, Operator.scripted, choice?_of_range hnumber hrange,
      List.getElem?_eq_getElem hindex]
  case refused =>
    rintro answer later rfl hnone -
    simp only [Interaction.run, Operator.scripted, choice?_eq_none hnone]
  case unanswered =>
    rintro rfl -
    rfl

theorem selectSource_of_candidates (hsource : request.source = none)
    (hcandidates : request.candidates disk = .ok names) :
    request.selectSource disk = request.selectAmong names := by
  rw [selectSource, hsource, hcandidates]

def lookingIn (directory output : Path) : Request :=
  ⟨none, directory, output, none, none, .nothing, .nothing⟩

def twoConfigurations : Disk :=
  ⟨[(["b.tf"], .file []), (["a.tf"], .file [])], []⟩

/-- The entry is a file, and the output's path designates it. -/
structure IsOutput (request : Request) (disk : Disk) (name : String) : Prop where
  file : disk.isFile (request.directory.child name) = true
  located : disk.locate (request.directory.child name) = disk.locate request.output

/-- The output's path ends in the name of the entry that it designates. -/
theorem IsOutput.fileName? (houtput : request.IsOutput disk name) (hdisk : disk.WellFormed)
    (hlist : disk.list request.directory = .ok entries) (hname : name ∈ entries) :
    request.output.fileName? = some name := by
  obtain ⟨location, node, hlocate, hdirectory, -⟩ := Disk.mem_of_list hlist hname
  have hchild : disk.locate (request.directory.child name) = .ok (location ++ [name]) :=
    Disk.locate_child hlocate hdirectory (hdisk.isName_of_list hlist hname)
  obtain ⟨found, bytes, hfound, hfile⟩ := Disk.isFile_eq_true_iff.mp houtput.file
  obtain rfl := Except.ok.inj (hchild.symm.trans hfound)
  have hnode : disk.node? (location ++ [name]) ≠ some .directory := by
    rw [hfile]
    simp
  obtain ⟨front, parent, last, hsteps, hlocation, -, hlast⟩ :=
    hdisk.exists_name (houtput.located.symm.trans hchild) hnode
  obtain ⟨-, rfl⟩ := List.append_inj' hlocation rfl |>.imp_right List.singleton_inj.mp
  exact Path.fileName?_of_steps hsteps hlast

/-- The output itself is never offered, but neither is an entry that only has its file name.
The candidates are all the configurations of the directory but the output exactly if the
output is the only one of them with its file name. -/
theorem candidates_all_but_output_iff (hsource : request.source = none)
    (hdisk : disk.WellFormed) (hlist : disk.list request.directory = .ok entries) :
    ∃ names, request.selectSource disk = request.selectAmong names ∧
      (∀ name, name ∈ names ↔ name ∈ entries ∧ request.IsCandidate name) ∧
      (∀ name, request.IsOutput disk name → name ∉ names) ∧
      ((∀ name, name ∈ names ↔ name ∈ entries ∧
          (request.directory.child name).extension? = some "tf" ∧
          ¬ request.IsOutput disk name) ↔
        ∀ name ∈ entries, (request.directory.child name).extension? = some "tf" →
          request.output.fileName? = some name → request.IsOutput disk name) := by
  obtain ⟨names, hcandidates, hmem, -⟩ := candidates_of_list hdisk hlist
  have hfileName (name : String) (hname : name ∈ entries) :
      (request.directory.child name).fileName? = some name :=
    Path.fileName?_child (text_ne_empty_of_list hlist) (hdisk.isName_of_list hlist hname)
  have hexcluded (name : String) (houtput : request.IsOutput disk name) : name ∉ names := by
    intro hname
    obtain ⟨hentry, hcandidate⟩ := (hmem name).mp hname
    apply hcandidate.fileName
    rw [hfileName name hentry, houtput.fileName? hdisk hlist hentry]
  refine ⟨names, selectSource_of_candidates hsource hcandidates, hmem, hexcluded, ?_⟩
  constructor
  · intro hall name hname hextension hsame
    by_contra hother
    have hoffered : name ∈ names := (hall name).mpr ⟨hname, hextension, hother⟩
    apply ((hmem name).mp hoffered).2.fileName
    rw [hfileName name hname, hsame]
  · intro honly name
    rw [hmem]
    apply and_congr_right
    intro hname
    constructor
    · intro hcandidate
      exact ⟨hcandidate.extension, fun houtput =>
        hexcluded name houtput ((hmem name).mpr ⟨hname, hcandidate⟩)⟩
    · rintro ⟨hextension, hother⟩
      refine ⟨hextension, ?_⟩
      intro hsame
      rw [hfileName name hname] at hsame
      exact hother (honly name hname hextension hsame.symm)

/-- A configuration below the working directory that has the name of the output. -/
def namesake : Disk :=
  ⟨[(["vms"], .directory), (["vms", "yandex_cloud.tf"], .file [])], []⟩

/-- It is hidden, although the output would be elsewhere. -/
theorem namesake_is_hidden :
    (lookingIn ⟨"vms"⟩ ⟨"yandex_cloud.tf"⟩).source = none ∧ namesake.WellFormed ∧
      namesake.list ⟨"vms"⟩ = .ok ["yandex_cloud.tf"] ∧
      namesake.isFile ⟨"vms/yandex_cloud.tf"⟩ = true ∧
      ¬ (lookingIn ⟨"vms"⟩ ⟨"yandex_cloud.tf"⟩).IsOutput namesake "yandex_cloud.tf" ∧
      (lookingIn ⟨"vms"⟩ ⟨"yandex_cloud.tf"⟩).selectSource namesake =
        .fail (.noSourceFile "vms") := by
  have hdisk : namesake.WellFormed := by
    decide +kernel
  have hlist : namesake.list ⟨"vms"⟩ = .ok ["yandex_cloud.tf"] := rfl
  have hother : ¬ (lookingIn ⟨"vms"⟩ ⟨"yandex_cloud.tf"⟩).IsOutput namesake
      "yandex_cloud.tf" := by
    intro houtput
    have hlocated := houtput.located
    revert hlocated
    decide +kernel
  have hsource : (lookingIn ⟨"vms"⟩ ⟨"yandex_cloud.tf"⟩).source = none := rfl
  obtain ⟨names, hselect, hmem, -, -⟩ := candidates_all_but_output_iff hsource hdisk hlist
  have hnames : names = [] := by
    rw [List.eq_nil_iff_forall_not_mem]
    intro name hname
    obtain ⟨hentry, hcandidate⟩ := (hmem name).mp hname
    obtain rfl := List.mem_singleton.mp hentry
    apply hcandidate.fileName
    decide +kernel
  refine ⟨hsource, hdisk, hlist, by decide +kernel, hother, ?_⟩
  rw [hselect, hnames]
  rfl

end Request

end CloudLift

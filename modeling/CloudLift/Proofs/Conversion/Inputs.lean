import CloudLift.Operator.Scripted
import CloudLift.Proofs.Conversion.Convert
import CloudLift.Proofs.Files.Path

/-!
# What a conversion keeps of its inputs

A conversion deletes what stands at the path of its output before it reads anything.  So
an input is safe as long as the output's path designates something else.  That is for the
request to see to, with one exception: a source that is picked from a directory is never
the output, since the directory is listed after the old output is gone.

The directory is listed by names and read by paths, and the two agree because names hold
no slash.
-/

namespace CloudLift

variable {σ : Type}

/-- The names on the disk are names that entries of a directory can have. -/
def Disk.HasNames (disk : Disk) : Prop :=
  ∀ entry ∈ disk.nodes, ∀ name ∈ entry.1, Disk.IsName name

instance (disk : Disk) : Decidable disk.HasNames :=
  inferInstanceAs (Decidable (∀ entry ∈ disk.nodes, ∀ name ∈ entry.1, Disk.IsName name))

namespace Request

/-- The request designates an input by the path. -/
inductive Designates (request : Request) (disk : Disk) (path : Path) : Prop where
  | source (hpath : request.source = some path)
  | config (hpath : request.config = some path)
  | listing (hpath : Image.listingFile? disk request.listing = some path)

/-- No source is designated, and the path is the one that is picked. -/
def Picks (request : Request) (op : Operator σ) (disk : Disk) (s : σ) (path : Path) : Prop :=
  request.source = none ∧
    ∃ s', Task.Comes op s (request.selectSource (disk.cleared request.output)) path s'

variable {request : Request} {op : Operator σ} {disk : Disk} {s s' : σ} {path : Path}

theorem child_of_selectAmong {names : List String}
    (hselect : Task.Comes op s (request.selectAmong names) path s') :
    ∃ name ∈ names, path = request.directory.child name := by
  obtain ⟨text, hyields⟩ := hselect
  match names with
  | [] => exact (Interaction.yields_fail_iff.mp hyields).elim
  | [name] =>
    obtain ⟨rfl, -, -⟩ := Interaction.yields_done_iff.mp hyields
    exact ⟨name, List.mem_singleton_self name, rfl⟩
  | first :: second :: rest =>
    unfold selectAmong at hyields
    dsimp only at hyields
    obtain ⟨choice, before, middle, after, hchoice, hnext, htext⟩ :=
      Interaction.yields_andThen_iff.mp hyields
    cases hname : (first :: second :: rest)[choice]? with
    | none =>
      rw [hname] at hnext
      exact (Interaction.yields_fail_iff.mp hnext).elim
    | some name =>
      rw [hname] at hnext
      obtain ⟨rfl, -, -⟩ := Interaction.yields_done_iff.mp hnext
      exact ⟨name, List.mem_of_getElem? hname, rfl⟩

theorem child_of_selectSource (hsource : request.source = none)
    (hselect : Task.Comes op s (request.selectSource disk) path s') :
    ∃ names, disk.list request.directory = .ok names ∧
      ∃ name ∈ names, path = request.directory.child name := by
  rw [selectSource, hsource] at hselect
  cases hcandidates : request.candidates disk with
  | error fault =>
    rw [hcandidates] at hselect
    obtain ⟨text, hyields⟩ := hselect
    exact (Interaction.yields_fail_iff.mp hyields).elim
  | ok candidates =>
    rw [hcandidates] at hselect
    obtain ⟨name, hname, hpath⟩ := child_of_selectAmong hselect
    obtain ⟨names, hlist, hsorted⟩ := except_bind_eq_ok_iff.mp hcandidates
    obtain rfl := Except.ok.inj hsorted
    have hmem := (List.mem_filter.mp (List.mem_mergeSort.mp hname)).1
    exact ⟨names, hlist, name, hmem, hpath⟩

/-- The source that is picked is not at the path of the output. -/
theorem Picks.locate_ne (hpicks : request.Picks op disk s path) (hnames : disk.HasNames)
    {bytes : List UInt8} (hread : disk.readBytes path = .ok bytes) :
    disk.locate path ≠ disk.locate request.output := by
  obtain ⟨hsource, s', hselect⟩ := hpicks
  obtain ⟨names, hlist, name, hname, rfl⟩ := child_of_selectSource hsource hselect
  obtain ⟨location, node, hlocate, hdirectory, hentry⟩ := Disk.mem_of_list hlist hname
  have hsame := (Disk.cleared_spec disk request.output).1.directories
  have hisName : Disk.IsName name :=
    hnames _ (Disk.nodes_cleared_subset disk request.output hentry) name (by simp)
  have hchild : disk.locate (request.directory.child name) = .ok (location ++ [name]) :=
    Disk.locate_child (hsame.locate_eq_ok_iff.mp hlocate)
      ((hsame.directory location).mp hdirectory) hisName
  obtain ⟨found, hfound, hfile⟩ := Disk.readBytes_eq_ok_iff.mp hread
  obtain rfl := Except.ok.inj (hchild.symm.trans hfound)
  intro heq
  -- the entry would have been deleted before the directory was listed
  rw [Disk.cleared_of_file (heq ▸ hchild) hfile] at hentry
  simpa using (List.mem_filter.mp hentry).2

end Request

namespace Task

variable (op : Operator σ) (surroundings : Surroundings) (request : Request)
  (opened : Session σ)

/-- Whether it succeeds or fails, a conversion changes nothing but what is at the path of
the output. -/
theorem sameBut_convert :
    opened.disk.SameBut request.output
      ((convert op surroundings request).run opened).2.disk := by
  have hensures := (ensures_convert op surroundings request opened).weaken
    (fun _ _ hgood => hgood.2.frame) fun _ hfailed => hfailed.frame
  exact hensures.always rfl

/-- A request with no settings of its own. -/
def requestFor (source config listing : Option Path) (output : Path) : Request :=
  ⟨source, ⟨"."⟩, output, config, listing, .nothing, .nothing⟩

/-- One file in the working directory. -/
def diskWith (name text : String) : Disk :=
  ⟨[([name], .file (Text.Utf8.encode text))], []⟩

def noSurroundings : Surroundings :=
  ⟨.empty, .notStarted .notFound⟩

theorem picks_only_source :
    (requestFor none none none ⟨"b.tf"⟩).Picks Operator.scripted (diskWith "a.tf" "x") []
      ⟨"./a.tf"⟩ := by
  have hlist : ((diskWith "a.tf" "x").cleared ⟨"b.tf"⟩).list ⟨"."⟩ = .ok ["a.tf"] := by
    rfl
  have haccepts : ["a.tf"].filter (requestFor none none none ⟨"b.tf"⟩).accepts = ["a.tf"] := by
    decide +kernel
  have hcandidates : (requestFor none none none ⟨"b.tf"⟩).candidates
      ((diskWith "a.tf" "x").cleared ⟨"b.tf"⟩) = .ok ["a.tf"] := by
    refine except_bind_eq_ok_iff.mpr ⟨["a.tf"], hlist, ?_⟩
    rw [haccepts, List.mergeSort_singleton]
    rfl
  have hselect : (requestFor none none none ⟨"b.tf"⟩).selectSource
      ((diskWith "a.tf" "x").cleared ⟨"b.tf"⟩) = .done ⟨"./a.tf"⟩ := by
    rw [Request.selectSource, hcandidates]
    rfl
  refine ⟨rfl, [], "", ?_⟩
  change Interaction.Yields _ _ ((requestFor none none none ⟨"b.tf"⟩).selectSource
    ((diskWith "a.tf" "x").cleared ⟨"b.tf"⟩)) _ _ _
  rw [hselect]
  exact Interaction.yields_done_iff.mpr ⟨rfl, rfl, rfl⟩

end Task

end CloudLift

import CloudLift.Proofs.Conversion.Convert
import CloudLift.Proofs.Files.Path

/-!
# Conversions that are repeated

A conversion may leave an output behind, and the next one deletes it before it does
anything else.  From there on both find the same disk.  What the stages do depends on the
disk and the operator but not on the journal, so the two conversions stay alike to the end.
-/

namespace CloudLift

variable {σ α β : Type}

/-- The sessions differ at most in their journals. -/
structure Session.Alike (a b : Session σ) : Prop where
  disk : a.disk = b.disk
  operator : a.operator = b.operator
  calls : a.calls = b.calls

theorem Session.Alike.exists_journal {a b : Session σ} (halike : a.Alike b) :
    ∃ journal, b = { a with journal := journal } := by
  rcases a with ⟨disk, s, journal, calls⟩
  rcases b with ⟨disk', s', journal', calls'⟩
  have hdisk : disk = disk' := halike.disk
  have hoperator : s = s' := halike.operator
  have hcalls : calls = calls' := halike.calls
  subst hdisk hoperator hcalls
  exact ⟨journal', rfl⟩

theorem Session.Alike.after {a b : Session σ} (halike : a.Alike b) (stage : Option Stage)
    (run : Run σ α) : (a.after stage run).Alike (b.after stage run) := by
  constructor
  case disk => exact halike.disk
  case operator => rfl
  case calls => exact congrArg (· ++ run.calls) halike.calls

/-- Where the source is looked for, this location is not among the choices, and no source
that is taken is read from it. -/
structure Request.PassesOver (request : Request) (op : Operator σ) (session : Session σ)
    (location : Location) : Prop where
  offered : ∀ directory names, session.disk.locate request.directory = .ok directory →
    request.candidates session.disk = .ok names →
    ∀ name ∈ names, directory ++ [name] ≠ location
  taken : ∀ source s', Task.Comes op session.operator (request.selectSource session.disk)
      source s' →
    session.disk.locate source = .ok location →
    ∀ bytes, session.disk.readBytes source ≠ .ok bytes

theorem Request.passesOver_of_node? {request : Request} {op : Operator σ}
    {session : Session σ} {location : Location}
    (hnode : session.disk.node? location = none) :
    request.PassesOver op session location := by
  constructor
  case offered =>
    intro directory names hdirectory hcandidates name hname heq
    rcases except_bind_eq_ok_iff.mp hcandidates with ⟨listed, hlist, hsorted⟩
    have hsorted := Except.ok.inj hsorted
    subst hsorted
    have hlisted := (List.mem_filter.mp (List.mem_mergeSort.mp hname)).1
    rcases Disk.mem_of_list hlist hlisted with ⟨found, node, hfound, _, hentry⟩
    have hsame : directory = found := Except.ok.inj (hdirectory.symm.trans hfound)
    subst hsame
    exact Disk.not_mem_of_node?_eq_none hnode _ hentry heq
  case taken =>
    intro source s' _ hlocate bytes hread
    rcases Disk.readBytes_eq_ok_iff.mp hread with ⟨found, hfound, hfile⟩
    have hsame : location = found := Except.ok.inj (hlocate.symm.trans hfound)
    subst hsame
    rw [hnode] at hfile
    cases hfile

namespace Task

/-! ## Two sessions side by side -/

/-- From two such sessions the task comes to the same result and to sessions alike. -/
def Repeats (task : Task σ α) (before : Session σ → Session σ → Prop) : Prop :=
  ∀ a b, before a b →
    (task.run a).1 = (task.run b).1 ∧ (task.run a).2.Alike (task.run b).2

section Rules

variable {task : Task σ α} {before : Session σ → Session σ → Prop}

theorem Repeats.exists_run (htask : task.Repeats before) {a b : Session σ}
    (hbefore : before a b) :
    ∃ result after after', task.run a = (result, after) ∧ task.run b = (result, after') ∧
      after.Alike after' := by
  rcases htask a b hbefore with ⟨hresult, halike⟩
  exact ⟨(task.run a).1, (task.run a).2, (task.run b).2, rfl, Prod.ext hresult.symm rfl, halike⟩

theorem Repeats.bind {next : α → Task σ β} (hfirst : task.Repeats before)
    (hnext : ∀ value, (next value).Repeats Session.Alike) :
    (task >>= next).Repeats before := by
  intro a b hbefore
  rcases hfirst.exists_run hbefore with ⟨result, after, after', ha, hb, halike⟩
  rw [run_bind, run_bind, ha, hb]
  cases result with
  | ok value => exact hnext value after after' halike
  | error failure => exact ⟨rfl, halike⟩

theorem Repeats.within (context : String) (htask : task.Repeats before) :
    (within context task).Repeats before := by
  intro a b hbefore
  rcases htask.exists_run hbefore with ⟨result, after, after', ha, hb, halike⟩
  rw [run_within, run_within, ha, hb]
  cases result with
  | ok value => exact ⟨rfl, halike⟩
  | error failure => exact ⟨rfl, halike⟩

theorem repeats_pure (value : α) : (pure value : Task σ α).Repeats Session.Alike := by
  intro a b halike
  exact ⟨rfl, halike⟩

end Rules

theorem repeats_perform (op : Operator σ) (stage : Option Stage)
    (interaction : Disk → σ → Interaction α) :
    (perform op stage fun session =>
      interaction session.disk session.operator).Repeats Session.Alike := by
  intro a b halike
  rcases halike.exists_journal with ⟨journal, rfl⟩
  rw [perform, run_ofStep, run_ofStep]
  dsimp only
  cases ((interaction a.disk a.operator).run op none a.operator).outcome with
  | ok value => exact ⟨rfl, halike.after stage _⟩
  | error fault => exact ⟨rfl, halike.after stage _⟩

theorem repeats_produce (op : Operator σ) (output : Path) (configuration : Interaction α) :
    (produce op output configuration).Repeats Session.Alike := by
  intro a b halike
  rcases halike.exists_journal with ⟨journal, rfl⟩
  rw [produce, run_ofStep, run_ofStep]
  dsimp only
  cases a.disk.locateForWriting output with
  | error fault => exact ⟨rfl, halike⟩
  | ok location =>
    have hafter := halike.after (some .generate)
      (configuration.run op none a.operator)
    dsimp only
    cases (configuration.run op none a.operator).outcome with
    | ok value => exact ⟨rfl, rfl, hafter.operator, hafter.calls⟩
    | error fault => exact ⟨rfl, rfl, hafter.operator, hafter.calls⟩

/-- The sessions differ at most in their journals and in what the first stage deletes. -/
structure AlikeOnceCleared (output : Path) (a b : Session σ) : Prop where
  disk : ∃ cleared, a.disk.ClearsTo output cleared ∧ b.disk.ClearsTo output cleared
  operator : a.operator = b.operator
  calls : a.calls = b.calls

theorem run_removeStale {output : Path} {session : Session σ} {cleared : Disk}
    (hclears : session.disk.ClearsTo output cleared) :
    ∃ journal, (removeStale output).run session =
      (.ok (), { session with disk := cleared, journal := journal }) := by
  rw [removeStale, run_ofStep]
  rcases hclears with hremove | ⟨hremove, rfl⟩
  · rw [hremove]
    exact ⟨_, rfl⟩
  · rw [hremove]
    exact ⟨session.journal, rfl⟩

theorem repeats_removeStale (output : Path) :
    (removeStale output : Task σ Unit).Repeats (AlikeOnceCleared output) := by
  intro a b halike
  rcases halike.disk with ⟨cleared, ha, hb⟩
  rcases run_removeStale ha with ⟨journal, hrun⟩
  rcases run_removeStale hb with ⟨journal', hrun'⟩
  rw [hrun, hrun']
  exact ⟨rfl, rfl, halike.operator, halike.calls⟩

/-- An output that is already there makes no difference to a conversion. -/
theorem repeats_convert (op : Operator σ) (surroundings : Surroundings) (request : Request) :
    (convert op surroundings request).Repeats (AlikeOnceCleared request.output) := by
  unfold convert loadCatalog
  refine ((repeats_removeStale request.output).within _).bind fun _ => ?_
  refine ((repeats_perform op _ fun disk _ => request.selectSource disk).within _).bind
    fun source => ?_
  refine (repeats_perform op _ fun _ _ => Interaction.log _).bind fun _ => ?_
  refine ((repeats_perform op _ fun disk _ => Inventory.ofFile disk source).within _).bind
    fun inventory => ?_
  refine ((repeats_perform op _ fun disk s => request.collectSettings
    surroundings.environment disk (op.patience s)).within _).bind fun settings => ?_
  refine ((repeats_perform op _ fun disk _ => Image.Catalog.load disk surroundings.command
    (Image.listingFile? disk request.listing)).within _).bind fun catalog => ?_
  refine ((repeats_produce op request.output _).within _).bind fun _ => ?_
  exact repeats_pure request.output

/-! ## What a conversion leaves for the next one -/

/-- The first stage of the next conversion finds the disk unchanged, or makes of it what
it made of it before. -/
def Restorable (output : Path) (disk other : Disk) : Prop :=
  other = disk ∨ ∃ cleared, disk.ClearsTo output cleared ∧ other.ClearsTo output cleared

variable {op : Operator σ} {output : Path} {disk : Disk}

theorem restorable_of_clearsTo {other : Disk} (hclears : disk.ClearsTo output other) :
    Restorable output disk other :=
  Or.inr ⟨other, hclears, hclears.again⟩

theorem ensures_clearsTo_removeStale (output : Path) (disk : Disk) :
    (removeStale output : Task σ Unit).Ensures (fun before => before.disk = disk)
      (fun _ after => disk.ClearsTo output after.disk)
      (fun after => Restorable output disk after.disk) := by
  refine ensures_ofStep ?_
  intro session hdisk
  subst hdisk
  cases hremove : session.disk.remove output with
  | ok cleared => exact Or.inl hremove
  | error fault =>
    cases fault with
    | notFound => exact Or.inr ⟨hremove, rfl⟩
    | notDirectory => exact Or.inl rfl
    | isDirectory => exact Or.inl rfl
    | invalidUtf8 => exact Or.inl rfl
    | full => exact Or.inl rfl
    | other text => exact Or.inl rfl

theorem clearsTo_of_removeStale {session after : Session σ}
    (hrun : (removeStale output).run session = (.ok (), after)) :
    session.disk.ClearsTo output after.disk := by
  have hafter := ensures_clearsTo_removeStale output session.disk session rfl
  rw [hrun] at hafter
  exact hafter

theorem ensures_clearsTo_perform {stage : Option Stage}
    {interaction : Session σ → Interaction α} :
    (perform op stage interaction).Ensures
      (fun before => disk.ClearsTo output before.disk)
      (fun _ after => disk.ClearsTo output after.disk)
      (fun after => Restorable output disk after.disk) := by
  refine ensures_perform.weaken ?_ ?_
  · intro value after hafter
    rcases hafter with ⟨before, hbefore, hdisk, _⟩
    rw [hdisk]
    exact hbefore
  · intro after hafter
    rcases hafter with ⟨before, hbefore, hdisk⟩
    rw [hdisk]
    exact restorable_of_clearsTo hbefore

theorem ensures_restorable_produce {configuration : Interaction α} :
    (produce op output configuration).Ensures
      (fun before => disk.ClearsTo output before.disk)
      (fun _ after => Restorable output disk after.disk)
      (fun after => Restorable output disk after.disk) := by
  refine ensures_ofStep ?_
  intro session hclears
  cases hlocate : session.disk.locateForWriting output with
  | error fault => exact restorable_of_clearsTo hclears
  | ok location =>
    dsimp only
    cases (configuration.run op none session.operator).outcome with
    | ok value =>
      exact Or.inr ⟨session.disk, hclears, hclears.of_place hlocate _⟩
    | error fault =>
      have herase : session.disk.erase location = session.disk := hclears.erase_eq hlocate
      change Restorable output disk (session.disk.erase location)
      rw [herase]
      exact restorable_of_clearsTo hclears

theorem ensures_restorable_convert (surroundings : Surroundings) (request : Request) :
    (convert op surroundings request).Ensures (fun before => before.disk = disk)
      (fun _ after => Restorable request.output disk after.disk)
      (fun after => Restorable request.output disk after.disk) := by
  unfold convert loadCatalog
  refine ((ensures_clearsTo_removeStale request.output disk).within _).bind fun _ => ?_
  refine (ensures_clearsTo_perform.within _).bind fun source => ?_
  refine ensures_clearsTo_perform.bind fun _ => ?_
  refine (ensures_clearsTo_perform.within _).bind fun inventory => ?_
  refine (ensures_clearsTo_perform.within _).bind fun settings => ?_
  refine (ensures_clearsTo_perform.within _).bind fun catalog => ?_
  refine (ensures_restorable_produce.within _).bind fun _ => ?_
  exact ensures_pure.weaken (fun _ _ hgood => hgood.2) fun _ hfailed => hfailed

/-- A conversion that is repeated with the same answers comes to the same result, asks the
same questions and leaves the same disk.  What the first one wrote is not a source for the
second one. -/
theorem convert_repeated (op : Operator σ) (surroundings : Surroundings)
    (request : Request) (disk : Disk) (s : σ) :
    let first := (convert op surroundings request).run (Session.opened disk s)
    let second := (convert op surroundings request).run (Session.opened first.2.disk s)
    second.1 = first.1 ∧ second.2.Alike first.2 ∧
      ∀ location session, first.2.disk.locate request.output = .ok location →
        (removeStale request.output).run (Session.opened first.2.disk s) =
          (.ok (), session) →
        request.PassesOver op session location := by
  intro first second
  have hboth : second.1 = first.1 ∧ second.2.Alike first.2 := by
    have hrestorable : Restorable request.output disk first.2.disk :=
      (ensures_restorable_convert surroundings request).always rfl
    rcases hrestorable with hsame | ⟨cleared, hfirst, hsecond⟩
    · have hagain : second = first :=
        congrArg (fun disk => (convert op surroundings request).run (Session.opened disk s))
          hsame
      rw [hagain]
      exact ⟨rfl, rfl, rfl, rfl⟩
    · exact repeats_convert op surroundings request _ _ ⟨⟨cleared, hsecond, hfirst⟩, rfl, rfl⟩
  refine ⟨hboth.1, hboth.2, ?_⟩
  intro location session hlocation hrun
  have hcleared := clearsTo_of_removeStale hrun
  exact Request.passesOver_of_node? (hcleared.node?_eq_none hlocation)

end Task

end CloudLift

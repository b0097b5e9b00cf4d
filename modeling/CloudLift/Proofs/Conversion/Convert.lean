import CloudLift.Proofs.Conversion.Task

/-!
# Conversions leave all or nothing

A conversion touches the disk at its first stage, which removes an old output, and at its
last one, which writes the new one.  Every stage in between can fail, and so can the last
one while it is writing.  In each case no file is left at the output's path, and all other
locations are as they were before.
-/

namespace CloudLift

variable {σ : Type}

/-- What a conversion has found when it starts to write: the inventory of the source that
was selected, the settings that were collected and the catalog that was loaded, each of
them from this disk and one after the other with the same operator. -/
def Request.Gathers (request : Request) (op : Operator σ) (surroundings : Surroundings)
    (disk : Disk) (s : σ) (inventory : Inventory) (settings : Settings)
    (catalog : Image.Catalog) (s' : σ) : Prop :=
  ∃ source s₁ s₂ s₃,
    Task.Comes op s (request.selectSource disk) source s₁ ∧
      Task.Comes op s₁ (Inventory.ofFile disk source) inventory s₂ ∧
      Task.Comes op s₂
        (request.collectSettings surroundings.environment disk (op.patience s₂)) settings
        s₃ ∧
      Task.Comes op s₃
        (Image.Catalog.load disk surroundings.command
          (Image.listingFile? disk request.listing)) catalog s'

/-- The output is complete: it is the whole text of the configuration for what was
gathered. -/
structure Request.Completed (request : Request) (op : Operator σ)
    (surroundings : Surroundings) (before after : Session σ) : Prop where
  frame : before.disk.SameBut request.output after.disk
  output : ∃ inventory settings catalog s folders text,
    request.Gathers op surroundings (before.disk.cleared request.output) before.operator
        inventory settings catalog s ∧
      Interaction.Yields op s (Generate.configuration inventory catalog settings) folders
        text after.operator ∧
      after.disk.readBytes request.output = .ok (Text.Utf8.encode text)

/-- There is no output. -/
structure Request.Abandoned (request : Request) (before after : Session σ) : Prop where
  frame : before.disk.SameBut request.output after.disk
  output : after.disk.isFile request.output = false

namespace Task

theorem comes_log_iff {op : Operator σ} {s s' : σ} {event : Event} {nothing : Unit} :
    Comes op s (Interaction.log event) nothing s' ↔ s' = s := by
  simp [Comes]

theorem abandoned_of_disk {request : Request} {before after : Session σ}
    (hdisk : after.disk = before.disk.cleared request.output) :
    request.Abandoned before after := by
  obtain ⟨hframe, houtput⟩ := Disk.cleared_spec before.disk request.output
  constructor
  · rw [hdisk]
    exact hframe
  · rw [hdisk]
    exact houtput

/-- The disk is this one, and the operator is in a state that satisfies the condition. -/
def OnDisk (disk : Disk) (condition : σ → Prop) (session : Session σ) : Prop :=
  session.disk = disk ∧ condition session.operator

/-- The stages between the first one and the last one find the disk as the first one left
it, and leave it so. -/
theorem ensures_stage {α : Type} {op : Operator σ} {stage : Option Stage} {disk : Disk}
    {request : Request} {opened : Session σ} {condition : σ → Prop}
    (hdisk : disk = opened.disk.cleared request.output)
    (interaction : Disk → σ → Interaction α) :
    (perform op stage fun session => interaction session.disk session.operator).Ensures
      (OnDisk disk condition)
      (fun value => OnDisk disk fun s' =>
        ∃ s, condition s ∧ Comes op s (interaction disk s) value s')
      (request.Abandoned opened) := by
  refine ensures_perform.weaken ?_ ?_
  · rintro value after ⟨before, ⟨rfl, hcondition⟩, hafter, hcomes⟩
    exact ⟨hafter, before.operator, hcondition, hcomes⟩
  · rintro after ⟨before, ⟨hbefore, -⟩, hafter⟩
    exact abandoned_of_disk (hafter.trans (hbefore.trans hdisk))

theorem ensures_clearing (request : Request) (opened : Session σ) :
    (removeStale request.output).Ensures (fun before => before = opened)
      (fun _ => OnDisk (opened.disk.cleared request.output) fun s => s = opened.operator)
      (request.Abandoned opened) := by
  refine ensures_removeStale.weaken ?_ ?_
  · rintro _ after ⟨before, rfl, hafter, hoperator⟩
    exact ⟨hafter, hoperator⟩
  · rintro after ⟨before, rfl, hafter⟩
    exact abandoned_of_disk hafter

theorem ensures_writing {op : Operator σ} {surroundings : Surroundings} {request : Request}
    {opened : Session σ} {inventory : Inventory} {settings : Settings}
    {catalog : Image.Catalog} :
    (produce op request.output (Generate.configuration inventory catalog settings)).Ensures
      (OnDisk (opened.disk.cleared request.output) fun s =>
        request.Gathers op surroundings (opened.disk.cleared request.output) opened.operator
          inventory settings catalog s)
      (fun _ => request.Completed op surroundings opened) (request.Abandoned opened) := by
  obtain ⟨hframe, houtput⟩ := Disk.cleared_spec opened.disk request.output
  refine ensures_produce.weaken ?_ ?_
  · rintro _ after ⟨before, folders, text, ⟨hbefore, hgathers⟩, hyields, hwritten, hread⟩
    rw [hbefore] at hwritten
    exact ⟨hframe.trans hwritten, inventory, settings, catalog, before.operator, folders,
      text, hgathers, hyields, hread⟩
  · rintro after ⟨before, ⟨hbefore, -⟩, hwritten, hleft⟩
    rw [hbefore] at hwritten hleft
    rcases hleft with hdisk | hnone
    · exact abandoned_of_disk hdisk
    · exact ⟨hframe.trans hwritten, hnone⟩

theorem ensures_convert (op : Operator σ) (surroundings : Surroundings) (request : Request)
    (opened : Session σ) :
    (convert op surroundings request).Ensures (fun before => before = opened)
      (fun path after => path = request.output ∧
        request.Completed op surroundings opened after)
      (request.Abandoned opened) := by
  unfold convert loadCatalog
  refine ((ensures_clearing request opened).within _).bind fun _ => ?_
  refine ((ensures_stage rfl fun disk _ => request.selectSource disk).within _).bind
    fun source => ?_
  refine (ensures_stage rfl fun _ _ => Interaction.log _).bind fun _ => ?_
  refine ((ensures_stage rfl fun disk _ => Inventory.ofFile disk source).within _).bind
    fun inventory => ?_
  refine ((ensures_stage rfl fun disk s => request.collectSettings
    surroundings.environment disk (op.patience s)).within _).bind fun settings => ?_
  refine ((ensures_stage rfl fun disk _ => Image.Catalog.load disk surroundings.command
    (Image.listingFile? disk request.listing)).within _).bind fun catalog => ?_
  refine Ensures.bind ((ensures_writing.strengthen ?_).within _) fun _ =>
    ensures_pure.weaken (fun _ _ hgood => hgood) fun _ hfailed => hfailed
  rintro session ⟨hdisk, s₃, ⟨s₂, ⟨s₁, ⟨s₀, ⟨_, rfl, hsource⟩, hlog⟩, hinventory⟩,
    hsettings⟩, hcatalog⟩
  rw [comes_log_iff] at hlog
  subst hlog
  exact ⟨hdisk, source, s₁, s₂, s₃, hsource, hinventory, hsettings, hcatalog⟩

end Task

end CloudLift

import CloudLift.Conversion.Convert
import CloudLift.Proofs.Files.Disk
import CloudLift.Proofs.Interaction

/-!
# What a task ensures

A task ends in one of two ways, and each has its own condition on the session that is
left.  The condition on failures goes through a sequence of tasks unchanged, so that
every stage has to answer for it.
-/

namespace CloudLift.Task

variable {σ α β : Type}

/-- From a session before it the task comes to one that is good for its value or, if it
fails, to one that is good for a failure. -/
def Ensures (task : Task σ α) (before : Session σ → Prop) (good : α → Session σ → Prop)
    (failed : Session σ → Prop) : Prop :=
  ∀ session, before session →
    match task.run session with
    | (.ok value, after) => good value after
    | (.error _, after) => failed after

theorem run_bind (task : Task σ α) (next : α → Task σ β) (session : Session σ) :
    (task >>= next).run session =
      match task.run session with
      | (.ok value, after) => (next value).run after
      | (.error failure, after) => (.error failure, after) := by
  change (match task.run session with
    | (result, after) => ExceptT.bindCont next result after) = _
  cases task.run session with
  | mk result after =>
    cases result with
    | ok value => rfl
    | error failure => rfl

theorem run_within (context : String) (task : Task σ α) (session : Session σ) :
    (within context task).run session =
      match task.run session with
      | (.ok value, after) => (.ok value, after)
      | (.error failure, after) =>
        (.error { failure with contexts := context :: failure.contexts }, after) :=
  rfl

theorem run_ofStep (step : Session σ → Except Fault α × Session σ) (session : Session σ) :
    (ofStep step).run session =
      match step session with
      | (.ok value, after) => (.ok value, after)
      | (.error fault, after) => (.error ⟨[], fault⟩, after) :=
  rfl

section Rules

variable {task : Task σ α} {before : Session σ → Prop} {failed : Session σ → Prop}

theorem Ensures.bind {next : α → Task σ β} {middle : α → Session σ → Prop}
    {good : β → Session σ → Prop} (hfirst : task.Ensures before middle failed)
    (hnext : ∀ value, (next value).Ensures (middle value) good failed) :
    (task >>= next).Ensures before good failed := by
  intro session hbefore
  have hsession := hfirst session hbefore
  rw [run_bind]
  cases hrun : task.run session with
  | mk result after =>
    rw [hrun] at hsession
    cases result with
    | ok value => exact hnext value after hsession
    | error failure => exact hsession

theorem Ensures.weaken {good good' : α → Session σ → Prop} {failed' : Session σ → Prop}
    (htask : task.Ensures before good failed)
    (hgood : ∀ value after, good value after → good' value after)
    (hfailed : ∀ after, failed after → failed' after) :
    task.Ensures before good' failed' := by
  intro session hbefore
  have hsession := htask session hbefore
  cases hrun : task.run session with
  | mk result after =>
    rw [hrun] at hsession
    cases result with
    | ok value => exact hgood value after hsession
    | error failure => exact hfailed after hsession

theorem Ensures.strengthen {good : α → Session σ → Prop} {before' : Session σ → Prop}
    (htask : task.Ensures before good failed)
    (hbefore : ∀ session, before' session → before session) :
    task.Ensures before' good failed :=
  fun session hsession => htask session (hbefore session hsession)

/-- What holds in both cases holds of the session that is left. -/
theorem Ensures.always {condition : Session σ → Prop}
    (htask : task.Ensures before (fun _ => condition) condition) {session : Session σ}
    (hbefore : before session) : condition (task.run session).2 := by
  have hsession := htask session hbefore
  cases hrun : task.run session with
  | mk result after =>
    rw [hrun] at hsession
    cases result with
    | ok value => exact hsession
    | error failure => exact hsession

theorem Ensures.within {good : α → Session σ → Prop} (context : String)
    (htask : task.Ensures before good failed) :
    (within context task).Ensures before good failed := by
  intro session hbefore
  have hsession := htask session hbefore
  rw [run_within]
  cases hrun : task.run session with
  | mk result after =>
    rw [hrun] at hsession
    cases result with
    | ok value => exact hsession
    | error failure => exact hsession

theorem ensures_ofStep {step : Session σ → Except Fault α × Session σ}
    {good : α → Session σ → Prop}
    (hstep : ∀ session, before session →
      match step session with
      | (.ok value, after) => good value after
      | (.error _, after) => failed after) :
    (ofStep step).Ensures before good failed := by
  intro session hbefore
  have hsession := hstep session hbefore
  rw [run_ofStep]
  cases hrun : step session with
  | mk result after =>
    rw [hrun] at hsession
    cases result with
    | ok value => exact hsession
    | error failure => exact hsession

theorem ensures_pure {value : α} :
    (pure value : Task σ α).Ensures before (fun value' after => value' = value ∧ before after)
      failed := by
  intro session hbefore
  exact ⟨rfl, hbefore⟩

end Rules

/-! ## Stages -/

/-- The interaction comes to the value and leaves the operator in state `s'`. -/
def Comes (op : Operator σ) (s : σ) (interaction : Interaction α) (value : α) (s' : σ) :
    Prop :=
  ∃ text, Interaction.Yields op s interaction value text s'

/-- An interaction leaves the disk alone. -/
theorem ensures_perform {op : Operator σ} {stage : Option Stage}
    {interaction : Session σ → Interaction α} {before : Session σ → Prop} :
    (perform op stage interaction).Ensures before
      (fun value after => ∃ session, before session ∧ after.disk = session.disk ∧
        Comes op session.operator (interaction session) value after.operator)
      (fun after => ∃ session, before session ∧ after.disk = session.disk) := by
  refine ensures_ofStep ?_
  intro session hbefore
  dsimp only
  cases houtcome : ((interaction session).run op none session.operator).outcome with
  | ok value => exact ⟨session, hbefore, rfl, _, houtcome, rfl, rfl⟩
  | error fault => exact ⟨session, hbefore, rfl⟩

theorem ensures_removeStale {output : Path} {before : Session σ → Prop} :
    (removeStale output : Task σ Unit).Ensures before
      (fun _ after => ∃ session, before session ∧
        after.disk = session.disk.cleared output ∧ after.operator = session.operator)
      (fun after => ∃ session, before session ∧
        after.disk = session.disk.cleared output) := by
  refine ensures_ofStep ?_
  intro session hbefore
  cases hremove : session.disk.remove output with
  | ok disk =>
    refine ⟨session, hbefore, ?_, rfl⟩
    rw [Disk.cleared, hremove]
  | error fault =>
    have hcleared : session.disk = session.disk.cleared output := by
      rw [Disk.cleared, hremove]
    cases fault with
    | notFound => exact ⟨session, hbefore, hcleared, rfl⟩
    | notDirectory => exact ⟨session, hbefore, hcleared⟩
    | isDirectory => exact ⟨session, hbefore, hcleared⟩
    | invalidUtf8 => exact ⟨session, hbefore, hcleared⟩
    | full => exact ⟨session, hbefore, hcleared⟩
    | other text => exact ⟨session, hbefore, hcleared⟩

/-- Either the whole text is in the file, or there is no file that was not there before. -/
theorem ensures_produce {op : Operator σ} {output : Path} {configuration : Interaction α}
    {before : Session σ → Prop} :
    (produce op output configuration).Ensures before
      (fun _ after => ∃ session value text, before session ∧
        Interaction.Yields op session.operator configuration value text after.operator ∧
        session.disk.SameBut output after.disk ∧
        after.disk.readBytes output = .ok (Text.Utf8.encode text))
      (fun after => ∃ session, before session ∧
        session.disk.SameBut output after.disk ∧
        (after.disk = session.disk ∨ after.disk.isFile output = false)) := by
  refine ensures_ofStep ?_
  intro session hbefore
  cases hlocate : session.disk.locateForWriting output with
  | error fault => exact ⟨session, hbefore, .refl _ _, Or.inl rfl⟩
  | ok location =>
    obtain ⟨hlocation, hnode⟩ := Disk.locateForWriting_eq_ok hlocate
    dsimp only
    cases houtcome : (configuration.run op none session.operator).outcome with
    | ok value =>
      exact ⟨session, value, _, hbefore, ⟨houtcome, rfl, rfl⟩,
        Disk.sameBut_place hlocation hnode _, Disk.readBytes_place hlocation hnode _⟩
    | error fault =>
      exact ⟨session, hbefore, Disk.sameBut_erase hlocation hnode,
        Or.inr (Disk.isFile_erase hlocation hnode)⟩

end CloudLift.Task

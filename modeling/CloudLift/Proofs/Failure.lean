import CloudLift.Proofs.Interaction

/-!
# Runs that fail

A run that fails has written what came before the fault.  Which fault it is and how much
was written depends on the order of two kinds of steps, the checks and the pieces of text,
so a part is compared with the list of its steps.  The first check that fails gives the
fault, and the pieces before that check are the text.

A list can go on after a check that fails, and then its tail says nothing about the run.
This is why the list of a second part is only asked for when the first part has no fault.
-/

namespace CloudLift

variable {σ α β : Type}

/-! ## Steps -/

inductive Step where
  /-- A check, with the fault that it finds. -/
  | require (fault? : Option Fault)
  | write (text : String)

namespace Step

def fault? : Step → Option Fault
  | require fault? => fault?
  | write _ => none

def firstFault (steps : List Step) : Option Fault :=
  steps.findSome? fault?

/-- The pieces before the first check that fails. -/
def textBefore : List Step → String
  | [] => ""
  | require (some _) :: _ => ""
  | require none :: steps => textBefore steps
  | write text :: steps => text ++ textBefore steps

/-- Checks with nothing written between them. -/
def checks (faults : List (Option Fault)) : List Step :=
  faults.map require

theorem firstFault_append (steps more : List Step) :
    firstFault (steps ++ more) = (firstFault steps).or (firstFault more) :=
  List.findSome?_append

theorem firstFault_checks (faults : List (Option Fault)) :
    firstFault (checks faults) = faults.findSome? id := by
  rw [firstFault, checks, List.findSome?_map]
  rfl

theorem textBefore_append (steps more : List Step) :
    textBefore (steps ++ more) =
      textBefore steps ++ if firstFault steps = none then textBefore more else "" := by
  induction steps with
  | nil => simp [textBefore, firstFault]
  | cons step steps ih =>
    match step with
    | require (some fault) => simp [textBefore, firstFault, fault?]
    | require none =>
      have hfault : firstFault (require none :: steps) = firstFault steps := rfl
      rw [List.cons_append, textBefore, textBefore, hfault, ih]
    | write text =>
      have hfault : firstFault (write text :: steps) = firstFault steps := rfl
      rw [List.cons_append, textBefore, textBefore, hfault, ih, String.append_assoc]

theorem textBefore_checks (faults : List (Option Fault)) : textBefore (checks faults) = "" := by
  induction faults with
  | nil => rfl
  | cons fault? faults ih =>
    cases fault? with
    | some fault => rfl
    | none => exact ih

end Step

namespace Interaction

variable {op : Operator σ} {s s' s'' : σ} {value : α} {result : β} {fault : Fault}
  {text before : String} {first : Interaction α} {next : α → Interaction β}

/-! ## What a run that fails leaves -/

/-- With no limit to its writing the run ends with the fault and has written the text. -/
structure Fails (op : Operator σ) (s : σ) (interaction : Interaction α) (fault : Fault)
    (text : String) : Prop where
  outcome : (interaction.run op none s).outcome = .error fault
  text : (interaction.run op none s).text = text

theorem not_fails_done : ¬Fails op s (done value) fault text := by
  intro hfails
  have houtcome := hfails.outcome
  simp [run] at houtcome

theorem fails_fail {cause : Fault} : Fails op s (fail cause : Interaction α) cause "" :=
  ⟨rfl, rfl⟩

theorem fails_inquire {question : String} (hask : op.ask question s = (.error fault, s')) :
    Fails op s (inquire question) fault "" := by
  constructor <;> simp [inquire, run, hask, Run.text]

theorem fails_select {question : String} {options : List String}
    (hchoose : op.choose question options s = (.error fault, s')) :
    Fails op s (select question options) fault "" := by
  constructor <;> simp [select, run, hchoose, Run.text]

theorem Fails.unique {interaction : Interaction α} {other : Fault} {text' : String}
    (h : Fails op s interaction fault text) (h' : Fails op s interaction other text') :
    fault = other ∧ text = text' := by
  have houtcome := h.outcome.symm.trans h'.outcome
  exact ⟨Except.error.inj houtcome, h.text.symm.trans h'.text⟩

theorem Yields.not_fails {interaction : Interaction α} {text' : String}
    (h : Yields op s interaction value text s') : ¬Fails op s interaction fault text' := by
  intro hfails
  have houtcome := h.outcome.symm.trans hfails.outcome
  cases houtcome

theorem Yields.fails_andThen_iff (h : Yields op s first value before s') :
    Fails op s (first.andThen next) fault text ↔
      ∃ after, Fails op s' (next value) fault after ∧ text = before ++ after := by
  have hrun := run_andThen op none first next s
  simp only [Room.left_none, Run.followedBy, h.outcome, h.operator] at hrun
  have houtcome : ((first.andThen next).run op none s).outcome =
      ((next value).run op none s').outcome := by
    rw [hrun]
  have htext : ((first.andThen next).run op none s).text =
      before ++ ((next value).run op none s').text := by
    rw [hrun, Run.text, String.join_append, ← h.text]
    rfl
  constructor
  · intro hfails
    exact ⟨_, ⟨houtcome.symm.trans hfails.outcome, rfl⟩, hfails.text.symm.trans htext⟩
  · intro hafter
    obtain ⟨after, hfails, heq⟩ := hafter
    refine ⟨houtcome.trans hfails.outcome, ?_⟩
    rw [htext, hfails.text, heq]

theorem Fails.andThen (h : Fails op s first fault text) :
    Fails op s (first.andThen next) fault text := by
  have hrun := run_andThen op none first next s
  simp only [Run.followedBy, h.outcome] at hrun
  constructor
  · rw [hrun]
  · rw [hrun, ← h.text]
    rfl

theorem yields_or_fails (op : Operator σ) (s : σ) (interaction : Interaction α) :
    (∃ value text s', Yields op s interaction value text s') ∨
      ∃ fault text, Fails op s interaction fault text := by
  cases houtcome : (interaction.run op none s).outcome with
  | ok value => exact .inl ⟨value, exists_yields_iff.mpr houtcome⟩
  | error fault => exact .inr ⟨fault, _, houtcome, rfl⟩

theorem fails_andThen_iff :
    Fails op s (first.andThen next) fault text ↔
      Fails op s first fault text ∨
        ∃ value before s' after, Yields op s first value before s' ∧
          Fails op s' (next value) fault after ∧ text = before ++ after := by
  constructor
  · intro hfails
    rcases yields_or_fails op s first with hyields | hfirst
    · obtain ⟨value, before, s', hyields⟩ := hyields
      obtain ⟨after, hnext, htext⟩ := hyields.fails_andThen_iff.mp hfails
      exact .inr ⟨value, before, s', after, hyields, hnext, htext⟩
    · obtain ⟨cause, early, hfirst⟩ := hfirst
      obtain ⟨hcause, hearly⟩ := hfirst.andThen.unique hfails
      rw [← hcause, ← hearly]
      exact .inl hfirst
  · intro hcases
    rcases hcases with hfirst | hsecond
    · exact hfirst.andThen
    · obtain ⟨value, before, s', after, hyields, hnext, htext⟩ := hsecond
      exact hyields.fails_andThen_iff.mpr ⟨after, hnext, htext⟩

/-! ## Parts and their steps -/

/-- If no check fails, the part comes to the value, and otherwise the first check that
fails gives its fault. -/
structure Follows (op : Operator σ) (s : σ) (interaction : Interaction α) (steps : List Step)
    (value : α) (s' : σ) : Prop where
  fails : ∀ fault, Step.firstFault steps = some fault →
    Fails op s interaction fault (Step.textBefore steps)
  yields : Step.firstFault steps = none →
    Yields op s interaction value (Step.textBefore steps) s'

section Follows

variable {steps more : List Step}

theorem Follows.fails_iff (h : Follows op s first steps value s') :
    Fails op s first fault text ↔
      Step.firstFault steps = some fault ∧ text = Step.textBefore steps := by
  constructor
  · intro hfails
    cases hfault : Step.firstFault steps with
    | none => exact absurd hfails (h.yields hfault).not_fails
    | some cause =>
      obtain ⟨hcause, htext⟩ := (h.fails cause hfault).unique hfails
      exact ⟨congrArg some hcause, htext.symm⟩
  · intro hsteps
    obtain ⟨hfault, htext⟩ := hsteps
    rw [htext]
    exact h.fails fault hfault

theorem Follows.andThen (hfirst : Follows op s first steps value s')
    (hnext : Step.firstFault steps = none → Follows op s' (next value) more result s'') :
    Follows op s (first.andThen next) (steps ++ more) result s'' := by
  cases hsteps : Step.firstFault steps with
  | some cause =>
    have hfault : Step.firstFault (steps ++ more) = some cause := by
      rw [Step.firstFault_append, hsteps, Option.some_or]
    have htext : Step.textBefore (steps ++ more) = Step.textBefore steps := by
      rw [Step.textBefore_append, hsteps, if_neg (Option.some_ne_none cause),
        String.append_empty]
    constructor
    · intro fault hfault'
      rw [htext, ← Option.some.inj (hfault.symm.trans hfault')]
      exact (hfirst.fails cause hsteps).andThen
    · intro hnone
      rw [hfault] at hnone
      contradiction
  | none =>
    have hfault : Step.firstFault (steps ++ more) = Step.firstFault more := by
      rw [Step.firstFault_append, hsteps, Option.none_or]
    have htext : Step.textBefore (steps ++ more) =
        Step.textBefore steps ++ Step.textBefore more := by
      rw [Step.textBefore_append, if_pos hsteps]
    have hyields := hfirst.yields hsteps
    constructor
    · intro fault hmore
      rw [hfault] at hmore
      exact hyields.fails_andThen_iff.mpr ⟨_, (hnext hsteps).fails fault hmore, htext⟩
    · intro hmore
      rw [hfault] at hmore
      exact yields_andThen_iff.mpr
        ⟨value, _, s', _, hyields, (hnext hsteps).yields hmore, htext⟩

theorem Follows.congr {steps' : List Step} (h : Follows op s first steps value s')
    (hfault : Step.firstFault steps = Step.firstFault steps')
    (htext : Step.textBefore steps = Step.textBefore steps') :
    Follows op s first steps' value s' := by
  constructor
  · intro fault hsome
    rw [← htext]
    exact h.fails fault (hfault.trans hsome)
  · intro hnone
    rw [← htext]
    exact h.yields (hfault.trans hnone)

theorem Yields.follows (h : Yields op s first value text s')
    (hnone : Step.firstFault steps = none) (htext : Step.textBefore steps = text) :
    Follows op s first steps value s' := by
  constructor
  · intro fault hfault
    rw [hnone] at hfault
    contradiction
  · intro _
    rw [htext]
    exact h

theorem Fails.follows (h : Fails op s first fault text)
    (hfault : Step.firstFault steps = some fault) (htext : Step.textBefore steps = text) :
    Follows op s first steps value s' := by
  constructor
  · intro cause hcause
    have hsame := Option.some.inj (hfault.symm.trans hcause)
    rw [htext, ← hsame]
    exact h
  · intro hnone
    rw [hfault] at hnone
    contradiction

theorem Follows.passed (h : Follows op s first steps value s') :
    Follows op s first (.require none :: steps) value s' :=
  h.congr rfl rfl

theorem follows_done : Follows op s (done value) [] value s := by
  have hyields : Yields op s (done value) value "" s := yields_done_iff.mpr ⟨rfl, rfl, rfl⟩
  exact hyields.follows rfl rfl

theorem follows_fail {cause : Fault} :
    Follows op s (fail cause) (.require (some cause) :: steps) value s' :=
  fails_fail.follows rfl rfl

theorem follows_log {event : Event} : Follows op s (log event) [] () s := by
  have hyields : Yields op s (log event) () "" s := yields_log_iff.mpr ⟨rfl, rfl⟩
  exact hyields.follows rfl rfl

theorem follows_put {piece : String} : Follows op s (put piece) [.write piece] () s := by
  have hyields : Yields op s (put piece) () piece s := yields_put_iff.mpr ⟨rfl, rfl⟩
  exact hyields.follows rfl String.append_empty

theorem follows_ofExcept {check : Except Fault α} {fault? : Option Fault}
    (hfault : ∀ fault, fault? = some fault → check = .error fault)
    (hnone : fault? = none → check = .ok value) :
    Follows op s (ofExcept check) (Step.checks [fault?]) value s := by
  cases fault? with
  | some cause =>
    rw [hfault cause rfl]
    exact follows_fail
  | none =>
    rw [hnone rfl]
    exact follows_done.passed

theorem ofExcept_bind {check : Except Fault α} {rest : α → Except Fault β} :
    ofExcept (check >>= rest) = (ofExcept check).andThen fun value => ofExcept (rest value) := by
  cases check <;> rfl

end Follows

end Interaction

end CloudLift

import CloudLift.Proofs.Failure

/-!
# Transcripts of runs

A run keeps its texts and its questions apart.  The transcript has them in one sequence, and
each question in it has the reply that it got.  It is that of a run with no limit to its
writing.

A run with a limit does the same as long as the texts fit.  Its transcript is a front part of
the other one, so it says which questions are still put.
-/

namespace CloudLift

variable {σ α β : Type}

inductive Act where
  | wrote (text : String)
  | asked (question : String) (reply : Except Fault String)
  | chose (question : String) (options : List String) (reply : Except Fault Nat)

namespace Act

def call? : Act → Option Call
  | wrote _ => none
  | asked question _ => some (.ask question)
  | chose question options _ => some (.choose question options)

def text? : Act → Option String
  | wrote text => some text
  | asked _ _ => none
  | chose _ _ _ => none

def calls (acts : List Act) : List Call :=
  acts.filterMap call?

def texts (acts : List Act) : List String :=
  acts.filterMap text?

@[simp] theorem calls_append (acts more : List Act) :
    calls (acts ++ more) = calls acts ++ calls more :=
  List.filterMap_append

@[simp] theorem calls_map_wrote (pieces : List String) : calls (pieces.map wrote) = [] := by
  simp [calls, call?]

/-- The acts before the first text for which there is no room. -/
def fitting : Nat → List Act → List Act
  | _, [] => []
  | free, wrote text :: acts =>
    if text.utf8ByteSize ≤ free then
      wrote text :: fitting (free - text.utf8ByteSize) acts
    else
      []
  | free, act :: acts => act :: fitting free acts

theorem fitting_prefix (free : Nat) (acts : List Act) : fitting free acts <+: acts := by
  induction acts generalizing free with
  | nil => exact List.nil_prefix
  | cons act acts ih =>
    cases act with
    | wrote text =>
      rw [fitting]
      by_cases hfits : text.utf8ByteSize ≤ free
      · rw [if_pos hfits]
        exact List.cons_prefix_cons.mpr ⟨rfl, ih _⟩
      · rw [if_neg hfits]
        exact List.nil_prefix
    | asked question reply => exact List.cons_prefix_cons.mpr ⟨rfl, ih free⟩
    | chose question options reply => exact List.cons_prefix_cons.mpr ⟨rfl, ih free⟩

end Act

namespace Interaction

def transcript (op : Operator σ) : Interaction α → σ → List Act
  | .done _, _ => []
  | .fail _, _ => []
  | .write text next, s => .wrote text :: transcript op next s
  | .note _ next, s => transcript op next s
  | .ask question next, s =>
    match op.ask question s with
    | (.error fault, _) => [.asked question (.error fault)]
    | (.ok answer, s) => .asked question (.ok answer) :: transcript op (next answer) s
  | .choose question options next, s =>
    match op.choose question options s with
    | (.error fault, _) => [.chose question options (.error fault)]
    | (.ok choice, s) => .chose question options (.ok choice) :: transcript op (next choice) s

variable (op : Operator σ) (s : σ)

theorem calls_run (interaction : Interaction α) :
    (interaction.run op none s).calls = Act.calls (interaction.transcript op s) := by
  induction interaction generalizing s with
  | done value => rfl
  | fail fault => rfl
  | write text next ih => exact ih s
  | note event next ih => exact ih s
  | ask question next ih =>
    simp only [run, transcript]
    cases op.ask question s with
    | mk reply left =>
      cases reply with
      | error fault => rfl
      | ok answer => exact congrArg (List.cons _) (ih answer left)
  | choose question options next ih =>
    simp only [run, transcript]
    cases op.choose question options s with
    | mk reply left =>
      cases reply with
      | error fault => rfl
      | ok choice => exact congrArg (List.cons _) (ih choice left)

theorem written_run (interaction : Interaction α) :
    (interaction.run op none s).written = Act.texts (interaction.transcript op s) := by
  induction interaction generalizing s with
  | done value => rfl
  | fail fault => rfl
  | write text next ih => exact congrArg (List.cons text) (ih s)
  | note event next ih => exact ih s
  | ask question next ih =>
    simp only [run, transcript]
    cases op.ask question s with
    | mk reply left =>
      cases reply with
      | error fault => rfl
      | ok answer => exact ih answer left
  | choose question options next ih =>
    simp only [run, transcript]
    cases op.choose question options s with
    | mk reply left =>
      cases reply with
      | error fault => rfl
      | ok choice => exact ih choice left

/-! ## Transcripts of two parts -/

variable {op s} {s' : σ} {first : Interaction α} {next : α → Interaction β} {value : α}
  {fault : Fault} {text : String}

theorem transcript_andThen :
    (first.andThen next).transcript op s =
      first.transcript op s ++
        match (first.run op none s).outcome with
        | .ok value => (next value).transcript op (first.run op none s).operator
        | .error _ => [] := by
  induction first generalizing s with
  | done value => rfl
  | fail fault => rfl
  | write text rest ih => exact congrArg (List.cons _) ih
  | note event rest ih => exact ih
  | ask question rest ih =>
    simp only [andThen, run, transcript]
    cases op.ask question s with
    | mk reply left =>
      cases reply with
      | error fault => rfl
      | ok answer => exact congrArg (List.cons _) (ih answer)
  | choose question options rest ih =>
    simp only [andThen, run, transcript]
    cases op.choose question options s with
    | mk reply left =>
      cases reply with
      | error fault => rfl
      | ok choice => exact congrArg (List.cons _) (ih choice)

theorem Yields.transcript_andThen (h : Yields op s first value text s') :
    (first.andThen next).transcript op s =
      first.transcript op s ++ (next value).transcript op s' := by
  rw [Interaction.transcript_andThen, h.outcome, h.operator]

theorem Fails.transcript_andThen (h : Fails op s first fault text) :
    (first.andThen next).transcript op s = first.transcript op s := by
  rw [Interaction.transcript_andThen, h.outcome]
  exact List.append_nil _

theorem transcript_andThen_of_nil
    (hnext : ∀ value left, (next value).transcript op left = []) :
    (first.andThen next).transcript op s = first.transcript op s := by
  rw [Interaction.transcript_andThen]
  cases (first.run op none s).outcome with
  | ok value => exact (congrArg _ (hnext value _)).trans (List.append_nil _)
  | error fault => exact List.append_nil _

/-! ## Parts that ask nothing -/

def Quiet : Interaction α → Prop
  | .done _ => True
  | .fail _ => True
  | .write _ next => next.Quiet
  | .note _ next => next.Quiet
  | .ask _ _ => False
  | .choose _ _ _ => False

theorem Quiet.andThen (hfirst : first.Quiet) (hnext : ∀ value, (next value).Quiet) :
    (first.andThen next).Quiet := by
  induction first with
  | done value => exact hnext value
  | fail fault => trivial
  | write text rest ih => exact ih hfirst
  | note event rest ih => exact ih hfirst
  | ask question rest ih => exact hfirst.elim
  | choose question options rest ih => exact hfirst.elim

theorem quiet_ofExcept (check : Except Fault α) : (ofExcept check).Quiet := by
  cases check <;> trivial

theorem Quiet.transcript_eq (h : first.Quiet) :
    first.transcript op s = (first.run op none s).written.map Act.wrote := by
  induction first with
  | done value => rfl
  | fail fault => rfl
  | write text rest ih => exact congrArg (List.cons _) (ih h)
  | note event rest ih => exact ih h
  | ask question rest ih => exact h.elim
  | choose question options rest ih => exact h.elim

theorem Quiet.calls_eq_nil (h : first.Quiet) : (first.run op none s).calls = [] := by
  rw [calls_run, h.transcript_eq, Act.calls_map_wrote]

theorem Quiet.operator_eq (h : first.Quiet) : (first.run op none s).operator = s := by
  induction first with
  | done value => rfl
  | fail fault => rfl
  | write text rest ih => exact ih h
  | note event rest ih => exact ih h
  | ask question rest ih => exact h.elim
  | choose question options rest ih => exact h.elim

/-! ## Runs with a limit -/

theorem text_run_write (text : String) (next : Interaction α) :
    ((write text next).run op none s).text = text ++ (next.run op none s).text := by
  rw [Run.text, Run.text, ← String.join_cons]
  rfl

/-- If all of the text fits, the limit makes no difference. -/
theorem run_of_le (op : Operator σ) {interaction : Interaction α} {free : Nat} {s : σ}
    (hfits : (interaction.run op none s).text.utf8ByteSize ≤ free) :
    interaction.run op (some free) s = interaction.run op none s := by
  induction interaction generalizing free s with
  | done value => rfl
  | fail fault => rfl
  | write text next ih =>
    rw [text_run_write, String.utf8ByteSize_append] at hfits
    have htext : text.utf8ByteSize ≤ free := by omega
    have hnext : (next.run op none s).text.utf8ByteSize ≤ free - text.utf8ByteSize := by omega
    simp only [run, Room.after?, if_pos htext, ih hnext]
  | note event next ih => simp only [run, ih hfits]
  | ask question next ih =>
    simp only [run] at hfits ⊢
    cases hask : op.ask question s with
    | mk reply left =>
      rw [hask] at hfits
      cases reply with
      | error fault => rfl
      | ok answer => simp only [ih answer hfits]
  | choose question options next ih =>
    simp only [run] at hfits ⊢
    cases hchoose : op.choose question options s with
    | mk reply left =>
      rw [hchoose] at hfits
      cases reply with
      | error fault => rfl
      | ok choice => simp only [ih choice hfits]

/-- Otherwise the run ends at the text that does not fit. -/
theorem outcome_of_lt (op : Operator σ) {interaction : Interaction α} {free : Nat} {s : σ}
    (hfull : free < (interaction.run op none s).text.utf8ByteSize) :
    (interaction.run op (some free) s).outcome = .error (.io .full) := by
  induction interaction generalizing free s with
  | done value => exact absurd hfull (Nat.not_lt_zero free)
  | fail fault => exact absurd hfull (Nat.not_lt_zero free)
  | write text next ih =>
    rw [text_run_write, String.utf8ByteSize_append] at hfull
    by_cases htext : text.utf8ByteSize ≤ free
    · have hnext : free - text.utf8ByteSize < (next.run op none s).text.utf8ByteSize := by omega
      simp only [run, Room.after?, if_pos htext]
      exact ih hnext
    · simp only [run, Room.after?, if_neg htext]
  | note event next ih => exact ih hfull
  | ask question next ih =>
    simp only [run] at hfull ⊢
    cases hask : op.ask question s with
    | mk reply left =>
      rw [hask] at hfull
      cases reply with
      | error fault => exact absurd hfull (Nat.not_lt_zero free)
      | ok answer => exact ih answer hfull
  | choose question options next ih =>
    simp only [run] at hfull ⊢
    cases hchoose : op.choose question options s with
    | mk reply left =>
      rw [hchoose] at hfull
      cases reply with
      | error fault => exact absurd hfull (Nat.not_lt_zero free)
      | ok choice => exact ih choice hfull

theorem calls_run_some (op : Operator σ) (interaction : Interaction α) (free : Nat) (s : σ) :
    (interaction.run op (some free) s).calls =
      Act.calls (Act.fitting free (interaction.transcript op s)) := by
  induction interaction generalizing free s with
  | done value => rfl
  | fail fault => rfl
  | write text next ih =>
    simp only [run, Room.after?, transcript, Act.fitting]
    by_cases htext : text.utf8ByteSize ≤ free
    · rw [if_pos htext, if_pos htext]
      exact ih _ s
    · rw [if_neg htext, if_neg htext]
      rfl
  | note event next ih => exact ih free s
  | ask question next ih =>
    simp only [run, transcript]
    cases op.ask question s with
    | mk reply left =>
      cases reply with
      | error fault => rfl
      | ok answer => exact congrArg (List.cons _) (ih answer free left)
  | choose question options next ih =>
    simp only [run, transcript]
    cases op.choose question options s with
    | mk reply left =>
      cases reply with
      | error fault => rfl
      | ok choice => exact congrArg (List.cons _) (ih choice free left)

end Interaction

end CloudLift

import CloudLift.Interaction

/-!
# Runs of interactions

A run of two parts is a run of the first one and, if that comes to a value, a run of the
second one from where the first one left the operator and the room.  Everything else here
follows from this.

`Yields` is what is mostly asked of a run with no limit to its writing: that it comes to
a value, with the text that was written and the operator who is left.  It goes through
`andThen` in both directions, so what a part yields is found from what its parts yield.
-/

namespace CloudLift

variable {σ α β : Type}

/-! ## Room -/

/-- The room that is left after texts that fitted. -/
def Room.left : Room → List String → Room
  | room, [] => room
  | room, text :: texts =>
    match room.after? text with
    | some rest => Room.left rest texts
    | none => room

@[simp] theorem Room.left_none (texts : List String) : Room.left none texts = none := by
  induction texts with
  | nil => rfl
  | cons text texts ih => simpa [Room.left, Room.after?] using ih

/-! ## Runs of two parts -/

/-- The run that goes on with another one at the value, if there is one. -/
def Run.followedBy (run : Run σ α) (next : α → Run σ β) : Run σ β :=
  match run.outcome with
  | .ok value =>
    { outcome := (next value).outcome
      written := run.written ++ (next value).written
      events := run.events ++ (next value).events
      calls := run.calls ++ (next value).calls
      operator := (next value).operator }
  | .error fault =>
    ⟨.error fault, run.written, run.events, run.calls, run.operator⟩

namespace Interaction

/-- What the second part finds is what the first one leaves. -/
theorem run_andThen (op : Operator σ) (room : Room) (first : Interaction α)
    (next : α → Interaction β) (s : σ) :
    (first.andThen next).run op room s =
      (first.run op room s).followedBy fun value =>
        (next value).run op (room.left (first.run op room s).written)
          (first.run op room s).operator := by
  induction first generalizing room s with
  | done value => simp [andThen, run, Run.followedBy, Room.left]
  | fail fault => simp [andThen, run, Run.followedBy]
  | write text rest ih =>
    simp only [andThen, run]
    cases hroom : room.after? text with
    | none => simp [Run.followedBy]
    | some left =>
      simp only [ih, Run.followedBy, Room.left, hroom]
      cases (rest.run op left s).outcome <;> rfl
  | note event rest ih =>
    simp only [andThen, run, ih, Run.followedBy]
    cases (rest.run op room s).outcome <;> rfl
  | ask question rest ih =>
    simp only [andThen, run]
    obtain ⟨answer, s'⟩ := op.ask question s
    cases answer with
    | error fault => simp [Run.followedBy]
    | ok answer =>
      simp only [ih, Run.followedBy]
      cases ((rest answer).run op room s').outcome <;> rfl
  | choose question options rest ih =>
    simp only [andThen, run]
    obtain ⟨choice, s'⟩ := op.choose question options s
    cases choice with
    | error fault => simp [Run.followedBy]
    | ok choice =>
      simp only [ih, Run.followedBy]
      cases ((rest choice).run op room s').outcome <;> rfl

@[simp] theorem bind_eq_andThen (first : Interaction α) (next : α → Interaction β) :
    first >>= next = first.andThen next :=
  rfl

@[simp] theorem pure_eq_done (value : α) : (pure value : Interaction α) = done value :=
  rfl

/-! ## What a run yields -/

/-- With no limit to its writing the run comes to the value, has written the text and
leaves the operator in state `s'`. -/
structure Yields (op : Operator σ) (s : σ) (interaction : Interaction α) (value : α)
    (text : String) (s' : σ) : Prop where
  outcome : (interaction.run op none s).outcome = .ok value
  text : (interaction.run op none s).text = text
  operator : (interaction.run op none s).operator = s'

section Yields

variable {op : Operator σ} {s s' s'' : σ} {value : α} {text : String}

theorem exists_yields_iff {interaction : Interaction α} :
    (∃ text s', Yields op s interaction value text s') ↔
      (interaction.run op none s).outcome = .ok value := by
  constructor
  · rintro ⟨text, s', h⟩
    exact h.outcome
  · intro h
    exact ⟨_, _, h, rfl, rfl⟩

@[simp] theorem yields_done_iff {result : α} :
    Yields op s (done result) value text s' ↔ value = result ∧ text = "" ∧ s' = s := by
  constructor
  · rintro ⟨houtcome, htext, hoperator⟩
    simp only [run, Except.ok.injEq] at houtcome hoperator
    exact ⟨houtcome.symm, htext.symm, hoperator.symm⟩
  · rintro ⟨rfl, rfl, rfl⟩
    exact ⟨rfl, rfl, rfl⟩

@[simp] theorem yields_fail_iff {fault : Fault} :
    Yields op s (fail fault) value text s' ↔ False := by
  constructor
  · rintro ⟨houtcome, -, -⟩
    simp [run] at houtcome
  · exact False.elim

theorem yields_andThen_iff {first : Interaction α} {next : α → Interaction β}
    {result : β} :
    Yields op s (first.andThen next) result text s'' ↔
      ∃ value before s' after, Yields op s first value before s' ∧
        Yields op s' (next value) result after s'' ∧ text = before ++ after := by
  constructor
  · rintro ⟨houtcome, htext, hoperator⟩
    simp only [run_andThen, Room.left_none] at houtcome htext hoperator
    cases hfirst : (first.run op none s).outcome with
    | error fault => simp [Run.followedBy, hfirst] at houtcome
    | ok value =>
      simp only [Run.followedBy, hfirst] at houtcome htext hoperator
      refine ⟨value, _, _, _, ⟨hfirst, rfl, rfl⟩, ⟨houtcome, rfl, hoperator⟩, ?_⟩
      rw [← htext, Run.text, String.join_append]
      rfl
  · rintro ⟨value, before, s', after, hfirst, hnext, rfl⟩
    have hrun := run_andThen op none first next s
    simp only [Room.left_none, Run.followedBy, hfirst.outcome, hfirst.operator] at hrun
    refine ⟨by rw [hrun]; exact hnext.outcome, ?_, by rw [hrun]; exact hnext.operator⟩
    rw [hrun, Run.text, String.join_append, ← hfirst.text, ← hnext.text]
    rfl

@[simp] theorem yields_note_iff {event : Event} {next : Interaction α} :
    Yields op s (note event next) value text s' ↔ Yields op s next value text s' := by
  constructor <;> rintro ⟨houtcome, htext, hoperator⟩ <;>
    exact ⟨houtcome, htext, hoperator⟩

theorem yields_write_iff {piece : String} {next : Interaction α} :
    Yields op s (write piece next) value text s' ↔
      ∃ after, Yields op s next value after s' ∧ text = piece ++ after := by
  constructor
  · rintro ⟨houtcome, htext, hoperator⟩
    refine ⟨_, ⟨houtcome, rfl, hoperator⟩, ?_⟩
    rw [← htext, Run.text, Run.text]
    simp [run, Room.after?, String.join_cons]
  · rintro ⟨after, h, rfl⟩
    refine ⟨h.outcome, ?_, h.operator⟩
    rw [← h.text, Run.text, Run.text]
    simp [run, Room.after?, String.join_cons]

@[simp] theorem yields_log_iff {event : Event} {nothing : Unit} :
    Yields op s (log event) nothing text s' ↔ text = "" ∧ s' = s := by
  simp [log]

@[simp] theorem yields_put_iff {piece : String} {nothing : Unit} :
    Yields op s (put piece) nothing text s' ↔ text = piece ∧ s' = s := by
  rw [put, yields_write_iff]
  constructor
  · rintro ⟨after, h, rfl⟩
    obtain ⟨-, rfl, rfl⟩ := yields_done_iff.mp h
    exact ⟨String.append_empty, rfl⟩
  · rintro ⟨rfl, rfl⟩
    exact ⟨"", yields_done_iff.mpr ⟨rfl, rfl, rfl⟩, String.append_empty.symm⟩

@[simp] theorem yields_ofExcept_iff {result : Except Fault α} :
    Yields op s (ofExcept result) value text s' ↔
      result = .ok value ∧ text = "" ∧ s' = s := by
  cases result with
  | ok result => simp [ofExcept, eq_comm]
  | error fault => simp [ofExcept]

theorem yields_ask_iff {question : String} {next : String → Interaction α} :
    Yields op s (ask question next) value text s'' ↔
      ∃ answer s', op.ask question s = (.ok answer, s') ∧
        Yields op s' (next answer) value text s'' := by
  cases hask : op.ask question s with
  | mk reply left =>
    cases reply with
    | error fault =>
      constructor
      · rintro ⟨houtcome, -, -⟩
        simp [run, hask] at houtcome
      · rintro ⟨answer, s', hreply, -⟩
        simp at hreply
    | ok reply =>
      constructor
      · rintro ⟨houtcome, htext, hoperator⟩
        simp only [run, hask] at houtcome htext hoperator
        exact ⟨reply, left, rfl, houtcome, htext, hoperator⟩
      · rintro ⟨answer, s', hreply, houtcome, htext, hoperator⟩
        simp only [Prod.mk.injEq, Except.ok.injEq] at hreply
        obtain ⟨rfl, rfl⟩ := hreply
        constructor <;> simpa only [run, hask]

theorem yields_choose_iff {question : String} {options : List String}
    {next : Nat → Interaction α} :
    Yields op s (choose question options next) value text s'' ↔
      ∃ choice s', op.choose question options s = (.ok choice, s') ∧
        Yields op s' (next choice) value text s'' := by
  cases hchoose : op.choose question options s with
  | mk reply left =>
    cases reply with
    | error fault =>
      constructor
      · rintro ⟨houtcome, -, -⟩
        simp [run, hchoose] at houtcome
      · rintro ⟨choice, s', hreply, -⟩
        simp at hreply
    | ok reply =>
      constructor
      · rintro ⟨houtcome, htext, hoperator⟩
        simp only [run, hchoose] at houtcome htext hoperator
        exact ⟨reply, left, rfl, houtcome, htext, hoperator⟩
      · rintro ⟨choice, s', hreply, houtcome, htext, hoperator⟩
        simp only [Prod.mk.injEq, Except.ok.injEq] at hreply
        obtain ⟨rfl, rfl⟩ := hreply
        constructor <;> simpa only [run, hchoose]

@[simp] theorem yields_inquire_iff {question answer : String} :
    Yields op s (inquire question) answer text s' ↔
      op.ask question s = (.ok answer, s') ∧ text = "" := by
  rw [inquire, yields_ask_iff]
  constructor
  · rintro ⟨reply, left, hask, hdone⟩
    obtain ⟨rfl, rfl, rfl⟩ := yields_done_iff.mp hdone
    exact ⟨hask, rfl⟩
  · rintro ⟨hask, rfl⟩
    exact ⟨answer, s', hask, yields_done_iff.mpr ⟨rfl, rfl, rfl⟩⟩

@[simp] theorem yields_select_iff {question : String} {options : List String}
    {choice : Nat} :
    Yields op s (select question options) choice text s' ↔
      op.choose question options s = (.ok choice, s') ∧ text = "" := by
  rw [select, yields_choose_iff]
  constructor
  · rintro ⟨reply, left, hchoose, hdone⟩
    obtain ⟨rfl, rfl, rfl⟩ := yields_done_iff.mp hdone
    exact ⟨hchoose, rfl⟩
  · rintro ⟨hchoose, rfl⟩
    exact ⟨choice, s', hchoose, yields_done_iff.mpr ⟨rfl, rfl, rfl⟩⟩

/-! ### First parts that write nothing -/

theorem yields_silent_andThen_iff {first : Interaction α} {next : α → Interaction β}
    {result : β} {P : α → σ → Prop}
    (hfirst : ∀ value text s', Yields op s first value text s' ↔ P value s' ∧ text = "") :
    Yields op s (first.andThen next) result text s'' ↔
      ∃ value s', P value s' ∧ Yields op s' (next value) result text s'' := by
  rw [yields_andThen_iff]
  constructor
  · rintro ⟨value, before, s', after, hbefore, hafter, rfl⟩
    obtain ⟨hvalue, rfl⟩ := (hfirst value before s').mp hbefore
    rw [String.empty_append]
    exact ⟨value, s', hvalue, hafter⟩
  · rintro ⟨value, s', hvalue, hnext⟩
    refine ⟨value, "", s', text, (hfirst value "" s').mpr ⟨hvalue, rfl⟩, hnext, ?_⟩
    rw [String.empty_append]

theorem yields_log_andThen_iff {event : Event} {next : Unit → Interaction β} {result : β} :
    Yields op s ((log event).andThen next) result text s' ↔
      Yields op s (next ()) result text s' := by
  rw [log, andThen, yields_note_iff]
  rfl

theorem yields_ofExcept_andThen_iff {check : Except Fault α} {next : α → Interaction β}
    {result : β} :
    Yields op s ((ofExcept check).andThen next) result text s' ↔
      ∃ value, check = .ok value ∧ Yields op s (next value) result text s' := by
  cases check with
  | ok value => simp [ofExcept]
  | error fault => simp [ofExcept, andThen]

/-! ### Parts that ask nothing -/

/-- The part comes to the value and writes the text if the condition holds, and otherwise
it comes to no value.  It leaves the operator alone. -/
def Writes (op : Operator σ) (s : σ) (interaction : Interaction α) (condition : Prop)
    (value : α) (text : String) : Prop :=
  ∀ value' text' s', Yields op s interaction value' text' s' ↔
    condition ∧ value' = value ∧ text' = text ∧ s' = s

theorem Writes.andThen {first : Interaction α} {next : α → Interaction β} {P Q : Prop}
    {result : β} {before after : String} (hfirst : Writes op s first P value before)
    (hnext : P → Writes op s (next value) Q result after) :
    Writes op s (first.andThen next) (P ∧ Q) result (before ++ after) := by
  intro result' text' s'
  rw [yields_andThen_iff]
  constructor
  · rintro ⟨value', before', left, after', hbefore, hafter, rfl⟩
    obtain ⟨hP, rfl, rfl, rfl⟩ := (hfirst value' before' left).mp hbefore
    obtain ⟨hQ, rfl, rfl, rfl⟩ := (hnext hP result' after' s').mp hafter
    exact ⟨⟨hP, hQ⟩, rfl, rfl, rfl⟩
  · rintro ⟨⟨hP, hQ⟩, rfl, rfl, rfl⟩
    exact ⟨value, before, s', after, (hfirst _ _ _).mpr ⟨hP, rfl, rfl, rfl⟩,
      (hnext hP _ _ _).mpr ⟨hQ, rfl, rfl, rfl⟩, rfl⟩

theorem Writes.congr {interaction : Interaction α} {P Q : Prop} {text' : String}
    (h : Writes op s interaction P value text) (hcondition : P ↔ Q)
    (htext : text = text') : Writes op s interaction Q value text' := by
  subst htext
  intro value' text' s'
  rw [h, hcondition]

theorem writes_done : Writes op s (done value) True value "" := by
  intro value' text' s'
  rw [yields_done_iff, true_and]

theorem writes_log {event : Event} : Writes op s (log event) True () "" := by
  intro value' text' s'
  rw [yields_log_iff, true_and]
  exact (and_iff_right rfl).symm

theorem writes_put {piece : String} : Writes op s (put piece) True () piece := by
  intro value' text' s'
  rw [yields_put_iff, true_and]
  exact (and_iff_right rfl).symm

theorem writes_ofExcept {check : Except Fault α} {P : Prop}
    (hcheck : ∀ result, check = .ok result ↔ P ∧ result = value) :
    Writes op s (ofExcept check) P value "" := by
  intro value' text' s'
  rw [yields_ofExcept_iff, hcheck, and_assoc]

end Yields

end Interaction

/-! ## Runs with different events -/

/-- The runs differ in nothing but the events that they note. -/
structure Run.SameButEvents (run other : Run σ α) : Prop where
  outcome : run.outcome = other.outcome
  written : run.written = other.written
  calls : run.calls = other.calls
  operator : run.operator = other.operator

namespace Run.SameButEvents

variable {first second third : Run σ α}

theorem refl (run : Run σ α) : run.SameButEvents run :=
  ⟨rfl, rfl, rfl, rfl⟩

theorem symm (h : first.SameButEvents second) : second.SameButEvents first :=
  ⟨h.outcome.symm, h.written.symm, h.calls.symm, h.operator.symm⟩

theorem trans (h : first.SameButEvents second) (h' : second.SameButEvents third) :
    first.SameButEvents third :=
  ⟨h.outcome.trans h'.outcome, h.written.trans h'.written, h.calls.trans h'.calls,
    h.operator.trans h'.operator⟩

end Run.SameButEvents

/-- Noting events first makes no other difference. -/
theorem Interaction.sameButEvents_each_log (op : Operator σ) (room : Room) (s : σ)
    (events : List Event) (next : Unit → Interaction α) :
    (((each log events).andThen next).run op room s).SameButEvents
      ((next ()).run op room s) := by
  induction events with
  | nil => exact .refl _
  | cons event events ih => exact ⟨ih.outcome, ih.written, ih.calls, ih.operator⟩

end CloudLift

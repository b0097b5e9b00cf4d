import CloudLift.Proofs.Interaction

/-!
# What a run has written wherever it stops

A run can stop at a fault, at a question that gets no answer, and at a text for which there
is no room.  `Maintains` follows a tree with the pieces that were written before each node.
It asks for one property of the pieces wherever a run can stop, and for another one where the
tree comes to a value.  It looks at all branches, so neither the operator nor the room matters.

Most parts write the same pieces in every run.  `Emits` names them, and then a run of such a
part that stops has written the first few of them.
-/

namespace CloudLift.Interaction

variable {σ α β : Type} {always : List String → Prop}

def Maintains (always : List String → Prop) (after : α → List String → Prop) :
    Interaction α → List String → Prop
  | .done value, written => after value written
  | .fail _, written => always written
  | .write text next, written =>
    always written ∧ next.Maintains always after (written ++ [text])
  | .note _ next, written => next.Maintains always after written
  | .ask _ next, written =>
    always written ∧ ∀ answer, (next answer).Maintains always after written
  | .choose _ _ next, written =>
    always written ∧ ∀ choice, (next choice).Maintains always after written

section Maintains

variable {after : α → List String → Prop} {written : List String}

/-- The pieces of a run come after those that were written before. -/
theorem Maintains.run {interaction : Interaction α}
    (h : interaction.Maintains always after written)
    (hafter : ∀ value pieces, after value pieces → always pieces)
    (op : Operator σ) (room : Room) (s : σ) :
    always (written ++ (interaction.run op room s).written) ∧
      ∀ value, (interaction.run op room s).outcome = .ok value →
        after value (written ++ (interaction.run op room s).written) := by
  induction interaction generalizing written room s with
  | done value =>
    have hvalue : after value written := h
    simp only [Interaction.run, List.append_nil]
    refine ⟨hafter value written hvalue, ?_⟩
    intro other hother
    exact Except.ok.inj hother ▸ hvalue
  | fail fault =>
    have hstop : always written := h
    simp only [Interaction.run, List.append_nil]
    refine ⟨hstop, ?_⟩
    intro value hvalue
    cases hvalue
  | write text next ih =>
    simp only [Interaction.run]
    cases hroom : room.after? text with
    | none =>
      rw [List.append_nil]
      refine ⟨h.1, ?_⟩
      intro value hvalue
      cases hvalue
    | some left =>
      have hnext := ih h.2 left s
      rw [List.append_assoc, List.singleton_append] at hnext
      exact hnext
  | note event next ih => exact ih h room s
  | ask question next ih =>
    simp only [Interaction.run]
    cases hask : op.ask question s with
    | mk reply left =>
      cases reply with
      | error fault =>
        rw [List.append_nil]
        refine ⟨h.1, ?_⟩
        intro value hvalue
        cases hvalue
      | ok answer => exact ih answer (h.2 answer) room left
  | choose question options next ih =>
    simp only [Interaction.run]
    cases hchoose : op.choose question options s with
    | mk reply left =>
      cases reply with
      | error fault =>
        rw [List.append_nil]
        refine ⟨h.1, ?_⟩
        intro value hvalue
        cases hvalue
      | ok choice => exact ih choice (h.2 choice) room left

theorem maintains_andThen_iff {first : Interaction β} {next : β → Interaction α} :
    (first.andThen next).Maintains always after written ↔
      first.Maintains always (fun value => (next value).Maintains always after) written := by
  induction first generalizing written with
  | done value => rfl
  | fail fault => rfl
  | write text rest ih => exact and_congr_right fun _ => ih
  | note event rest ih => exact ih
  | ask question rest ih => exact and_congr_right fun _ => forall_congr' fun answer => ih answer
  | choose question options rest ih =>
    exact and_congr_right fun _ => forall_congr' fun choice => ih choice

theorem maintains_ofExcept {check : Except Fault α} (halways : always written)
    (hafter : ∀ value, check = .ok value → after value written) :
    (ofExcept check).Maintains always after written := by
  cases check with
  | ok value => exact hafter value rfl
  | error fault => exact halways

end Maintains

/-! ## Parts that always write the same pieces -/

/-- A run that stops has written a front part of the pieces.  A run that comes to a value has
written all of them, and the value is one of those that are described. -/
def Emits (interaction : Interaction α) (pieces : List String) (described : α → Prop) : Prop :=
  ∀ (always : List String → Prop) (after : α → List String → Prop) (written : List String),
    (∀ front, front <+: pieces → always (written ++ front)) →
    (∀ value, described value → after value (written ++ pieces)) →
    interaction.Maintains always after written

section Emits

variable {first : Interaction α} {next : α → Interaction β} {P : α → Prop}
  {Q : α → β → Prop} {pieces more : List String}

theorem Emits.after_run (h : Emits first pieces P) (op : Operator σ) (room : Room) (s : σ)
    {value : α} (houtcome : (first.run op room s).outcome = .ok value) :
    (first.run op room s).written = pieces ∧ P value := by
  have hmaintains : first.Maintains (fun _ => True)
      (fun result written => written = pieces ∧ P result) [] := by
    apply h
    · intro _ _
      trivial
    · intro result hresult
      exact ⟨List.nil_append _, hresult⟩
  exact (hmaintains.run (fun _ _ _ => trivial) op room s).2 value houtcome

theorem Emits.andThen (hfirst : Emits first pieces P)
    (hnext : ∀ value, P value → Emits (next value) more (Q value)) :
    Emits (first.andThen next) (pieces ++ more)
      fun result => ∃ value, P value ∧ Q value result := by
  intro always after written halways hafter
  rw [maintains_andThen_iff]
  apply hfirst
  · intro front hfront
    exact halways front (hfront.trans (List.prefix_append pieces more))
  · intro value hvalue
    apply hnext value hvalue
    · intro front hfront
      rw [List.append_assoc]
      exact halways (pieces ++ front) ((List.prefix_append_right_inj pieces).mpr hfront)
    · intro result hresult
      rw [List.append_assoc]
      exact hafter result ⟨value, hvalue, hresult⟩

theorem Emits.congr {P' : α → Prop} {pieces' : List String} (h : Emits first pieces P)
    (hpieces : pieces = pieces') (hdescribed : ∀ value, P value → P' value) :
    Emits first pieces' P' := by
  subst hpieces
  intro always after written halways hafter
  exact h always after written halways fun value hvalue => hafter value (hdescribed value hvalue)

/-- The case of a first part that can come to one value only. -/
theorem Emits.andThenAt {condition : Prop} {known : α} {R : β → Prop}
    (hfirst : Emits first pieces fun value => condition ∧ value = known)
    (hnext : condition → Emits (next known) more R) :
    Emits (first.andThen next) (pieces ++ more) fun result => condition ∧ R result := by
  have hparts : Emits (first.andThen next) (pieces ++ more) fun result =>
      ∃ value, (condition ∧ value = known) ∧ R result := by
    apply hfirst.andThen
    intro value hvalue
    rw [hvalue.2]
    exact hnext hvalue.1
  apply hparts.congr rfl
  intro result hresult
  rcases hresult with ⟨value, hvalue, hR⟩
  exact ⟨hvalue.1, hR⟩

theorem Emits.afterLog (h : Emits first pieces P) {event : Event} :
    Emits ((log event).andThen fun _ => first) pieces P :=
  h

/-- A part that writes nothing leaves the pieces as they are. -/
theorem emits_nil_iff :
    Emits first [] P ↔
      ∀ (always : List String → Prop) (after : α → List String → Prop) (written : List String),
        always written → (∀ value, P value → after value written) →
        first.Maintains always after written := by
  constructor
  · intro h always after written halways hafter
    apply h
    · intro front hfront
      rw [List.prefix_nil.mp hfront, List.append_nil]
      exact halways
    · intro value hvalue
      rw [List.append_nil]
      exact hafter value hvalue
  · intro h always after written halways hafter
    have hstop := halways [] List.nil_prefix
    rw [List.append_nil] at hstop hafter
    exact h always after written hstop hafter

theorem emits_done {value : α} : Emits (done value) [] fun result => result = value :=
  emits_nil_iff.mpr fun _ _ _ _ hafter => hafter value rfl

theorem emits_fail {fault : Fault} : Emits (fail fault : Interaction α) [] fun _ => False :=
  emits_nil_iff.mpr fun _ _ _ halways _ => halways

theorem emits_inquire {question : String} : Emits (inquire question) [] fun _ => True :=
  emits_nil_iff.mpr fun _ _ _ halways hafter => ⟨halways, fun answer => hafter answer trivial⟩

theorem emits_select {question : String} {options : List String} :
    Emits (select question options) [] fun _ => True :=
  emits_nil_iff.mpr fun _ _ _ halways hafter => ⟨halways, fun choice => hafter choice trivial⟩

theorem emits_ofExcept {check : Except Fault α} :
    Emits (ofExcept check) [] fun value => check = .ok value :=
  emits_nil_iff.mpr fun _ _ _ halways hafter => maintains_ofExcept halways hafter

theorem emits_put {piece : String} : Emits (put piece) [piece] fun _ => True := by
  intro always after written halways hafter
  have hstop := halways [] List.nil_prefix
  rw [List.append_nil] at hstop
  exact ⟨hstop, hafter () trivial⟩

end Emits

end CloudLift.Interaction

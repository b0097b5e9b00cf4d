import CloudLift.Operator.Terminal
import CloudLift.Proofs.Interaction

/-!
# Talking to a terminal

A terminal answers with a word or with the number of an option, and some input is used up
by that.  If it does not, it has met one of three faults: there is no more input, the input
is not text, or there is no room for what is printed.
-/

namespace CloudLift

theorem Text.ne_empty_of_mem_words {text word : String} (hword : word ∈ Text.words text) :
    word ≠ "" := by
  rcases List.mem_map.mp hword with ⟨chars, hchars, rfl⟩
  intro hempty
  exact (Text.Chars.not_isBlank_of_mem_words hchars).1 (String.ofList_eq_empty_iff.mp hempty)

theorem choice?_lt {size choice : Nat} {answer : String}
    (hchoice : choice? size answer = some choice) : choice < size := by
  unfold choice? at hchoice
  split at hchoice
  · split at hchoice
    · cases hchoice
      omega
    · cases hchoice
  · cases hchoice

theorem choice?_of_range {size number : Nat} {answer : String}
    (hnumber : Text.numeralBelow? Text.wordBound answer = some number)
    (hrange : 1 ≤ number ∧ number ≤ size) : choice? size answer = some (number - 1) := by
  unfold choice?
  rw [hnumber]
  exact if_pos hrange

theorem choice?_eq_none {size : Nat} {answer : String}
    (hnone : ∀ number, Text.numeralBelow? Text.wordBound answer = some number →
      ¬ (1 ≤ number ∧ number ≤ size)) : choice? size answer = none := by
  unfold choice?
  cases hnumber : Text.numeralBelow? Text.wordBound answer with
  | none => rfl
  | some number => exact if_neg (hnone number hnumber)

namespace Terminal

def faults : List Fault :=
  [.inputClosed, .io .invalidUtf8, .io .full]

theorem print_eq_some {terminal left : Terminal} {pieces : List String} {fault : Fault}
    (hprint : terminal.print pieces = (some fault, left)) : fault ∈ faults := by
  induction pieces generalizing terminal with
  | nil =>
    rw [print] at hprint
    cases hprint
  | cons piece pieces ih =>
    rw [print] at hprint
    cases hroom : terminal.room.after? piece with
    | none =>
      rw [hroom] at hprint
      cases hprint
      simp [faults]
    | some room =>
      rw [hroom] at hprint
      exact ih hprint

theorem readWord_eq_error {input rest : List UInt8} {fault : Fault}
    (hread : readWord input = (.error fault, rest)) : fault ∈ faults := by
  fun_induction readWord input with
  | case1 =>
    cases hread
    simp [faults]
  | case2 =>
    have hfault := Except.error.inj (Prod.mk.inj hread).1
    rw [← hfault]
    simp [faults]
  | case3 => cases hread
  | case4 _ _ _ _ _ _ _ _ _ ih => exact ih hread

theorem readWord_ne_empty {input rest : List UInt8} {word : String}
    (hread : readWord input = (.ok word, rest)) : word ≠ "" := by
  fun_induction readWord input with
  | case1 => cases hread
  | case2 => cases hread
  | case3 _ _ _ _ _ _ _ _ _ _ hwords =>
    have hword := Except.ok.inj (Prod.mk.inj hread).1
    rw [← hword]
    apply Text.ne_empty_of_mem_words
    rw [hwords]
    exact List.mem_cons_self
  | case4 _ _ _ _ _ _ _ _ _ ih => exact ih hread

/-- The value is good and was read from the input, or there was a fault. -/
def Reads {α : Type} (terminal : Terminal) (good : α → Prop) :
    Except Fault α × Terminal → Prop
  | (.ok value, left) => good value ∧ left.input.length < terminal.input.length
  | (.error fault, _) => fault ∈ faults

theorem Reads.of_le {α : Type} {terminal later : Terminal} {good : α → Prop}
    {reply : Except Fault α × Terminal} (hreads : later.Reads good reply)
    (hle : later.input.length ≤ terminal.input.length) : terminal.Reads good reply := by
  rcases reply with ⟨result, left⟩
  cases result with
  | ok value => exact ⟨hreads.1, Nat.lt_of_lt_of_le hreads.2 hle⟩
  | error fault => exact hreads

theorem reads_ask (question : String) (terminal : Terminal) :
    terminal.Reads (fun word => word ≠ "") (terminal.ask question) := by
  unfold ask
  have hinput := input_print terminal [question, "\n"]
  cases hprint : terminal.print [question, "\n"] with
  | mk fault? shown =>
    rw [hprint] at hinput
    cases fault? with
    | some fault => exact print_eq_some hprint
    | none =>
      dsimp only at hinput ⊢
      cases hread : readWord shown.input with
      | mk answer rest =>
        cases answer with
        | error fault => exact readWord_eq_error hread
        | ok word =>
          rw [hinput] at hread
          exact ⟨readWord_ne_empty hread, length_readWord_lt hread⟩

theorem reads_chooseFrom (question : String) (options : List String) (terminal : Terminal) :
    terminal.Reads (fun choice => choice < options.length)
      (terminal.chooseFrom question options) := by
  fun_induction chooseFrom question options terminal with
  | case1 terminal fault left hprint => exact print_eq_some hprint
  | case2 terminal shown hprint fault rest hread => exact readWord_eq_error hread
  | case3 terminal shown hprint answer rest hread choice hchoice =>
    have hinput := input_print terminal (menu question options)
    rw [hprint] at hinput
    dsimp only at hinput
    rw [hinput] at hread
    exact ⟨choice?_lt hchoice, length_readWord_lt hread⟩
  | case4 terminal shown hprint answer rest hread hchoice fault left hwarning =>
    exact print_eq_some hwarning
  | case5 terminal shown hprint answer rest hread hchoice warned hwarning ih =>
    have hinput := input_print terminal (menu question options)
    have hwarned := input_print { shown with input := rest }
      (warning shown.coloured (refusal answer) ++ ["\n"])
    rw [hprint] at hinput
    rw [hwarning] at hwarned
    dsimp only at hinput hwarned
    rw [hinput] at hread
    apply ih.of_le
    rw [hwarned]
    exact Nat.le_of_lt (length_readWord_lt hread)

theorem reads_choose (question : String) {options : List String} (hoptions : options ≠ [])
    (terminal : Terminal) :
    terminal.Reads (fun choice => choice < options.length)
      (terminal.choose question options) := by
  rw [choose, if_neg]
  · exact reads_chooseFrom question options terminal
  · rw [List.isEmpty_iff]
    exact hoptions

/-! ## Interactions at a terminal -/

variable {α β : Type} {bound : Nat} {good : α → Prop}

/-- With at most so much input the interaction comes to a good value, and there is at most
so much input afterwards, or the terminal meets a fault. -/
def Serves (bound : Nat) (interaction : Interaction α) (good : α → Prop) : Prop :=
  ∀ terminal : Terminal, terminal.input.length ≤ bound →
    match (interaction.run Operator.terminal none terminal).outcome with
    | .ok value =>
      good value ∧
        (interaction.run Operator.terminal none terminal).operator.input.length ≤ bound
    | .error fault => fault ∈ faults

theorem serves_done {value : α} (hvalue : good value) : Serves bound (.done value) good := by
  intro terminal hinput
  exact ⟨hvalue, hinput⟩

theorem serves_foldr_note {events : List Event} {next : Interaction α}
    (hnext : Serves bound next good) : Serves bound (events.foldr .note next) good := by
  induction events with
  | nil => exact hnext
  | cons event events ih => exact ih

theorem serves_ask {question : String} {next : String → Interaction α}
    (hnext : ∀ word shorter, word ≠ "" → shorter < bound → Serves shorter (next word) good) :
    Serves bound (.ask question next) good := by
  intro terminal hinput
  have hreads : terminal.Reads _ (Operator.terminal.ask question terminal) :=
    reads_ask question terminal
  simp only [Interaction.run]
  cases hask : Operator.terminal.ask question terminal with
  | mk reply left =>
    rw [hask] at hreads
    cases reply with
    | error fault => exact hreads
    | ok word =>
      have hshorter : left.input.length < bound := Nat.lt_of_lt_of_le hreads.2 hinput
      have hserves := hnext word left.input.length hreads.1 hshorter left (Nat.le_refl _)
      dsimp only
      cases houtcome : ((next word).run Operator.terminal none left).outcome with
      | error fault =>
        rw [houtcome] at hserves
        exact hserves
      | ok value =>
        rw [houtcome] at hserves
        exact ⟨hserves.1, Nat.le_of_lt (Nat.lt_of_le_of_lt hserves.2 hshorter)⟩

theorem serves_choose {question : String} {options : List String} (hoptions : options ≠ [])
    {next : Nat → Interaction α}
    (hnext : ∀ choice, choice < options.length → Serves bound (next choice) good) :
    Serves bound (.choose question options next) good := by
  intro terminal hinput
  have hreads : terminal.Reads _ (Operator.terminal.choose question options terminal) :=
    reads_choose question hoptions terminal
  simp only [Interaction.run]
  cases hchoose : Operator.terminal.choose question options terminal with
  | mk reply left =>
    rw [hchoose] at hreads
    cases reply with
    | error fault => exact hreads
    | ok choice =>
      have hshorter := hreads.2
      exact hnext choice hreads.1 left (by omega)

theorem Serves.andThen {first : Interaction α} {next : α → Interaction β} {better : β → Prop}
    (hfirst : Serves bound first good)
    (hnext : ∀ value, good value → Serves bound (next value) better) :
    Serves bound (first.andThen next) better := by
  intro terminal hinput
  have hserves := hfirst terminal hinput
  rw [Interaction.run_andThen, Room.left_none, Run.followedBy]
  cases houtcome : (first.run Operator.terminal none terminal).outcome with
  | error fault =>
    rw [houtcome] at hserves
    exact hserves
  | ok value =>
    rw [houtcome] at hserves
    exact hnext value hserves.1 _ hserves.2

theorem Serves.weaken {interaction : Interaction α} {better : α → Prop}
    (hserves : Serves bound interaction good) (hgood : ∀ value, good value → better value) :
    Serves bound interaction better := by
  have hdone := hserves.andThen fun value hvalue => serves_done (hgood value hvalue)
  rw [Interaction.andThen_done] at hdone
  exact hdone

end Terminal

end CloudLift

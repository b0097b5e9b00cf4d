import CloudLift.Conversion.Source
import CloudLift.Proofs.Operator.Terminal
import CloudLift.Proofs.Text.Margins
import CloudLift.Proofs.Transcript
import CloudLift.Settings.Questions
import Mathlib.Data.List.TakeWhile

/-!
# Answers that are typed

Answers from a list can be typed at a terminal instead, one a line.  If each of them is a
word, the terminal reads it back as it is, and a line is used up where the list gives one
answer.  So the two operators reply alike for as long as the list has acceptable answers,
and that is all an interaction sees of an operator.

Where the two differ is in answers that are not acceptable: a terminal puts a choice again
and a list does not.  Either way the choice that comes out is one of the options, and
whoever looks it up in a list of the same length finds it.
-/

namespace CloudLift

variable {σ α : Type}

/-! ## Words -/

/-- Something, with no blank in it. -/
def Text.IsWord (text : String) : Prop :=
  text ≠ "" ∧ ∀ c ∈ text.toList, Text.isBlank c = false

instance (text : String) : Decidable (Text.IsWord text) :=
  have : Decidable (∀ c ∈ text.toList, Text.isBlank c = false) := List.decidableBAll _ _
  inferInstanceAs (Decidable (_ ∧ _))

theorem Text.words_of_isWord {text : String} (hword : IsWord text) : words text = [text] := by
  have hne : text.toList ≠ [] := by
    rw [ne_eq, String.toList_eq_nil_iff]
    exact hword.1
  rw [words, Chars.words_eq_singleton hne hword.2, List.map_singleton, String.ofList_toList]

namespace Terminal

/-! ## One answer -/

/-- The bytes of the answers, each on a line of its own. -/
def typed (answers : List String) : List UInt8 :=
  answers.flatMap fun answer => Text.Utf8.encode answer ++ [Text.Utf8.lineFeed]

theorem lineFeed_notMem_encode {text : String} (htext : '\n' ∉ text.toList) :
    Text.Utf8.lineFeed ∉ Text.Utf8.encode text := by
  rw [Text.Utf8.encode_eq_flatMap]
  intro hmem
  obtain ⟨c, hc, hbyte⟩ := List.mem_flatMap.mp hmem
  have hne : c ≠ '\n' := by
    intro heq
    exact htext (heq ▸ hc)
  exact Text.Utf8.lineFeed_notMem_utf8EncodeChar hne hbyte

theorem readWord_typed {answer : String} (hword : Text.IsWord answer) (answers : List String) :
    readWord (typed (answer :: answers)) = (.ok answer, typed answers) := by
  have hfeed : Text.Utf8.lineFeed ∉ Text.Utf8.encode answer := by
    apply lineFeed_notMem_encode
    intro hmem
    exact absurd (hword.2 '\n' hmem) (by decide)
  have hcut : Text.Utf8.cutLine (typed (answer :: answers)) =
      (Text.Utf8.encode answer, some (typed answers)) := by
    rw [typed, List.flatMap_cons, List.append_assoc,
      Text.Utf8.cutLine_append_of_notMem hfeed]
    simp [Text.Utf8.cutLine, typed]
  cases hinput : typed (answer :: answers) with
  | nil => simp [typed] at hinput
  | cons b bytes =>
    rw [hinput] at hcut
    rw [readWord, hcut]
    simp only [Text.Utf8.decode?_encode, Text.words_of_isWord hword, Option.getD_some]

/-- Nothing limits what is printed, and the input is what is typed. -/
structure Awaits (terminal : Terminal) (answers : List String) : Prop where
  room : terminal.room = none
  input : terminal.input = typed answers

variable {terminal : Terminal} {answer : String} {answers : List String}

theorem print_of_room (hroom : terminal.room = none) (pieces : List String) :
    terminal.print pieces = (none, { terminal with printed := terminal.printed ++ pieces }) := by
  induction pieces generalizing terminal with
  | nil => simp [print]
  | cons piece pieces ih =>
    rw [print, hroom]
    simp only [Room.after?]
    rw [ih rfl, List.append_assoc]
    rw [← hroom]
    rfl

theorem Awaits.ask (hawaits : terminal.Awaits (answer :: answers))
    (hword : Text.IsWord answer) (question : String) :
    ∃ left, Terminal.ask question terminal = (.ok answer, left) ∧ left.Awaits answers := by
  rw [Terminal.ask, print_of_room hawaits.room]
  dsimp only
  rw [hawaits.input, readWord_typed hword]
  exact ⟨_, rfl, hawaits.room, rfl⟩

theorem Awaits.choose (hawaits : terminal.Awaits (answer :: answers))
    (hword : Text.IsWord answer) {options : List String} {choice : Nat}
    (hchoice : choice? options.length answer = some choice) (question : String) :
    ∃ left, Terminal.choose question options terminal = (.ok choice, left) ∧
      left.Awaits answers := by
  have hoptions : ¬ options.isEmpty = true := by
    intro hempty
    have hlt := choice?_lt hchoice
    rw [List.isEmpty_iff.mp hempty] at hlt
    exact Nat.not_lt_zero _ hlt
  rw [Terminal.choose, if_neg hoptions, chooseFrom, print_of_room hawaits.room]
  dsimp only
  rw [hawaits.input, readWord_typed hword]
  dsimp only
  rw [hchoice]
  exact ⟨_, rfl, hawaits.room, rfl⟩

end Terminal

/-! ## All answers -/

/-- The act is not a call that failed. -/
def Act.succeeded : Act → Bool
  | asked _ (.error _) => false
  | chose _ _ (.error _) => false
  | _ => true

namespace Terminal

open Interaction

variable {terminal : Terminal} {answers : List String} {interaction : Interaction α}

/-- With the answers at the terminal the interaction goes as it goes with the list of them:
the same calls get the same replies.  Each call uses up one answer of the list, and at the
terminal the line of that answer. -/
structure Echoes (terminal : Terminal) (answers : List String) (interaction : Interaction α) :
    Prop where
  transcript : interaction.transcript Operator.terminal terminal =
    interaction.transcript Operator.scripted answers
  outcome : (interaction.run Operator.terminal none terminal).outcome =
    (interaction.run Operator.scripted none answers).outcome
  unused : (interaction.run Operator.scripted none answers).operator =
    answers.drop (interaction.run Operator.scripted none answers).calls.length
  unread : (interaction.run Operator.terminal none terminal).operator.input =
    typed (answers.drop (interaction.run Operator.scripted none answers).calls.length)

theorem echoes_of_succeeded (hawaits : terminal.Awaits answers)
    (hwords : ∀ answer ∈ answers, Text.IsWord answer)
    (hsucceeded : (interaction.transcript Operator.scripted answers).all Act.succeeded = true) :
    terminal.Echoes answers interaction := by
  -- The operators change with every call, so the answers and the terminal are general.
  induction interaction generalizing terminal answers with
  | done value => exact ⟨rfl, rfl, rfl, hawaits.input⟩
  | fail fault => exact ⟨rfl, rfl, rfl, hawaits.input⟩
  | write text next ih =>
    have hnext := ih hawaits hwords hsucceeded
    exact ⟨congrArg (List.cons _) hnext.transcript, hnext.outcome, hnext.unused, hnext.unread⟩
  | note event next ih =>
    have hnext := ih hawaits hwords hsucceeded
    exact ⟨hnext.transcript, hnext.outcome, hnext.unused, hnext.unread⟩
  | ask question next ih =>
    cases answers with
    | nil => simp [transcript, Operator.scripted, Act.succeeded] at hsucceeded
    | cons answer answers =>
      obtain ⟨left, hask, hleft⟩ :=
        hawaits.ask (hwords answer List.mem_cons_self) question
      have hreply : Operator.terminal.ask question terminal = (.ok answer, left) := hask
      have hnext := ih answer hleft (fun other hother => hwords other (List.mem_cons_of_mem _ hother))
        hsucceeded
      constructor
      case transcript =>
        simp only [transcript, hreply]
        exact congrArg (List.cons _) hnext.transcript
      case outcome =>
        simp only [run, hreply]
        exact hnext.outcome
      case unused => exact hnext.unused
      case unread =>
        simp only [run, hreply]
        exact hnext.unread
  | choose question options next ih =>
    cases answers with
    | nil => simp [transcript, Operator.scripted, Act.succeeded] at hsucceeded
    | cons answer answers =>
      cases hchoice : choice? options.length answer with
      | none =>
        simp [transcript, Operator.scripted, hchoice, Act.succeeded] at hsucceeded
      | some choice =>
        obtain ⟨left, hchoose, hleft⟩ :=
          hawaits.choose (hwords answer List.mem_cons_self) hchoice question
        have hreply : Operator.terminal.choose question options terminal = (.ok choice, left) :=
          hchoose
        have hlisted : Operator.scripted.choose question options (answer :: answers) =
            (.ok choice, answers) := by
          simp [Operator.scripted, hchoice]
        simp only [transcript, hlisted, List.all_cons, Bool.and_eq_true] at hsucceeded
        have hnext := ih choice hleft
          (fun other hother => hwords other (List.mem_cons_of_mem _ hother)) hsucceeded.2
        constructor
        case transcript =>
          simp only [transcript, hreply, hlisted]
          exact congrArg (List.cons _) hnext.transcript
        case outcome =>
          simp only [run, hreply, hlisted]
          exact hnext.outcome
        case unused =>
          simp only [run, hlisted]
          exact hnext.unused
        case unread =>
          simp only [run, hreply, hlisted]
          exact hnext.unread

end Terminal

/-! ## Choices in range -/

namespace Operator

/-- Every choice is one of the options.  So a zone that is chosen is found among the zones,
and a source among the names that were offered. -/
structure ChoosesInRange (op : Operator σ) : Prop where
  choice_lt : ∀ question options s choice left,
    op.choose question options s = (.ok choice, left) → choice < options.length
  zone : ∀ s choice left, op.choose zoneQuestion zones s = (.ok choice, left) →
    ∃ hzone : choice < zones.length, ∀ room,
      ((zoneOrAsk none).run op room s).outcome = .ok zones[choice]
  source : ∀ (request : Request) (names : List String) s choice left, 2 ≤ names.length →
    op.choose Request.sourceQuestion names s = (.ok choice, left) →
    ∃ hname : choice < names.length, ∀ room,
      ((request.selectAmong names).run op room s).outcome =
        .ok (request.directory.child names[choice])

theorem choosesInRange_of_choice_lt {op : Operator σ}
    (hchoice_lt : ∀ question options s choice left,
      op.choose question options s = (.ok choice, left) → choice < options.length) :
    op.ChoosesInRange := by
  refine ⟨hchoice_lt, ?zone, ?source⟩
  case zone =>
    intro s choice left hchoose
    have hzone := hchoice_lt zoneQuestion zones s choice left hchoose
    refine ⟨hzone, fun room => ?_⟩
    simp only [zoneOrAsk, Interaction.bind_eq_andThen, Interaction.select,
      Interaction.andThen, Interaction.run, hchoose, List.getElem?_eq_getElem hzone]
    rfl
  case source =>
    intro request names s choice left hnames hchoose
    have hname := hchoice_lt Request.sourceQuestion names s choice left hchoose
    refine ⟨hname, fun room => ?_⟩
    -- With fewer than two names nothing is asked.
    cases names with
    | nil => simp at hnames
    | cons first rest =>
      cases rest with
      | nil => simp at hnames
      | cons second rest =>
        simp only [Request.selectAmong, Interaction.bind_eq_andThen, Interaction.select,
          Interaction.andThen, Interaction.run, hchoose, List.getElem?_eq_getElem hname]
        rfl

theorem scripted_choosesInRange : scripted.ChoosesInRange := by
  apply choosesInRange_of_choice_lt
  intro question options answers choice left hchoose
  cases answers with
  | nil => cases hchoose
  | cons answer answers =>
    cases hchoice : choice? options.length answer with
    | none => simp [scripted, hchoice] at hchoose
    | some other =>
      have hother : other = choice := by
        simp only [scripted, hchoice, Prod.mk.injEq, Except.ok.injEq] at hchoose
        exact hchoose.1
      exact hother ▸ choice?_lt hchoice

theorem terminal_choosesInRange : terminal.ChoosesInRange := by
  apply choosesInRange_of_choice_lt
  intro question options shown choice left hchoose
  have hreply : Terminal.choose question options shown = (.ok choice, left) := hchoose
  by_cases hoptions : options = []
  · subst hoptions
    cases hreply
  · have hreads := Terminal.reads_choose question hoptions shown
    rw [hreply] at hreads
    exact hreads.1

/-- If every call succeeds with the answers in a list, and the answers are words, then
every call succeeds alike at a terminal where they are typed, and the input that is used up
is the lines of the answers that are used up.  The choices of both operators are among the
options, and are found where they are looked up. -/
theorem terminal_echoes_scripted :
    (∀ (α : Type) (interaction : Interaction α) (answers : List String) (terminal : Terminal),
      terminal.Awaits answers → (∀ answer ∈ answers, Text.IsWord answer) →
        (interaction.transcript scripted answers).all Act.succeeded = true →
          terminal.Echoes answers interaction) ∧
      scripted.ChoosesInRange ∧ terminal.ChoosesInRange := by
  refine ⟨?_, scripted_choosesInRange, terminal_choosesInRange⟩
  intro α interaction answers terminal hawaits hwords hsucceeded
  exact Terminal.echoes_of_succeeded hawaits hwords hsucceeded

def zoneAndToken : Interaction (String × String) := do
  let zone ← zoneOrAsk none
  let token ← Interaction.inquire tokenQuestion
  return (zone, token)

theorem zoneAndToken_typed :
    (Terminal.opened (Terminal.typed ["2", "t1", "spare"]) none false).Awaits
        ["2", "t1", "spare"] ∧
      (∀ answer ∈ ["2", "t1", "spare"], Text.IsWord answer) ∧
      (zoneAndToken.transcript scripted ["2", "t1", "spare"]).all Act.succeeded = true ∧
      (zoneAndToken.run terminal none
        (Terminal.opened (Terminal.typed ["2", "t1", "spare"]) none false)).outcome =
          .ok ("ru-central1-b", "t1") ∧
      (zoneAndToken.run terminal none
        (Terminal.opened (Terminal.typed ["2", "t1", "spare"]) none false)).operator.input =
          Terminal.typed ["spare"] := by
  have hawaits : (Terminal.opened (Terminal.typed ["2", "t1", "spare"]) none false).Awaits
      ["2", "t1", "spare"] := ⟨rfl, rfl⟩
  have hwords : ∀ answer ∈ ["2", "t1", "spare"], Text.IsWord answer := by
    decide +kernel
  have hsucceeded :
      (zoneAndToken.transcript scripted ["2", "t1", "spare"]).all Act.succeeded = true := by
    decide +kernel
  have hechoes := terminal_echoes_scripted.1 _ zoneAndToken _ _ hawaits hwords hsucceeded
  refine ⟨hawaits, hwords, hsucceeded, ?_, ?_⟩
  · rw [hechoes.outcome]
    rfl
  · rw [hechoes.unread]
    rfl

end Operator

end CloudLift

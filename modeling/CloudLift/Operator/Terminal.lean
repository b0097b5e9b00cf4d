import CloudLift.Operator.Scripted
import CloudLift.Text.Blank
import CloudLift.Text.Utf8

/-!
# The operator at a terminal

Questions are printed, and the answers are read from the lines that come in: the first
word of the next line that is not blank.  A choice is put again until the answer is the
number of an option, so each round uses up a line and the rounds come to an end.
-/

namespace CloudLift

structure Terminal where
  /-- What has not been read yet. -/
  input : List UInt8
  /-- What was printed, in pieces. -/
  printed : List String
  /-- How much more can be printed. -/
  room : Room
  coloured : Bool

namespace Terminal

def opened (input : List UInt8) (room : Room) (coloured : Bool) : Terminal :=
  ⟨input, [], room, coloured⟩

/-- The text that was printed. -/
def output (terminal : Terminal) : String :=
  String.join terminal.printed

/-- Prints the pieces of a line; the first one that does not fit ends it. -/
def print (terminal : Terminal) : List String → Option Fault × Terminal
  | [] => (none, terminal)
  | piece :: pieces =>
    match terminal.room.after? piece with
    | none => (some (.io .full), terminal)
    | some room =>
      print { terminal with printed := terminal.printed ++ [piece], room := room } pieces

/-- Reads on to the first word of a line that is not blank, and leaves the lines after
it.  A line that is not text is used up by the attempt to read it. -/
def readWord (input : List UInt8) : Except Fault String × List UInt8 :=
  match input with
  | [] => (.error .inputClosed, [])
  | b :: bytes =>
    match _h : Text.Utf8.cutLine (b :: bytes) with
    | (line, rest?) =>
      let rest := rest?.getD []
      match Text.Utf8.decode? line with
      | none => (.error (.io .invalidUtf8), rest)
      | some text =>
        match Text.words text with
        | word :: _ => (.ok word, rest)
        | [] => readWord rest
  termination_by input.length
  decreasing_by
    cases rest? with
    | none => simp
    | some rest => simpa using Text.Utf8.length_cutLine_lt _h

theorem length_readWord_lt {input rest : List UInt8} {word : String}
    (h : readWord input = (.ok word, rest)) : rest.length < input.length := by
  fun_induction readWord input with
  | case1 => simp at h
  | case2 => simp at h
  | case3 b bytes line rest? hcut rest' text _ w ws _ =>
    obtain ⟨-, rfl⟩ := Prod.mk.inj h
    cases rest? with
    | none => simp [rest']
    | some r => simpa [rest'] using Text.Utf8.length_cutLine_lt hcut
  | case4 b bytes line rest? hcut rest' text _ _ ih =>
    refine Nat.lt_trans (ih h) ?_
    cases rest? with
    | none => simp [rest']
    | some r => simpa [rest'] using Text.Utf8.length_cutLine_lt hcut

/-- An answer that is not the number of an option is told apart from one that is no
number at all. -/
def refusal (answer : String) : String :=
  if (Text.numeralBelow? Text.wordBound answer).isSome then
    "Invalid number!"
  else
    "Invalid input!"

def warning (coloured : Bool) (text : String) : List String :=
  if coloured then ["\u001b[31m", text, "\u001b[0m"] else [text]

/-- The options, numbered from `number`, one a line. -/
def menuLines (number : Nat) : List String → List String
  | [] => []
  | option :: options =>
    toString number :: ". " :: option :: "\n" :: menuLines (number + 1) options

def menu (question : String) (options : List String) : List String :=
  question :: " Write only the number.\n" :: menuLines 1 options

def ask (question : String) (terminal : Terminal) : Except Fault String × Terminal :=
  match terminal.print [question, "\n"] with
  | (some fault, terminal) => (.error fault, terminal)
  | (none, terminal) =>
    let (answer, rest) := readWord terminal.input
    (answer, { terminal with input := rest })

theorem input_print (terminal : Terminal) (pieces : List String) :
    (terminal.print pieces).2.input = terminal.input := by
  induction pieces generalizing terminal with
  | nil => rfl
  | cons piece pieces ih =>
    unfold print
    split
    · rfl
    · rw [ih]

/-- Puts a choice until an option is chosen. -/
def chooseFrom (question : String) (options : List String) (terminal : Terminal) :
    Except Fault Nat × Terminal :=
  match _hm : terminal.print (menu question options) with
  | (some fault, terminal) => (.error fault, terminal)
  | (none, shown) =>
    match _hw : readWord shown.input with
    | (.error fault, rest) => (.error fault, { shown with input := rest })
    | (.ok answer, rest) =>
      match choice? options.length answer with
      | some choice => (.ok choice, { shown with input := rest })
      | none =>
        match _hp : Terminal.print { shown with input := rest }
            (warning shown.coloured (refusal answer) ++ ["\n"]) with
        | (some fault, terminal) => (.error fault, terminal)
        | (none, warned) => chooseFrom question options warned
  termination_by terminal.input.length
  decreasing_by
    have h1 := input_print terminal (menu question options)
    have h2 := input_print { shown with input := rest }
      (warning shown.coloured (refusal answer) ++ ["\n"])
    rw [_hm] at h1
    rw [_hp] at h2
    simp only at h1 h2
    rw [h2, ← h1]
    exact length_readWord_lt _hw

def choose (question : String) (options : List String) (terminal : Terminal) :
    Except Fault Nat × Terminal :=
  if options.isEmpty then
    (.error .nothingToChoose, terminal)
  else
    terminal.chooseFrom question options

end Terminal

namespace Operator

/-- Each answer uses up at least one byte of the input. -/
def terminal : Operator Terminal where
  ask := Terminal.ask
  choose := Terminal.choose
  patience terminal := terminal.input.length

end Operator

end CloudLift

import CloudLift.Proofs.Operator.Typed
import CloudLift.Proofs.Text.Margins

/-!
# The answers in the lines of an input

An input is a sequence of lines, and each line gives its first word for an answer or, if it
is blank, no answer.  A terminal takes the first answer that it can use, passes over the
lines before it and leaves the lines after it.  What it prints on the way is found from the
lines that it passes over: a blank one adds nothing, and any other one adds a menu and the
reason why its answer was refused.
-/

namespace CloudLift

/-! ## Lines with their ends -/

namespace Text

namespace Chars

/-- The lines of a text, each with the line feed that ends it.  The last one may have none. -/
def fullLines : List Char → List (List Char)
  | [] => []
  | c :: cs =>
    if c = '\n' then
      [c] :: fullLines cs
    else
      match fullLines cs with
      | [] => [[c]]
      | line :: lines => (c :: line) :: lines

theorem fullLines_of_cutAt?_none {cs : List Char} (hcut : cutAt? '\n' cs = none) (hcs : cs ≠ []) :
    fullLines cs = [cs] := by
  induction cs with
  | nil => exact absurd rfl hcs
  | cons c cs ih =>
    have hmem := cutAt?_eq_none_iff.mp hcut
    simp only [List.mem_cons, not_or] at hmem
    rw [fullLines, if_neg (Ne.symm hmem.1)]
    cases cs with
    | nil => rfl
    | cons d cs => rw [ih (cutAt?_eq_none_iff.mpr hmem.2) (List.cons_ne_nil d cs)]

theorem fullLines_of_cutAt?_some {cs before after : List Char}
    (hcut : cutAt? '\n' cs = some (before, after)) :
    fullLines cs = (before ++ ['\n']) :: fullLines after := by
  induction cs generalizing before with
  | nil => simp [cutAt?] at hcut
  | cons c cs ih =>
    rw [cutAt?] at hcut
    rw [fullLines]
    split at hcut
    case isTrue hc =>
      cases hcut
      rw [if_pos hc, hc, List.nil_append]
    case isFalse hc =>
      obtain ⟨⟨front, back⟩, hfront, hpair⟩ := Option.map_eq_some_iff.mp hcut
      cases hpair
      rw [if_neg hc, ih hfront, List.cons_append]

theorem flatten_fullLines (cs : List Char) : (fullLines cs).flatten = cs := by
  induction cs with
  | nil => rfl
  | cons c cs ih =>
    rw [fullLines]
    split
    case isTrue hc => rw [List.flatten_cons, ih, List.singleton_append]
    case isFalse hc =>
      cases hlines : fullLines cs with
      | nil =>
        rw [hlines] at ih
        rw [← ih]
        rfl
      | cons line lines =>
        rw [hlines] at ih
        rw [← ih]
        rfl

end Chars

def fullLines (text : String) : List String :=
  (Chars.fullLines text.toList).map String.ofList

theorem join_fullLines (text : String) : String.join (fullLines text) = text := by
  apply String.toList_inj.mp
  have hflatten := Chars.flatten_fullLines text.toList
  rw [String.toList_join, fullLines, List.flatMap_map]
  simpa using hflatten

/-- The first line is cut off at its end, and the lines of what is left are the others. -/
theorem cutLine_encode_of_cons {text line : String} {later : List String}
    (hlines : fullLines text = line :: later) :
    ∃ front rest?, Utf8.cutLine (Utf8.encode text) = (Utf8.encode front, rest?) ∧
      rest?.getD [] = Utf8.encode (String.join later) ∧ words front = words line ∧
      fullLines (String.join later) = later := by
  have hcutLine := Utf8.cutLine_flatMap text.toList
  rw [← Utf8.encode_eq_flatMap] at hcutLine
  cases hcut : Chars.cutAt? '\n' text.toList with
  | none =>
    have htext : text.toList ≠ [] := by
      intro hempty
      rw [fullLines, hempty] at hlines
      cases hlines
    rw [fullLines, Chars.fullLines_of_cutAt?_none hcut htext, List.map_singleton,
      String.ofList_toList] at hlines
    cases hlines
    rw [hcut] at hcutLine
    exact ⟨text, none, hcutLine, Utf8.encode_empty.symm, rfl, rfl⟩
  | some cut =>
    obtain ⟨before, after⟩ := cut
    have hafter : (Chars.fullLines after).map String.ofList = fullLines (String.ofList after) := by
      rw [fullLines, String.toList_ofList]
    rw [fullLines, Chars.fullLines_of_cutAt?_some hcut, List.map_cons, hafter] at hlines
    cases hlines
    rw [hcut] at hcutLine
    dsimp only at hcutLine
    rw [← Utf8.encode_ofList, ← Utf8.encode_ofList] at hcutLine
    refine ⟨String.ofList before, _, hcutLine, ?_, ?_, ?_⟩
    · rw [Option.getD_some, join_fullLines]
    · rw [words, words, String.toList_ofList, String.toList_ofList,
        Chars.words_concat_of_isBlank (by decide)]
    · rw [join_fullLines]

/-- The answer that a line gives. -/
def firstWord? (line : String) : Option String :=
  (words line).head?

end Text

namespace Terminal

variable {terminal : Terminal} {text line : String} {later : List String}

theorem readWord_of_cutLine {bytes line : List UInt8} {rest? : Option (List UInt8)}
    (hcut : Text.Utf8.cutLine bytes = (line, rest?)) (hbytes : bytes ≠ [])
    (htext : Text.Utf8.decode? line = some text) :
    readWord bytes =
      match Text.firstWord? text with
      | some word => (.ok word, rest?.getD [])
      | none => readWord (rest?.getD []) := by
  cases bytes with
  | nil => exact absurd rfl hbytes
  | cons b bytes =>
    rw [readWord, hcut]
    simp only [htext, Text.firstWord?]
    cases Text.words text with
    | nil => rfl
    | cons word others => rfl

/-- Reading looks at one line, and goes on with the lines after it if it is blank. -/
theorem readWord_encode_of_cons (hlines : Text.fullLines text = line :: later) :
    readWord (Text.Utf8.encode text) =
      match Text.firstWord? line with
      | some word => (.ok word, Text.Utf8.encode (String.join later))
      | none => readWord (Text.Utf8.encode (String.join later)) := by
  obtain ⟨front, rest?, hcut, hrest, hwords, -⟩ := Text.cutLine_encode_of_cons hlines
  have hbytes : Text.Utf8.encode text ≠ [] := by
    intro hempty
    have htext := Text.Utf8.decode?_encode text
    rw [hempty, ← Text.Utf8.encode_empty, Text.Utf8.decode?_encode] at htext
    obtain rfl := Option.some.inj htext
    cases hlines
  rw [readWord_of_cutLine hcut hbytes (Text.Utf8.decode?_encode front), hrest, Text.firstWord?,
    Text.firstWord?, hwords]

theorem readWord_encode_of_nil (hlines : Text.fullLines text = []) :
    readWord (Text.Utf8.encode text) = (.error .inputClosed, []) := by
  have htext := Text.join_fullLines text
  rw [hlines] at htext
  obtain rfl : "" = text := htext
  rw [Text.Utf8.encode_empty, readWord]

theorem readWord_encode_of_blank {blank : List String}
    (hlines : Text.fullLines text = blank ++ later)
    (hblank : ∀ line ∈ blank, Text.firstWord? line = none) :
    readWord (Text.Utf8.encode text) = readWord (Text.Utf8.encode (String.join later)) ∧
      Text.fullLines (String.join later) = later := by
  induction blank generalizing text with
  | nil =>
    rw [List.nil_append] at hlines
    rw [← hlines, Text.join_fullLines]
    exact ⟨rfl, rfl⟩
  | cons line blank ih =>
    rw [List.cons_append] at hlines
    obtain ⟨-, -, -, -, -, hlater⟩ := Text.cutLine_encode_of_cons hlines
    obtain ⟨hread, hfull⟩ :=
      ih hlater fun other hother => hblank other (List.mem_cons_of_mem _ hother)
    rw [readWord_encode_of_cons hlines, hblank line List.mem_cons_self]
    exact ⟨hread, hfull⟩

/-! ## Replies -/

/-- The terminal replies with the result, leaves these lines and has printed this text. -/
structure Replies {α : Type} (terminal : Terminal) (reply : Except Fault α × Terminal)
    (result : Except Fault α) (left : List String) (shown : String) : Prop where
  result : reply.1 = result
  input : reply.2.input = Text.Utf8.encode (String.join left)
  output : reply.2.output = terminal.output ++ shown

theorem output_append (terminal : Terminal) (pieces : List String) :
    { terminal with printed := terminal.printed ++ pieces }.output =
      terminal.output ++ String.join pieces :=
  String.join_append

/-- The menu of a choice: the question on a line, and the options on numbered lines. -/
def menuText (question : String) (options : List String) : String :=
  question ++ " Write only the number.\n" ++
    String.join (options.mapIdx fun i option => toString (i + 1) ++ ". " ++ option ++ "\n")

theorem join_menuLines (number : Nat) (options : List String) :
    String.join (menuLines number options) =
      String.join (options.mapIdx fun i option =>
        toString (i + number) ++ ". " ++ option ++ "\n") := by
  induction options generalizing number with
  | nil => rfl
  | cons option options ih =>
    have hnumber (i : Nat) : i + (number + 1) = i + 1 + number := by omega
    rw [menuLines, List.mapIdx_cons]
    simp only [String.join_cons, ih, Nat.zero_add, String.append_assoc, hnumber]

theorem join_menu (question : String) (options : List String) :
    String.join (menu question options) = menuText question options := by
  rw [menu, String.join_cons, String.join_cons, join_menuLines, menuText, String.append_assoc]

/-- The line that refuses an answer.  A number is told apart from anything else. -/
def refusalText (coloured : Bool) (answer : String) : String :=
  (if coloured then "\u001b[31m" else "") ++
    (if (Text.numeralBelow? Text.wordBound answer).isSome then
      "Invalid number!"
    else
      "Invalid input!") ++
    (if coloured then "\u001b[0m" else "") ++ "\n"

theorem join_warning (coloured : Bool) (answer : String) :
    String.join (warning coloured (refusal answer) ++ ["\n"]) = refusalText coloured answer := by
  rw [String.join_append, warning, refusalText, refusal]
  cases coloured <;> simp [String.append_assoc]

/-- What is printed for a line that gives no choice: nothing if it is blank. -/
def exchange (question : String) (options : List String) (coloured : Bool) (line : String) :
    String :=
  match Text.firstWord? line with
  | none => ""
  | some answer => menuText question options ++ refusalText coloured answer

/-- The first word of the line is the number of an option. -/
def Chooses (size : Nat) (line : String) (number : Nat) : Prop :=
  ∃ word, Text.firstWord? line = some word ∧
    Text.numeralBelow? Text.wordBound word = some number ∧ 1 ≤ number ∧ number ≤ size

/-! ## Rounds of a choice -/

section Rounds

variable (question : String) (options : List String)

/-- The terminal once the menu is on it and this much input is left. -/
def withMenu (terminal : Terminal) (rest : List UInt8) : Terminal :=
  { terminal with input := rest, printed := terminal.printed ++ menu question options }

/-- The terminal once an answer to the menu has been refused. -/
def withRefusal (terminal : Terminal) (answer : String) (rest : List UInt8) : Terminal :=
  { terminal.withMenu question options rest with
    printed := (terminal.withMenu question options rest).printed ++
      (warning terminal.coloured (refusal answer) ++ ["\n"]) }

variable {question options} {rest : List UInt8} {word : String} {fault : Fault} {choice : Nat}

theorem output_withMenu :
    (terminal.withMenu question options rest).output =
      terminal.output ++ menuText question options := by
  rw [← join_menu]
  exact output_append terminal (menu question options)

theorem output_withRefusal :
    (terminal.withRefusal question options word rest).output =
      terminal.output ++ (menuText question options ++ refusalText terminal.coloured word) := by
  rw [withRefusal, output_append, output_withMenu, join_warning, String.append_assoc]

variable (hroom : terminal.room = none)

include hroom

theorem chooseFrom_of_error (hread : readWord terminal.input = (.error fault, rest)) :
    chooseFrom question options terminal =
      (.error fault, terminal.withMenu question options rest) := by
  rw [chooseFrom, print_of_room hroom]
  dsimp only
  rw [hread]
  rfl

theorem chooseFrom_of_choice (hread : readWord terminal.input = (.ok word, rest))
    (hchoice : choice? options.length word = some choice) :
    chooseFrom question options terminal =
      (.ok choice, terminal.withMenu question options rest) := by
  rw [chooseFrom, print_of_room hroom]
  dsimp only
  rw [hread]
  dsimp only
  rw [hchoice]
  rfl

theorem chooseFrom_of_refusal (hread : readWord terminal.input = (.ok word, rest))
    (hchoice : choice? options.length word = none) :
    chooseFrom question options terminal =
      chooseFrom question options (terminal.withRefusal question options word rest) := by
  have hshown : (terminal.withMenu question options rest).room = none := hroom
  have hwarned := print_of_room hshown (warning terminal.coloured (refusal word) ++ ["\n"])
  rw [withMenu] at hwarned
  rw [chooseFrom, print_of_room hroom]
  dsimp only
  rw [hread]
  dsimp only
  rw [hchoice]
  dsimp only
  rw [hwarned]
  rfl

theorem chooseFrom_congr {input : List UInt8} (hread : readWord terminal.input = readWord input) :
    chooseFrom question options terminal =
      chooseFrom question options { terminal with input := input } := by
  have hother : ({ terminal with input := input } : Terminal).room = none := hroom
  cases hreply : readWord input with
  | mk answer rest =>
    rw [hreply] at hread
    cases answer with
    | error fault => rw [chooseFrom_of_error hroom hread, chooseFrom_of_error hother hreply]; rfl
    | ok word =>
      cases hchoice : choice? options.length word with
      | some choice =>
        rw [chooseFrom_of_choice hroom hread hchoice, chooseFrom_of_choice hother hreply hchoice]
        rfl
      | none =>
        rw [chooseFrom_of_refusal hroom hread hchoice, chooseFrom_of_refusal hother hreply hchoice]
        rfl

omit hroom in
theorem chooseFrom_of_not_chooses (question : String) {refused : List String}
    (hroom : terminal.room = none) (hinput : terminal.input = Text.Utf8.encode text)
    (hlines : Text.fullLines text = refused ++ later)
    (hrefused : ∀ line ∈ refused, ∀ number, ¬ Chooses options.length line number) :
    ∃ passed : Terminal,
      chooseFrom question options terminal = chooseFrom question options passed ∧
        passed.room = none ∧ passed.input = Text.Utf8.encode (String.join later) ∧
        Text.fullLines (String.join later) = later ∧
        passed.output = terminal.output ++
          String.join (refused.map (exchange question options terminal.coloured)) := by
  induction refused generalizing terminal text with
  | nil =>
    rw [List.nil_append] at hlines
    rw [← hlines, Text.join_fullLines]
    exact ⟨terminal, rfl, hroom, hinput, rfl, by simp [String.join]⟩
  | cons line refused ih =>
    rw [List.cons_append] at hlines
    have hnone := hrefused line List.mem_cons_self
    have hothers : ∀ other ∈ refused, ∀ number, ¬ Chooses options.length other number :=
      fun other hother => hrefused other (List.mem_cons_of_mem _ hother)
    obtain ⟨-, -, -, -, -, hafter⟩ := Text.cutLine_encode_of_cons hlines
    have hread := readWord_encode_of_cons hlines
    rw [← hinput] at hread
    rw [List.map_cons, String.join_cons]
    cases hword : Text.firstWord? line with
    | none =>
      rw [hword] at hread
      have hblank : ({ terminal with
          input := Text.Utf8.encode (String.join (refused ++ later)) } : Terminal).room = none :=
        hroom
      obtain ⟨passed, hpassed, hroom', hinput', hfull, houtput⟩ := ih hblank rfl hafter hothers
      refine ⟨passed, ?_, hroom', hinput', hfull, ?_⟩
      · rw [chooseFrom_congr hroom hread, hpassed]
      · rw [houtput, exchange, hword, String.empty_append]
        rfl
    | some word =>
      rw [hword] at hread
      have hchoice : choice? options.length word = none :=
        choice?_eq_none fun number hnumber hrange => hnone number ⟨word, hword, hnumber, hrange⟩
      have hstep : chooseFrom question options terminal = _ :=
        chooseFrom_of_refusal hroom hread hchoice
      have hrefusal : (terminal.withRefusal question options word
          (Text.Utf8.encode (String.join (refused ++ later)))).room = none :=
        hroom
      obtain ⟨passed, hpassed, hroom', hinput', hfull, houtput⟩ := ih hrefusal rfl hafter hothers
      refine ⟨passed, hstep.trans hpassed, hroom', hinput', hfull, ?_⟩
      rw [houtput, output_withRefusal, exchange, hword, String.append_assoc]
      rfl

end Rounds

/-! ## Asking and choosing -/

theorem ask_of_room (hroom : terminal.room = none) (question : String) :
    terminal.ask question =
      ((readWord terminal.input).1,
        { terminal with
          input := (readWord terminal.input).2
          printed := terminal.printed ++ [question, "\n"] }) := by
  rw [ask, print_of_room hroom]

theorem replies_ask (hroom : terminal.room = none) (question : String)
    {result : Except Fault String} {left : List String}
    (hread : readWord terminal.input = (result, Text.Utf8.encode (String.join left))) :
    terminal.Replies (terminal.ask question) result left (question ++ "\n") := by
  rw [ask_of_room hroom, hread]
  refine ⟨rfl, rfl, ?_⟩
  exact (output_append terminal [question, "\n"]).trans (by simp [String.join])

theorem choose_of_ne_nil {options : List String} (hoptions : options ≠ []) (question : String) :
    terminal.choose question options = terminal.chooseFrom question options := by
  rw [choose, if_neg]
  rw [List.isEmpty_iff]
  exact hoptions

/-- A terminal with room for everything takes the first answer that it can use and leaves
the lines after it.  If there is none, all input is used up. -/
theorem takes_first_usable_answer (terminal : Terminal) (text question : String)
    (options : List String) (hroom : terminal.room = none)
    (hinput : terminal.input = Text.Utf8.encode text) :
    ((∀ blank line left word, Text.fullLines text = blank ++ line :: left →
          (∀ other ∈ blank, Text.firstWord? other = none) →
          Text.firstWord? line = some word →
            terminal.Replies (terminal.ask question) (.ok word) left (question ++ "\n")) ∧
        ((∀ line ∈ Text.fullLines text, Text.firstWord? line = none) →
          terminal.Replies (terminal.ask question) (.error .inputClosed) []
            (question ++ "\n"))) ∧
      (options ≠ [] →
        (∀ refused line left number, Text.fullLines text = refused ++ line :: left →
          (∀ other ∈ refused, ∀ number, ¬ Chooses options.length other number) →
          Chooses options.length line number →
            terminal.Replies (terminal.choose question options) (.ok (number - 1)) left
              (String.join (refused.map (exchange question options terminal.coloured)) ++
                menuText question options)) ∧
        ((∀ line ∈ Text.fullLines text, ∀ number, ¬ Chooses options.length line number) →
          terminal.Replies (terminal.choose question options) (.error .inputClosed) []
            (String.join ((Text.fullLines text).map
                (exchange question options terminal.coloured)) ++
              menuText question options))) ∧
      terminal.choose question [] = (.error .nothingToChoose, terminal) := by
  refine ⟨⟨?answered, ?closed⟩, fun hoptions => ⟨?chosen, ?refused⟩, rfl⟩
  case answered =>
    intro blank line left word hlines hblank hword
    obtain ⟨hread, hfull⟩ := readWord_encode_of_blank hlines hblank
    rw [readWord_encode_of_cons hfull, hword, ← hinput] at hread
    exact replies_ask hroom question hread
  case closed =>
    intro hblank
    obtain ⟨hread, hfull⟩ :=
      readWord_encode_of_blank (List.append_nil (Text.fullLines text)).symm hblank
    rw [readWord_encode_of_nil hfull, ← hinput, ← Text.Utf8.encode_empty] at hread
    exact replies_ask hroom question hread
  case chosen =>
    intro refused line left number hlines hrefused hchooses
    obtain ⟨passed, hpassed, hroom', hinput', hfull, houtput⟩ :=
      chooseFrom_of_not_chooses question hroom hinput hlines hrefused
    obtain ⟨word, hword, hnumber, hrange⟩ := hchooses
    have hchoice := choice?_of_range hnumber hrange
    have hread := readWord_encode_of_cons hfull
    rw [hword, ← hinput'] at hread
    rw [choose_of_ne_nil hoptions, hpassed, chooseFrom_of_choice hroom' hread hchoice]
    refine ⟨rfl, rfl, ?_⟩
    rw [output_withMenu, houtput, String.append_assoc]
  case refused =>
    intro hrefused
    obtain ⟨passed, hpassed, hroom', hinput', hfull, houtput⟩ :=
      chooseFrom_of_not_chooses question hroom hinput
        (List.append_nil (Text.fullLines text)).symm hrefused
    have hread := readWord_encode_of_nil hfull
    rw [← hinput'] at hread
    rw [choose_of_ne_nil hoptions, hpassed, chooseFrom_of_error hroom' hread]
    refine ⟨rfl, Text.Utf8.encode_empty.symm, ?_⟩
    rw [output_withMenu, houtput, String.append_assoc]

/-- A blank line, an answer that is no number, a number that is too large, and a number
with a leading zero and another word after it. -/
def hesitantInput : String :=
  "\nx\n+9\n 02 b\nnext\n"

def hesitant : Terminal :=
  opened (Text.Utf8.encode hesitantInput) none false

theorem hesitant_chooses :
    hesitant.room = none ∧ hesitant.input = Text.Utf8.encode hesitantInput ∧
      hesitant.Replies (hesitant.ask "Token?") (.ok "x") ["+9\n", " 02 b\n", "next\n"]
        "Token?\n" ∧
      hesitant.Replies (hesitant.choose "Pick." ["a.tf", "b.tf"]) (.ok 1) ["next\n"]
        ("Pick. Write only the number.\n1. a.tf\n2. b.tf\nInvalid input!\n" ++
          "Pick. Write only the number.\n1. a.tf\n2. b.tf\nInvalid number!\n" ++
          "Pick. Write only the number.\n1. a.tf\n2. b.tf\n") := by
  have hlines : Text.fullLines hesitantInput =
      ["\n", "x\n", "+9\n", " 02 b\n", "next\n"] := by
    decide +kernel
  have hblank : Text.firstWord? "\n" = none := by
    decide +kernel
  have hword : Text.firstWord? "x\n" = some "x" := by
    decide +kernel
  have hlarge : Text.firstWord? "+9\n" = some "+9" := by
    decide +kernel
  have hletter : Text.numeralBelow? Text.wordBound "x" = none := by
    decide +kernel
  have hnine : Text.numeralBelow? Text.wordBound "+9" = some 9 := by
    decide +kernel
  have hchooses : Chooses 2 " 02 b\n" 2 :=
    ⟨"02", by decide +kernel, by decide +kernel, by decide, by decide⟩
  have hrefused : ∀ other ∈ ["\n", "x\n", "+9\n"], ∀ number, ¬ Chooses 2 other number := by
    intro other hother number hnumber
    obtain ⟨word, hfirst, hvalue, -, hle⟩ := hnumber
    simp only [List.mem_cons, List.not_mem_nil, or_false] at hother
    rcases hother with rfl | rfl | rfl
    · cases hblank.symm.trans hfirst
    · obtain rfl := Option.some.inj (hword.symm.trans hfirst)
      cases hletter.symm.trans hvalue
    · obtain rfl := Option.some.inj (hlarge.symm.trans hfirst)
      obtain rfl := Option.some.inj (hnine.symm.trans hvalue)
      exact absurd hle (by decide)
  have hboth := takes_first_usable_answer hesitant hesitantInput
  refine ⟨rfl, rfl, ?_, ?_⟩
  · exact (hboth "Token?" [] rfl rfl).1.1 ["\n"] "x\n" _ "x" hlines (by simp [hblank]) hword
  · have hchosen := ((hboth "Pick." ["a.tf", "b.tf"] rfl rfl).2.1 (by simp)).1
      ["\n", "x\n", "+9\n"] " 02 b\n" ["next\n"] 2 hlines hrefused hchooses
    have hshown : String.join (["\n", "x\n", "+9\n"].map
        (exchange "Pick." ["a.tf", "b.tf"] hesitant.coloured)) ++
          menuText "Pick." ["a.tf", "b.tf"] =
        "Pick. Write only the number.\n1. a.tf\n2. b.tf\nInvalid input!\n" ++
          "Pick. Write only the number.\n1. a.tf\n2. b.tf\nInvalid number!\n" ++
          "Pick. Write only the number.\n1. a.tf\n2. b.tf\n" := by
      decide +kernel
    rw [hshown] at hchosen
    exact hchosen

end Terminal

end CloudLift

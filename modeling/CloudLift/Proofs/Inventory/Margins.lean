import CloudLift.Proofs.Inventory.Account
import CloudLift.Proofs.Text.Margins

/-!
# The margins of lines do not matter to the scan

Every test that the scan makes on a line has the same answer for the trimmed line: it looks
for words, for what stands around an equals sign, for a marker that begins and ends with no
blank, or at the last character that is no blank.  So the scan reads the trimmed lines of a
text, and a blank line after the last line feed adds nothing to them.  What is read is the
same for texts that are the same but for the margins of their lines, and so is what is noted
on the way.
-/

namespace CloudLift

namespace Line

/-! ## What a trimmed line is -/

theorem assignment?_eq_cutTrimmed? (line : String) :
    assignment? line = (Text.Chars.cutTrimmed? '=' line.toList).map fun (key, value) =>
      (String.ofList key, String.ofList value) := by
  rw [assignment?, Text.cutAt?, Text.Chars.cutTrimmed?, Option.map_map, Option.map_map]
  cases Text.Chars.cutAt? '=' line.toList with
  | none => rfl
  | some cut => simp [Text.trim]

theorem assignment?_trim (line : String) : assignment? (Text.trim line) = assignment? line := by
  rw [assignment?_eq_cutTrimmed?, assignment?_eq_cutTrimmed?, Text.toList_trim,
    Text.Chars.cutTrimmed?_trim (by decide)]

theorem closesBlock_trim (line : String) : closesBlock (Text.trim line) = closesBlock line := by
  rw [closesBlock, closesBlock, Text.trim, Text.toList_trim, Text.Chars.trim_trim, ← Text.trim]

theorem opensBlock_trim (line : String) : opensBlock (Text.trim line) = opensBlock line := by
  rw [opensBlock, opensBlock, Text.toList_trim, Text.Chars.getLast?_trimEnd_trim]

theorem namesMachine_trim (line : String) :
    namesMachine (Text.trim line) = namesMachine line := by
  rw [namesMachine, namesMachine, Text.holds, Text.holds, Text.toList_trim]
  apply Text.Chars.holds_trim
  · decide
  · decide
  · decide

theorem namesAdapter_trim (line : String) :
    namesAdapter (Text.trim line) = namesAdapter line := by
  rw [namesAdapter, namesAdapter, Text.holds, Text.holds, Text.toList_trim]
  apply Text.Chars.holds_trim
  · decide
  · decide
  · decide

theorem reference?_trim (line : String) : reference? (Text.trim line) = reference? line := by
  rw [reference?, reference?, Text.words, Text.words, Text.toList_trim, Text.Chars.words_trim]

end Line

namespace Scan

variable (scan : Scan) (number : Nat) (line : String)

/-! ## Steps and remarks -/

theorem step_trim : scan.step (Text.trim line) = scan.step line := by
  unfold step stepOutside stepMachine stepAdapter
  rw [Line.assignment?_trim, Line.closesBlock_trim, Line.namesMachine_trim,
    Line.namesAdapter_trim, Line.reference?_trim, Line.opensBlock_trim]

theorem remark?_trim : scan.remark? number (Text.trim line) = scan.remark? number line := by
  unfold remark?
  rw [Line.assignment?_trim, Line.closesBlock_trim, Line.namesMachine_trim,
    Line.reference?_trim]

theorem step_empty : scan.step "" = scan := by
  rcases scan with ⟨inventory, place⟩
  cases place with
  | outside => rfl
  | machine slot depth => rfl
  | adapter slot? depth => cases slot? <;> rfl

theorem remark?_empty : scan.remark? number "" = none := by
  rcases scan with ⟨inventory, place⟩
  cases place with
  | outside => rfl
  | machine slot depth => rfl
  | adapter slot? depth => rfl

/-! ## Lines of a text -/

theorem lines_map_trim (texts : List String) :
    scan.lines number ((texts.map Text.trim).map Text.Utf8.encode) =
      scan.lines number (texts.map Text.Utf8.encode) := by
  induction texts generalizing scan number with
  | nil => rfl
  | cons text texts ih =>
    simp only [List.map_cons, lines, Text.Utf8.decode?_encode, step_trim, remark?_trim, ih]

/-- A last line with nothing in it is like no line. -/
theorem lines_concat_empty (texts : List String) :
    scan.lines number ((texts ++ [""]).map Text.Utf8.encode) =
      scan.lines number (texts.map Text.Utf8.encode) := by
  induction texts generalizing scan number with
  | nil =>
    rw [List.nil_append, List.map_singleton, lines, Text.Utf8.decode?_encode]
    simp only [remark?_empty, step_empty]
    rfl
  | cons text texts ih =>
    simp only [List.cons_append, List.map_cons, lines, Text.Utf8.decode?_encode, ih]

end Scan

namespace Text

/-- The trimmed pieces between the line feeds. -/
def trimmedPieces (text : String) : List String :=
  (Chars.pieces '\n' text.toList).map fun piece => String.ofList (Chars.trim piece)

theorem Chars.trim_dropFinalReturn (line : List Char) :
    trim (dropFinalReturn line) = trim line := by
  rw [dropFinalReturn]
  split
  case isTrue hreturn =>
    rw [← trim_concat_of_isBlank (c := '\r') (by decide),
      List.dropLast_append_getLast? '\r' hreturn]
  case isFalse => rfl

/-- The trimmed pieces are the trimmed lines, if nothing in the last piece is a line too. -/
theorem trimmedPieces_eq (text : String) :
    trimmedPieces text = (lines text).map trim ∨
      trimmedPieces text = (lines text).map trim ++ [""] := by
  rcases List.eq_nil_or_concat (Chars.pieces '\n' text.toList) with hnil | ⟨front, last, hpieces⟩
  · exact absurd hnil (Chars.pieces_ne_nil '\n' text.toList)
  · rw [List.concat_eq_append] at hpieces
    have hfront : ∀ front : List (List Char),
        front.map (fun piece => String.ofList (Chars.trim piece)) =
          ((front.map Chars.dropFinalReturn).map String.ofList).map trim := by
      intro front
      rw [List.map_map, List.map_map]
      apply List.map_congr_left
      intro piece _
      rw [Function.comp_apply, Function.comp_apply, trim, String.toList_ofList,
        Chars.trim_dropFinalReturn]
    rw [trimmedPieces, lines, Chars.lines, hpieces, List.dropLast_concat,
      List.getLast?_concat, List.map_append, List.map_append, List.map_append, hfront]
    by_cases hlast : last = []
    · right
      simp [hlast, Chars.trim, Chars.trimStart, Chars.trimEnd]
    · left
      simp [Option.filter_some_pos, hlast, trim]

theorem SameButMargins.trimmedPieces_eq {text other : String}
    (hsame : SameButMargins text other) : trimmedPieces text = trimmedPieces other := by
  rw [trimmedPieces, trimmedPieces, ← List.forall₂_eq_eq_eq, List.forall₂_map_left_iff,
    List.forall₂_map_right_iff]
  exact hsame.imp fun _ _ hline => congrArg String.ofList hline.trim_eq

end Text

namespace Inventory

theorem read_encode_eq (text : String) :
    Inventory.read (Text.Utf8.encode text) =
      Scan.start.lines 0 ((Text.trimmedPieces text).map Text.Utf8.encode) := by
  rw [Inventory.read, Text.Utf8.lines_encode, ← Scan.lines_map_trim]
  rcases Text.trimmedPieces_eq text with heq | heq
  · rw [heq]
  · rw [heq, Scan.lines_concat_empty]

/-- A text can be read, and the run is the same for a text that is the same but for the margins
of its lines.  With line ends of the other kind it is such a text. -/
theorem read_ignores_margins {σ : Type} (op : Operator σ) (room : Room) (s : σ) (text : String) :
    ∃ inventory,
      ((Inventory.read (Text.Utf8.encode text)).run op room s).outcome = .ok inventory ∧
      (∀ other, Text.SameButMargins text other →
        (Inventory.read (Text.Utf8.encode other)).run op room s =
          (Inventory.read (Text.Utf8.encode text)).run op room s) ∧
      Text.SameButMargins text (Text.replace "\n" "\r\n" text) ∧
      Text.SameButMargins text (Text.replace "\r\n" "\n" text) := by
  refine ⟨_, outcome_read_encode op room s text, ?_, Text.sameButMargins_addReturns text,
    Text.sameButMargins_dropReturns text⟩
  intro other hsame
  rw [read_encode_eq, read_encode_eq, hsame.trimmedPieces_eq]

/-- A machine with an adapter, in lines without margins. -/
def plainMachine : String :=
  "resource \"virtualbox_server\" \"a\" \x7b\nnetwork_adapter \x7b\nnetwork_mode = \"nat\"\n\x7d\n" ++
    "cpus = 2\n\x7d"

/-- The same lines, indented with blanks of several kinds and ended in two ways. -/
def indentedMachine : String :=
  " resource \"virtualbox_server\" \"a\" \x7b\r\n\tnetwork_adapter \x7b\u2003\r\n" ++
    "\t\u00a0network_mode = \"nat\" \n\u3000\x7d\r\n\tcpus = 2\r\r\n \x7d\u0085"

theorem indentedMachine_read :
    Text.SameButMargins plainMachine indentedMachine ∧
      (Inventory.read (Text.Utf8.encode indentedMachine)).run Operator.scripted none [] =
        (Inventory.read (Text.Utf8.encode plainMachine)).run Operator.scripted none [] := by
  have hsame : Text.SameButMargins plainMachine indentedMachine := by
    decide +kernel
  rcases read_ignores_margins Operator.scripted none [] plainMachine with
    ⟨inventory, -, hread, -, -⟩
  exact ⟨hsame, hread indentedMachine hsame⟩

end Inventory

end CloudLift

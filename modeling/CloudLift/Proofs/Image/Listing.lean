import CloudLift.Image.Catalog
import CloudLift.Proofs.Text.Lines

/-!
# Listings that are drawn and read

A listing is drawn row by row, with a bar before, between and after the cells of a row and
some text between the rows.  Cutting it at its bars gives the cells of a row and the text
after it, six fields a row, and the header with the text around it is the first seven.

The catalog takes the rows off the fields one after the other.  `rowsFrom` goes by the
positions of the fields instead, and has no result if there is no field at a position that
it looks at.  It always has one, whatever the listing is.
-/

namespace CloudLift.Image

/-- A text without bars, as it stands in a row or between two rows. -/
structure Cell where
  text : String
  unbarred : '|' ∉ text.toList

structure Row where
  id : Cell
  name : Cell
  family : Cell
  products : Cell
  status : Cell

namespace Row

def cells (row : Row) : List Cell :=
  [row.id, row.name, row.family, row.products, row.status]

def text (row : Row) : String :=
  "|" ++ row.id.text ++ "|" ++ row.name.text ++ "|" ++ row.family.text ++ "|" ++
    row.products.text ++ "|" ++ row.status.text ++ "|"

/-- The image in the row: its name and its id, without blanks. -/
def entry (row : Row) : String × String :=
  (Text.dropBlanks row.name.text, Text.dropBlanks row.id.text)

end Row

structure Listing where
  above : Cell
  header : Row
  below : Cell
  /-- The rows, each with the text that follows it. -/
  rows : List (Row × Cell)

namespace Listing

def rowsText (rows : List (Row × Cell)) : String :=
  String.join (rows.map fun row => row.1.text ++ row.2.text)

def text (listing : Listing) : String :=
  listing.above.text ++ listing.header.text ++ listing.below.text ++ rowsText listing.rows

def entries (listing : Listing) : List (String × String) :=
  listing.rows.map fun row => row.1.entry

end Listing

/-! ## Fields of a listing -/

theorem Cell.pieces_append_bar (cell : Cell) (rest : List Char) :
    Text.Chars.pieces '|' (cell.text.toList ++ '|' :: rest) =
      cell.text.toList :: Text.Chars.pieces '|' rest := by
  rw [Text.Chars.pieces_append_mark, Text.Chars.pieces_of_notMem cell.unbarred]
  rfl

/-- A row ends the piece before it and gives its cells. -/
theorem Row.pieces_append (before : Cell) (row : Row) (rest : List Char) :
    Text.Chars.pieces '|' (before.text.toList ++ (row.text.toList ++ rest)) =
      before.text.toList ::
        (row.cells.map fun cell => cell.text.toList) ++ Text.Chars.pieces '|' rest := by
  have hrow : row.text.toList ++ rest =
      '|' :: (row.id.text.toList ++ '|' :: (row.name.text.toList ++
        '|' :: (row.family.text.toList ++ '|' :: (row.products.text.toList ++
          '|' :: (row.status.text.toList ++ '|' :: rest))))) := by
    simp [text]
  rw [hrow]
  simp only [Cell.pieces_append_bar]
  rfl

theorem Listing.pieces_rowsText (before : Cell) (rows : List (Row × Cell)) :
    Text.Chars.pieces '|' (before.text.toList ++ (rowsText rows).toList) =
      before.text.toList :: rows.flatMap fun row =>
        (row.1.cells ++ [row.2]).map fun cell => cell.text.toList := by
  induction rows generalizing before with
  | nil =>
    have hempty : (rowsText []).toList = [] := rfl
    rw [hempty, List.append_nil, Text.Chars.pieces_of_notMem before.unbarred]
    rfl
  | cons row rows ih =>
    have hrows : (rowsText (row :: rows)).toList =
        row.1.text.toList ++ (row.2.text.toList ++ (rowsText rows).toList) := by
      simp [rowsText, String.join_cons]
    rw [hrows, Row.pieces_append, ih, List.flatMap_cons]
    simp

theorem Listing.pieces_text (listing : Listing) :
    Text.pieces '|' listing.text =
      ([listing.above] ++ listing.header.cells ++ [listing.below]).map Cell.text ++
        listing.rows.flatMap fun row => (row.1.cells ++ [row.2]).map Cell.text := by
  have htext : listing.text.toList =
      listing.above.text.toList ++ (listing.header.text.toList ++
        (listing.below.text.toList ++ (rowsText listing.rows).toList)) := by
    simp [text]
  rw [Text.pieces, htext, Row.pieces_append, pieces_rowsText]
  simp [List.map_flatMap, Function.comp_def]

namespace Catalog

/-! ## Rows of the fields -/

theorem rows_flatMap (rows : List (Row × Cell)) :
    Catalog.rows (rows.flatMap fun row => (row.1.cells ++ [row.2]).map Cell.text) =
      rows.map fun row => row.1.entry := by
  induction rows with
  | nil => simp [Catalog.rows]
  | cons row rows ih =>
    rw [List.flatMap_cons, List.map_cons, ← ih]
    simp only [Row.cells, List.cons_append, List.nil_append, List.map_cons, List.map_nil]
    rw [Catalog.rows]
    rfl

theorem rows_eq_nil {fields : List String} (hlength : fields.length ≤ 2) :
    Catalog.rows fields = [] := by
  match fields with
  | [] => simp [Catalog.rows]
  | [id] => simp [Catalog.rows]
  | [id, name] => simp [Catalog.rows]
  | id :: name :: third :: rest =>
    simp only [List.length_cons] at hlength
    omega

/-- The rows from the field at a position on, if every position that is looked at has a
field. -/
def rowsFrom (fields : List String) (start : Nat) : Option (List (String × String)) :=
  if start < fields.length - 2 then do
    let id ← fields[start]?
    let name ← fields[start + 1]?
    let more ← rowsFrom fields (start + 6)
    return (Text.dropBlanks name, Text.dropBlanks id) :: more
  else
    some []
  termination_by fields.length - start

theorem rowsFrom_eq_some (fields : List String) (start : Nat) :
    rowsFrom fields start = some (Catalog.rows (fields.drop start)) := by
  induction hleft : fields.length - start using Nat.strongRecOn generalizing start with
  | ind left ih =>
    rw [rowsFrom]
    by_cases hstart : start < fields.length - 2
    · have hid : start < fields.length := by omega
      have hname : start + 1 < fields.length := by omega
      have hnext : start + 2 < fields.length := by omega
      have hmore := ih (fields.length - (start + 6)) (by omega) (start + 6) rfl
      rw [if_pos hstart, List.getElem?_eq_getElem hid, List.getElem?_eq_getElem hname, hmore,
        List.drop_eq_getElem_cons hid, List.drop_eq_getElem_cons hname,
        List.drop_eq_getElem_cons hnext, Catalog.rows, List.drop_drop]
      rfl
    · have hlength : (fields.drop start).length ≤ 2 := by
        rw [List.length_drop]
        omega
      rw [if_neg hstart, rows_eq_nil hlength]

variable {σ : Type} (op : Operator σ) (room : Room) (s : σ)

/-- The rows of a drawn listing are found as they are, and the catalog is filled from them
in their order.  Reading any other listing comes to a catalog too, and looks at no position
without a field. -/
theorem read_listing :
    (∀ listing : Listing,
      rowsFrom (Text.pieces '|' listing.text) headerFields = some listing.entries ∧
        ((Catalog.read listing.text).run op room s).outcome =
          .ok (Table.ofList listing.entries)) ∧
      ∀ text, ∃ entries,
        rowsFrom (Text.pieces '|' text) headerFields = some entries ∧
          ((Catalog.read text).run op room s).outcome = .ok (Table.ofList entries) := by
  have hread (text : String) : ((Catalog.read text).run op room s).outcome =
      .ok (Table.ofList (Catalog.rows ((Text.pieces '|' text).drop headerFields))) := rfl
  constructor
  · intro listing
    have hentries : Catalog.rows ((Text.pieces '|' listing.text).drop headerFields) =
        listing.entries := by
      rw [listing.pieces_text, headerFields]
      exact rows_flatMap listing.rows
    rw [rowsFrom_eq_some, hread, hentries]
    exact ⟨rfl, rfl⟩
  · intro text
    exact ⟨_, rowsFrom_eq_some _ _, hread text⟩

end Catalog

end CloudLift.Image

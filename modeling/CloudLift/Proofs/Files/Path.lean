import CloudLift.Proofs.Files.Disk
import CloudLift.Proofs.Text.Lines

/-!
# The path of an entry

The path of an entry of a directory is written from the path of the directory and the
name of the entry.  It designates the entry: a name holds no slash, so it is one more step
from the directory, and it is none of the steps that stay in a place or lead upwards.
-/

namespace CloudLift

/-- A name that an entry of a directory can have. -/
def Disk.IsName (name : String) : Prop :=
  name ≠ "" ∧ name ≠ "." ∧ name ≠ ".." ∧ '/' ∉ name.toList

instance (name : String) : Decidable (Disk.IsName name) :=
  inferInstanceAs (Decidable (_ ∧ _ ∧ _ ∧ _))

namespace Path

variable {directory : Path} {name : String}

/-- What stands between the directory and the name. -/
def separator (directory : Path) : String :=
  if directory.text.toList.getLast? == some '/' then "" else "/"

theorem text_child (hdirectory : directory.text ≠ "") :
    (directory.child name).text = directory.text ++ (directory.separator ++ name) := by
  have hnot : ¬ directory.text.isEmpty = true := by
    simpa using hdirectory
  rw [child, if_neg hnot, separator]
  by_cases hslash : (directory.text.toList.getLast? == some '/') = true
  · rw [if_pos hslash, if_pos hslash, String.empty_append]
  · rw [if_neg hslash, if_neg hslash, String.append_assoc]

theorem text_child_ne_empty (hdirectory : directory.text ≠ "") :
    (directory.child name).text ≠ "" := by
  rw [text_child hdirectory]
  simp [hdirectory]

theorem isAbsolute_child (hdirectory : directory.text ≠ "") :
    (directory.child name).isAbsolute = directory.isAbsolute := by
  have hhead (more : List Char) : (directory.text.toList ++ more).head? =
      directory.text.toList.head? := by
    cases hlist : directory.text.toList with
    | nil => exact absurd (String.toList_eq_nil_iff.mp hlist) hdirectory
    | cons c rest => rfl
  rw [isAbsolute, isAbsolute, text_child hdirectory, String.toList_append, hhead]

/-- The steps to an entry are those to its directory, without an empty one at their end,
and then its name. -/
theorem steps_child (hdirectory : directory.text ≠ "") (hname : '/' ∉ name.toList) :
    ∃ front, (directory.steps = front ∨ directory.steps = front ++ [""]) ∧
      (directory.child name).steps = front ++ [name] := by
  have hpiece : (Text.Chars.pieces '/' name.toList).map String.ofList = [name] := by
    rw [Text.Chars.pieces_of_notMem hname]
    simp
  have hchild : (directory.child name).text.toList =
      directory.text.toList ++ (directory.separator.toList ++ name.toList) := by
    rw [text_child hdirectory, String.toList_append, String.toList_append]
  by_cases hslash : (directory.text.toList.getLast? == some '/') = true
  · obtain ⟨front, hfront⟩ := List.getLast?_eq_some_iff.mp (eq_of_beq hslash)
    have hsteps : directory.steps =
        (Text.Chars.pieces '/' front).map String.ofList ++ [""] := by
      rw [steps, Text.pieces, hfront, Text.Chars.pieces_append_mark, List.map_append]
      rfl
    refine ⟨(Text.Chars.pieces '/' front).map String.ofList, Or.inr hsteps, ?_⟩
    have hlist : (directory.child name).text.toList = front ++ '/' :: name.toList := by
      rw [hchild, hfront, separator, if_pos hslash]
      simp
    rw [steps, Text.pieces, hlist, Text.Chars.pieces_append_mark, List.map_append, hpiece]
  · refine ⟨directory.steps, Or.inl rfl, ?_⟩
    have hlist : (directory.child name).text.toList =
        directory.text.toList ++ '/' :: name.toList := by
      rw [hchild, separator, if_neg hslash]
      rfl
    rw [steps, Text.pieces, hlist, Text.Chars.pieces_append_mark, List.map_append, hpiece]
    rfl

end Path

namespace Disk

variable {disk : Disk} {location : Location} {path directory : Path} {name : String}

theorem follow_append_eq_ok_iff {here : Location} {steps more : List String} :
    disk.follow here (steps ++ more) = .ok location ↔
      ∃ middle, disk.follow here steps = .ok middle ∧
        disk.follow middle more = .ok location := by
  induction steps generalizing here with
  | nil => simp [follow]
  | cons step steps ih =>
    rw [List.cons_append, follow_cons_eq_ok_iff, ih]
    constructor
    · intro h
      obtain ⟨hhere, middle, hsteps, hmore⟩ := h
      exact ⟨middle, follow_cons_eq_ok_iff.mpr ⟨hhere, hsteps⟩, hmore⟩
    · intro h
      obtain ⟨middle, hsteps, hmore⟩ := h
      obtain ⟨hhere, hrest⟩ := follow_cons_eq_ok_iff.mp hsteps
      exact ⟨hhere, middle, hrest, hmore⟩

theorem locate_eq_ok_iff :
    disk.locate path = .ok location ↔
      path.text ≠ "" ∧ disk.follow (disk.origin path) path.steps = .ok location := by
  rw [locate]
  by_cases hempty : path.text = ""
  · simp [hempty]
  · have hnot : ¬ path.text.isEmpty = true := by
      simpa using hempty
    rw [if_neg hnot]
    exact (and_iff_right hempty).symm

theorem stepFrom_name (hname : IsName name) : stepFrom location name = location ++ [name] := by
  obtain ⟨hempty, hdot, hdots, -⟩ := hname
  have hstays : ¬ (name = "" ∨ name = ".") := by
    simp [hempty, hdot]
  rw [stepFrom, if_neg hstays, if_neg hdots]

/-- The path of an entry designates the entry. -/
theorem locate_child (hlocate : disk.locate directory = .ok location)
    (hnode : disk.node? location = some .directory) (hname : IsName name) :
    disk.locate (directory.child name) = .ok (location ++ [name]) := by
  obtain ⟨htext, hfollow⟩ := locate_eq_ok_iff.mp hlocate
  obtain ⟨front, hsteps, hchild⟩ := Path.steps_child htext hname.2.2.2
  have horigin : disk.origin (directory.child name) = disk.origin directory := by
    rw [origin, origin, Path.isAbsolute_child htext]
  have hlast : disk.follow location [name] = .ok (location ++ [name]) := by
    rw [follow_cons_eq_ok_iff, stepFrom_name hname]
    exact ⟨hnode, rfl⟩
  have hfront : disk.follow (disk.origin directory) front = .ok location := by
    rcases hsteps with hsteps | hsteps
    · rw [← hsteps]
      exact hfollow
    · -- the empty step at the end stays in the directory
      rw [hsteps, follow_append_eq_ok_iff] at hfollow
      obtain ⟨middle, hmiddle, hempty⟩ := hfollow
      obtain ⟨-, hstep⟩ := follow_cons_eq_ok_iff.mp hempty
      have hstays : stepFrom middle "" = middle := if_pos (Or.inl rfl)
      rw [hstays] at hstep
      rw [hmiddle, Except.ok.inj hstep]
  rw [locate_eq_ok_iff, horigin, hchild, follow_append_eq_ok_iff]
  exact ⟨Path.text_child_ne_empty htext, location, hfront, hlast⟩

/-! ## Entries of a directory -/

theorem entryName?_eq_some_iff {entry : Location} :
    entryName? location entry = some name ↔ entry = location ++ [name] := by
  rw [entryName?]
  cases hlast : entry.getLast? with
  | none =>
    obtain rfl := List.getLast?_eq_none_iff.mp hlast
    simp
  | some last =>
    obtain ⟨front, rfl⟩ := List.getLast?_eq_some_iff.mp hlast
    dsimp only
    rw [List.dropLast_concat]
    by_cases hfront : front = location
    · rw [if_pos hfront, hfront]
      simp
    · rw [if_neg hfront]
      simp [hfront]

/-- What is listed for a directory is there. -/
theorem mem_of_list {names : List String} (hlist : disk.list directory = .ok names)
    (hname : name ∈ names) :
    ∃ location node, disk.locate directory = .ok location ∧
      disk.node? location = some .directory ∧ (location ++ [name], node) ∈ disk.nodes := by
  obtain ⟨location, hlocate, hrest⟩ := except_bind_eq_ok_iff.mp hlist
  obtain ⟨_, henter, hnames⟩ := except_bind_eq_ok_iff.mp hrest
  obtain rfl := Except.ok.inj hnames
  obtain ⟨⟨entry, node⟩, hentry, heq⟩ := List.mem_filterMap.mp hname
  obtain rfl := entryName?_eq_some_iff.mp heq
  exact ⟨location, node, hlocate, enter_eq_ok_iff.mp henter, hentry⟩

end Disk

end CloudLift

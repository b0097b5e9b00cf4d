import CloudLift.Proofs.Files.Path
import Mathlib.Data.List.Nodup

/-!
# Entries of a well-formed disk

On a well-formed disk each location is listed once, by names that entries can have, and
stands in a directory.  Files can be written and removed without changing that.

What such a disk holds does not depend on the order in which it is listed: a path designates
the same location in any order, and a directory has the same entries, each once.  A path that
designates anything but a directory ends in a name, which is the name of what it designates.
-/

namespace CloudLift

theorem Text.Chars.notMem_of_mem_pieces {mark : Char} {cs piece : List Char}
    (hpiece : piece ∈ pieces mark cs) : mark ∉ piece := by
  induction cs generalizing piece with
  | nil =>
    rw [pieces, List.mem_singleton] at hpiece
    rw [hpiece]
    exact List.not_mem_nil
  | cons c cs ih =>
    rw [pieces] at hpiece
    split at hpiece
    case isTrue hc =>
      rcases List.mem_cons.mp hpiece with rfl | hpiece
      · exact List.not_mem_nil
      · exact ih hpiece
    case isFalse hc =>
      cases hpieces : pieces mark cs with
      | nil => exact absurd hpieces (pieces_ne_nil mark cs)
      | cons first others =>
        rw [hpieces] at hpiece ih
        rcases List.mem_cons.mp hpiece with rfl | hpiece
        · rw [List.mem_cons, not_or]
          exact ⟨Ne.symm hc, ih List.mem_cons_self⟩
        · exact ih (List.mem_cons_of_mem first hpiece)

namespace Path

variable {path directory : Path} {front : List String} {name : String}

theorem fileName?_of_steps (hsteps : path.steps = front ++ [name])
    (hname : name ≠ "" ∧ name ≠ "." ∧ name ≠ "..") : path.fileName? = some name := by
  have hkeep : [name].filter (fun step => step != "" && step != ".") = [name] := by
    simp [hname.1, hname.2.1]
  have hlast : (path.steps.filter fun step => step != "" && step != ".").getLast? =
      some name := by
    rw [hsteps, List.filter_append, hkeep, List.getLast?_concat]
  rw [fileName?, hlast]
  split
  · rename_i heq
    cases heq
  · rename_i heq
    exact absurd (Option.some.inj heq) hname.2.2
  · rename_i heq
    exact heq.symm

theorem fileName?_child (hdirectory : directory.text ≠ "") (hname : Disk.IsName name) :
    (directory.child name).fileName? = some name := by
  obtain ⟨front, -, hsteps⟩ := steps_child hdirectory hname.2.2.2
  exact fileName?_of_steps hsteps ⟨hname.1, hname.2.1, hname.2.2.1⟩

theorem fileName?_mk (hname : Disk.IsName name) : (mk name).fileName? = some name := by
  have hsteps : (mk name).steps = [] ++ [name] := by
    rw [steps, Text.pieces, Text.Chars.pieces_of_notMem hname.2.2.2]
    simp
  exact fileName?_of_steps hsteps ⟨hname.1, hname.2.1, hname.2.2.1⟩

theorem extension?_child (hdirectory : directory.text ≠ "") (hname : Disk.IsName name) :
    (directory.child name).extension? = (mk name).extension? := by
  rw [extension?, extension?, fileName?_child hdirectory hname, fileName?_mk hname]

end Path

namespace Disk

/-- Each location is listed once, by names of entries, and stands in a directory. -/
structure WellFormed (disk : Disk) : Prop where
  names : ∀ entry ∈ disk.nodes, ∀ name ∈ entry.1, IsName name
  once : (disk.nodes.map Prod.fst).Nodup
  parents : ∀ entry ∈ disk.nodes, disk.node? entry.1.dropLast = some .directory

instance (disk : Disk) : Decidable disk.WellFormed :=
  decidable_of_iff
    ((∀ entry ∈ disk.nodes, ∀ name ∈ entry.1, IsName name) ∧
      (disk.nodes.map Prod.fst).Nodup ∧
      ∀ entry ∈ disk.nodes, disk.node? entry.1.dropLast = some .directory)
    ⟨fun h => ⟨h.1, h.2.1, h.2.2⟩, fun h => ⟨h.names, h.once, h.parents⟩⟩

variable {disk other : Disk} {location : Location} {path : Path} {name : String}

theorem mem_of_findIn? {nodes : List (Location × Node)} {node : Node}
    (hfind : findIn? location nodes = some node) : (location, node) ∈ nodes := by
  induction nodes with
  | nil => cases hfind
  | cons entry nodes ih =>
    rw [findIn?] at hfind
    split at hfind
    case isTrue heq =>
      cases hfind
      rw [heq]
      exact List.mem_cons_self
    case isFalse heq => exact List.mem_cons_of_mem _ (ih hfind)

theorem eq_nil_or_mem_of_node? {node : Node} (hnode : disk.node? location = some node) :
    location = [] ∨ (location, node) ∈ disk.nodes := by
  cases location with
  | nil => exact Or.inl rfl
  | cons first others => exact Or.inr (mem_of_findIn? hnode)

theorem WellFormed.node?_dropLast (hdisk : disk.WellFormed)
    (hnode : disk.node? location = some .directory) :
    disk.node? location.dropLast = some .directory := by
  rcases eq_nil_or_mem_of_node? hnode with rfl | hmem
  · rfl
  · exact hdisk.parents _ hmem

/-- A path that designates no directory ends in the name of what it designates. -/
theorem WellFormed.exists_name (hdisk : disk.WellFormed)
    (hlocate : disk.locate path = .ok location)
    (hnode : disk.node? location ≠ some .directory) :
    ∃ front parent name, path.steps = front ++ [name] ∧ location = parent ++ [name] ∧
      disk.node? parent = some .directory ∧ name ≠ "" ∧ name ≠ "." ∧ name ≠ ".." := by
  obtain ⟨-, hfollow⟩ := locate_eq_ok_iff.mp hlocate
  have hsteps : path.steps ≠ [] := by
    rw [Path.steps, Text.pieces, ne_eq, List.map_eq_nil_iff]
    exact Text.Chars.pieces_ne_nil _ _
  obtain ⟨front, name, hfront⟩ := List.eq_nil_or_concat path.steps |>.resolve_left hsteps
  rw [List.concat_eq_append] at hfront
  rw [hfront, follow_append_eq_ok_iff] at hfollow
  obtain ⟨parent, -, hlast⟩ := hfollow
  obtain ⟨hparent, hstep⟩ := follow_cons_eq_ok_iff.mp hlast
  have hlocation : stepFrom parent name = location := Except.ok.inj hstep
  have hstays : ¬ (name = "" ∨ name = ".") := by
    intro hstays
    rw [stepFrom, if_pos hstays] at hlocation
    exact hnode (hlocation ▸ hparent)
  have hleads : name ≠ ".." := by
    intro hleads
    rw [stepFrom, if_neg hstays, if_pos hleads] at hlocation
    exact hnode (hlocation ▸ hdisk.node?_dropLast hparent)
  rw [stepFrom, if_neg hstays, if_neg hleads] at hlocation
  exact ⟨front, parent, name, hfront, hlocation.symm, hparent, fun h => hstays (Or.inl h),
    fun h => hstays (Or.inr h), hleads⟩

/-! ## Writing and removing -/

theorem WellFormed.erase (hdisk : disk.WellFormed)
    (hnode : disk.node? location ≠ some .directory) : (disk.erase location).WellFormed := by
  have hsubset : (disk.erase location).nodes ⊆ disk.nodes := List.filter_subset_self _
  refine ⟨fun entry hentry => hdisk.names entry (hsubset hentry), ?_, ?_⟩
  · exact hdisk.once.sublist (List.filter_sublist.map Prod.fst)
  · intro entry hentry
    have hparent := hdisk.parents entry (hsubset hentry)
    rw [node?_erase_all hnode, if_neg, hparent]
    rintro heq
    exact hnode (heq ▸ hparent)

theorem WellFormed.place (hdisk : disk.WellFormed) (hname : IsName name)
    (hparent : disk.node? location = some .directory)
    (hnode : disk.node? (location ++ [name]) ≠ some .directory) (bytes : List UInt8) :
    (disk.place (location ++ [name]) (.file bytes)).WellFormed := by
  have herased := hdisk.erase hnode
  have hdirectories (at_ : Location) (hat : disk.node? at_ = some .directory) :
      (disk.place (location ++ [name]) (.file bytes)).node? at_ = some .directory := by
    rw [node?_place_all hnode, if_neg, hat]
    rintro rfl
    exact hnode hat
  constructor
  case names =>
    intro entry hentry
    rcases List.mem_cons.mp hentry with rfl | hentry
    · intro step hstep
      rcases List.mem_append.mp hstep with hstep | hstep
      · rcases eq_nil_or_mem_of_node? hparent with rfl | hmem
        · cases hstep
        · exact hdisk.names _ hmem step hstep
      · rw [List.mem_singleton.mp hstep]
        exact hname
    · exact herased.names entry hentry
  case once =>
    refine List.nodup_cons.mpr ⟨?_, herased.once⟩
    intro hmem
    obtain ⟨entry, hentry, heq⟩ := List.mem_map.mp hmem
    exact of_decide_eq_true (List.mem_filter.mp hentry).2 heq
  case parents =>
    intro entry hentry
    rcases List.mem_cons.mp hentry with rfl | hentry
    · rw [List.dropLast_concat]
      exact hdirectories location hparent
    · exact hdirectories _ (hdisk.parents entry (List.mem_filter.mp hentry).1)

theorem WellFormed.remove (hdisk : disk.WellFormed) (hremove : disk.remove path = .ok other) :
    other.WellFormed := by
  obtain ⟨location, bytes, -, hfile, rfl⟩ := remove_eq_ok_iff.mp hremove
  apply hdisk.erase
  rw [hfile]
  simp

theorem WellFormed.write {bytes : List UInt8} (hdisk : disk.WellFormed)
    (hwrite : disk.write path bytes = .ok other) : other.WellFormed := by
  obtain ⟨location, hlocate, hplace⟩ := except_bind_eq_ok_iff.mp hwrite
  obtain rfl := Except.ok.inj hplace
  obtain ⟨hlocation, hnode⟩ := locateForWriting_eq_ok hlocate
  obtain ⟨front, parent, name, hsteps, rfl, hparent, hempty, hdot, hdots⟩ :=
    hdisk.exists_name hlocation hnode
  have hmem : name ∈ path.steps := by
    rw [hsteps]
    simp
  obtain ⟨piece, hpiece, rfl⟩ := List.mem_map.mp hmem
  have hslash : '/' ∉ (String.ofList piece).toList := by
    rw [String.toList_ofList]
    exact Text.Chars.notMem_of_mem_pieces hpiece
  exact hdisk.place ⟨hempty, hdot, hdots, hslash⟩ hparent hnode bytes

/-! ## The order of the nodes -/

structure Reorders (disk other : Disk) : Prop where
  nodes : disk.nodes.Perm other.nodes
  home : other.home = disk.home

theorem reorders_reverse (disk : Disk) : disk.Reorders ⟨disk.nodes.reverse, disk.home⟩ :=
  ⟨(List.reverse_perm disk.nodes).symm, rfl⟩

theorem findIn?_eq_of_perm {nodes others : List (Location × Node)} (hperm : nodes.Perm others)
    (honce : (nodes.map Prod.fst).Nodup) : findIn? location others = findIn? location nodes := by
  induction hperm with
  | nil => rfl
  | cons entry _ ih =>
    obtain ⟨-, hrest⟩ := List.nodup_cons.mp honce
    rw [findIn?, findIn?, ih hrest]
  | swap first second rest =>
    have hne : second.1 ≠ first.1 := by
      intro heq
      apply (List.nodup_cons.mp honce).1
      rw [heq]
      exact List.mem_cons_self
    simp only [findIn?]
    by_cases hfirst : location = first.1
    · rw [if_pos hfirst, if_neg fun hsecond => hne (hsecond.symm.trans hfirst)]
      exact (if_pos hfirst).symm
    · rw [if_neg hfirst]
      congr 1
      exact (if_neg hfirst).symm
  | trans hfirst _ ihFirst ihSecond =>
    rw [ihSecond ((hfirst.map Prod.fst).nodup_iff.mp honce), ihFirst honce]

namespace Reorders

variable (hreorders : disk.Reorders other) (hdisk : disk.WellFormed)

include hreorders hdisk

theorem node?_eq (location : Location) : other.node? location = disk.node? location := by
  cases location with
  | nil => rfl
  | cons first others => exact findIn?_eq_of_perm hreorders.nodes hdisk.once

theorem enter_eq (location : Location) : other.enter location = disk.enter location := by
  rw [enter, enter, hreorders.node?_eq hdisk]

theorem follow_eq (here : Location) (steps : List String) :
    other.follow here steps = disk.follow here steps := by
  induction steps generalizing here with
  | nil => rfl
  | cons step steps ih =>
    rw [follow, follow, hreorders.enter_eq hdisk]
    cases disk.enter here with
    | error fault => rfl
    | ok nothing => exact ih (stepFrom here step)

theorem locate_eq (path : Path) : other.locate path = disk.locate path := by
  rw [locate, locate, origin, origin, hreorders.home, hreorders.follow_eq hdisk]

theorem list_perm (path : Path) :
    (∃ fault, disk.list path = .error fault ∧ other.list path = .error fault) ∨
      ∃ names others, disk.list path = .ok names ∧ other.list path = .ok others ∧
        names.Perm others := by
  rw [list, list, hreorders.locate_eq hdisk]
  cases disk.locate path with
  | error fault => exact Or.inl ⟨fault, rfl, rfl⟩
  | ok location =>
    simp only [hreorders.enter_eq hdisk, bind, Except.bind]
    cases disk.enter location with
    | error fault => exact Or.inl ⟨fault, rfl, rfl⟩
    | ok nothing => exact Or.inr ⟨_, _, rfl, rfl, hreorders.nodes.filterMap _⟩

end Reorders

/-! ## Listing a directory -/

theorem WellFormed.nodup_of_list {names : List String} (hdisk : disk.WellFormed)
    (hlist : disk.list path = .ok names) : names.Nodup := by
  obtain ⟨location, -, hrest⟩ := except_bind_eq_ok_iff.mp hlist
  obtain ⟨-, -, hnames⟩ := except_bind_eq_ok_iff.mp hrest
  obtain rfl := Except.ok.inj hnames
  have hnodup : ((disk.nodes.map Prod.fst).filterMap (entryName? location)).Nodup := by
    apply hdisk.once.filterMap
    intro entry second name hentry hsecond
    rw [entryName?_eq_some_iff.mp hentry, entryName?_eq_some_iff.mp hsecond]
  rw [List.filterMap_map] at hnodup
  exact hnodup

theorem WellFormed.isName_of_list {names : List String} (hdisk : disk.WellFormed)
    (hlist : disk.list path = .ok names) (hname : name ∈ names) : IsName name := by
  obtain ⟨location, node, -, -, hmem⟩ := mem_of_list hlist hname
  exact hdisk.names _ hmem name (by simp)

end Disk

end CloudLift

import CloudLift.Files.Disk

/-!
# Changes at one location

A path is followed through directories.  A file that is removed or written is not one of
them, so every path designates the same location before and after.  What the path of the
file designates is then the only thing that has changed.
-/

namespace CloudLift.Disk

variable {disk other : Disk} {path : Path} {location : Location}

/-! ## Following a path -/

/-- The same directories are there, and the same one is the working directory. -/
structure SameDirectories (disk other : Disk) : Prop where
  home : other.home = disk.home
  directory : ∀ location,
    other.node? location = some .directory ↔ disk.node? location = some .directory

theorem enter_eq_ok_iff :
    disk.enter location = .ok () ↔ disk.node? location = some .directory := by
  unfold enter
  cases disk.node? location with
  | none => simp
  | some node =>
    cases node with
    | file bytes => simp
    | directory => simp

theorem follow_cons_eq_ok_iff {here : Location} {step : String} {steps : List String} :
    disk.follow here (step :: steps) = .ok location ↔
      disk.node? here = some .directory ∧
        disk.follow (stepFrom here step) steps = .ok location := by
  rw [follow, ← enter_eq_ok_iff]
  cases disk.enter here with
  | error fault => simp
  | ok nothing => simp

theorem SameDirectories.follow_eq_ok_iff (hsame : SameDirectories disk other)
    {here : Location} {steps : List String} :
    other.follow here steps = .ok location ↔ disk.follow here steps = .ok location := by
  induction steps generalizing here with
  | nil => rfl
  | cons step steps ih =>
    rw [follow_cons_eq_ok_iff, follow_cons_eq_ok_iff, hsame.directory, ih]

theorem SameDirectories.locate_eq_ok_iff (hsame : SameDirectories disk other) :
    other.locate path = .ok location ↔ disk.locate path = .ok location := by
  have horigin : other.origin path = disk.origin path := by
    rw [origin, origin, hsame.home]
  unfold locate
  by_cases hempty : path.text.isEmpty = true
  · rw [if_pos hempty, if_pos hempty]
  · rw [if_neg hempty, if_neg hempty, horigin, hsame.follow_eq_ok_iff]

theorem SameDirectories.trans {third : Disk} (hfirst : SameDirectories disk other)
    (hsecond : SameDirectories other third) : SameDirectories disk third := by
  constructor
  · rw [hsecond.home, hfirst.home]
  · intro location
    rw [hsecond.directory, hfirst.directory]

theorem SameDirectories.refl (disk : Disk) : SameDirectories disk disk :=
  ⟨rfl, fun _ => Iff.rfl⟩

/-! ## Files at a path -/

theorem readBytes_eq_ok_iff {bytes : List UInt8} :
    disk.readBytes path = .ok bytes ↔
      ∃ location, disk.locate path = .ok location ∧
        disk.node? location = some (.file bytes) := by
  rw [readBytes, except_bind_eq_ok_iff]
  apply exists_congr
  intro location
  apply and_congr_right
  intro hlocation
  cases disk.node? location with
  | none => simp
  | some node =>
    cases node with
    | file held => simp
    | directory => simp

theorem isFile_eq_true_iff :
    disk.isFile path = true ↔
      ∃ location bytes, disk.locate path = .ok location ∧
        disk.node? location = some (.file bytes) := by
  unfold isFile
  cases hread : disk.readBytes path with
  | error fault =>
    constructor
    · intro hfalse
      cases hfalse
    · rintro ⟨location, bytes, hlocation, hnode⟩
      cases hread.symm.trans (readBytes_eq_ok_iff.mpr ⟨location, hlocation, hnode⟩)
  | ok bytes =>
    obtain ⟨location, hlocation, hnode⟩ := readBytes_eq_ok_iff.mp hread
    constructor
    · intro _
      exact ⟨location, bytes, hlocation, hnode⟩
    · intro _
      rfl

/-! ## The frame of a path -/

/-- Nothing has changed but what the path designates, and all directories are still there. -/
structure SameBut (disk : Disk) (path : Path) (other : Disk) : Prop where
  directories : SameDirectories disk other
  node : ∀ location, disk.locate path ≠ .ok location →
    other.node? location = disk.node? location

theorem SameBut.refl (disk : Disk) (path : Path) : disk.SameBut path disk :=
  ⟨.refl disk, fun _ _ => rfl⟩

theorem SameBut.trans {third : Disk} (hfirst : disk.SameBut path other)
    (hsecond : other.SameBut path third) : disk.SameBut path third := by
  constructor
  · exact hfirst.directories.trans hsecond.directories
  · intro location hlocation
    have hother : other.locate path ≠ .ok location := by
      rw [Ne, hfirst.directories.locate_eq_ok_iff]
      exact hlocation
    rw [hsecond.node location hother, hfirst.node location hlocation]

/-- A file stays as it is unless the path designates it too. -/
theorem SameBut.readBytes_eq_ok (hsame : disk.SameBut path other) {input : Path}
    {bytes : List UInt8} (hinput : disk.locate input ≠ disk.locate path)
    (hread : disk.readBytes input = .ok bytes) : other.readBytes input = .ok bytes := by
  obtain ⟨location, hlocation, hnode⟩ := readBytes_eq_ok_iff.mp hread
  have hother : disk.locate path ≠ .ok location := by
    intro hpath
    exact hinput (hlocation.trans hpath.symm)
  rw [readBytes_eq_ok_iff]
  refine ⟨location, hsame.directories.locate_eq_ok_iff.mpr hlocation, ?_⟩
  rw [hsame.node location hother, hnode]

theorem sameBut_of_node? {node : Option Node} (hlocation : disk.locate path = .ok location)
    (hbefore : disk.node? location ≠ some .directory) (hafter : node ≠ some .directory)
    (hhome : other.home = disk.home)
    (hnodes : ∀ at_, other.node? at_ = if at_ = location then node else disk.node? at_) :
    disk.SameBut path other := by
  refine ⟨⟨hhome, ?_⟩, ?_⟩
  · intro at_
    rw [hnodes]
    by_cases heq : at_ = location
    · subst heq
      rw [if_pos rfl]
      exact ⟨fun hdirectory => absurd hdirectory hafter,
        fun hdirectory => absurd hdirectory hbefore⟩
    · rw [if_neg heq]
  · intro at_ hat
    rw [hnodes, if_neg]
    rintro rfl
    exact hat hlocation

section NotADirectory

variable (hlocation : disk.locate path = .ok location)
  (hnode : disk.node? location ≠ some .directory)

include hnode

theorem ne_root : location ≠ [] := by
  rintro rfl
  exact hnode rfl

theorem node?_erase_all (at_ : Location) :
    (disk.erase location).node? at_ = if at_ = location then none else disk.node? at_ := by
  by_cases hat : at_ = []
  · subst hat
    rw [if_neg (Ne.symm (ne_root hnode))]
    rfl
  · exact node?_erase disk location at_ hat

theorem node?_place_all (node : Node) (at_ : Location) :
    (disk.place location node).node? at_ =
      if at_ = location then some node else disk.node? at_ := by
  by_cases hat : at_ = []
  · subst hat
    rw [if_neg (Ne.symm (ne_root hnode))]
    rfl
  · exact node?_place disk location at_ node hat

include hlocation

theorem sameBut_erase : disk.SameBut path (disk.erase location) :=
  sameBut_of_node? hlocation hnode (by simp) rfl (node?_erase_all hnode)

theorem isFile_erase : (disk.erase location).isFile path = false := by
  rw [← Bool.not_eq_true, isFile_eq_true_iff]
  rintro ⟨at_, bytes, hat, hfile⟩
  rw [(sameBut_erase hlocation hnode).directories.locate_eq_ok_iff, hlocation] at hat
  cases hat
  rw [node?_erase_all hnode, if_pos rfl] at hfile
  cases hfile

theorem sameBut_place (bytes : List UInt8) :
    disk.SameBut path (disk.place location (.file bytes)) :=
  sameBut_of_node? hlocation hnode (by simp) rfl (node?_place_all hnode _)

theorem readBytes_place (bytes : List UInt8) :
    (disk.place location (.file bytes)).readBytes path = .ok bytes := by
  rw [readBytes_eq_ok_iff]
  refine ⟨location, ?_, ?_⟩
  · rw [(sameBut_place hlocation hnode bytes).directories.locate_eq_ok_iff]
    exact hlocation
  · rw [node?_place_all hnode, if_pos rfl]

end NotADirectory

/-! ## Removing and creating -/

def cleared (disk : Disk) (path : Path) : Disk :=
  match disk.remove path with
  | .ok disk => disk
  | .error _ => disk

theorem remove_of_locate (hlocation : disk.locate path = .ok location) :
    disk.remove path =
      match disk.node? location with
      | none => .error .notFound
      | some .directory => .error .isDirectory
      | some (.file _) => .ok (disk.erase location) := by
  rw [remove, hlocation]
  rfl

theorem cleared_of_file {bytes : List UInt8} (hlocation : disk.locate path = .ok location)
    (hnode : disk.node? location = some (.file bytes)) :
    disk.cleared path = disk.erase location := by
  rw [cleared, remove_of_locate hlocation, hnode]

theorem remove_eq_ok_iff :
    disk.remove path = .ok other ↔
      ∃ location bytes, disk.locate path = .ok location ∧
        disk.node? location = some (.file bytes) ∧ other = disk.erase location := by
  rw [remove, except_bind_eq_ok_iff]
  apply exists_congr
  intro location
  cases disk.node? location with
  | none => simp
  | some node =>
    cases node with
    | file bytes => simp [eq_comm]
    | directory => simp

theorem nodes_cleared_subset (disk : Disk) (path : Path) :
    (disk.cleared path).nodes ⊆ disk.nodes := by
  intro entry hentry
  rw [cleared] at hentry
  cases hremove : disk.remove path with
  | error fault =>
    rw [hremove] at hentry
    exact hentry
  | ok other =>
    rw [hremove] at hentry
    obtain ⟨location, bytes, -, -, rfl⟩ := remove_eq_ok_iff.mp hremove
    exact (List.mem_filter.mp hentry).1

/-- Whether or not the attempt succeeds, no file is at the path any more. -/
theorem cleared_spec (disk : Disk) (path : Path) :
    disk.SameBut path (disk.cleared path) ∧ (disk.cleared path).isFile path = false := by
  cases hlocation : disk.locate path with
  | error fault =>
    have hcleared : disk.cleared path = disk := by
      rw [cleared, remove, hlocation]
      rfl
    rw [hcleared]
    refine ⟨.refl disk path, ?_⟩
    rw [← Bool.not_eq_true, isFile_eq_true_iff]
    rintro ⟨location, bytes, hother, -⟩
    cases hlocation.symm.trans hother
  | ok location =>
    have hremove := remove_of_locate hlocation
    by_cases hfile : ∃ bytes, disk.node? location = some (.file bytes)
    · obtain ⟨bytes, hnode⟩ := hfile
      have hnotDirectory : disk.node? location ≠ some .directory := by
        rw [hnode]
        simp
      rw [cleared_of_file hlocation hnode]
      exact ⟨sameBut_erase hlocation hnotDirectory, isFile_erase hlocation hnotDirectory⟩
    · have hcleared : disk.cleared path = disk := by
        rw [cleared, hremove]
        cases hnode : disk.node? location with
        | none => rfl
        | some node =>
          cases node with
          | directory => rfl
          | file bytes => exact absurd ⟨bytes, hnode⟩ hfile
      rw [hcleared]
      refine ⟨.refl disk path, ?_⟩
      rw [← Bool.not_eq_true, isFile_eq_true_iff]
      rintro ⟨other, bytes, hother, hnode⟩
      cases hlocation.symm.trans hother
      exact hfile ⟨bytes, hnode⟩

theorem locateForWriting_eq_ok (hlocate : disk.locateForWriting path = .ok location) :
    disk.locate path = .ok location ∧ disk.node? location ≠ some .directory := by
  unfold locateForWriting at hlocate
  unfold locate
  by_cases hempty : path.text.isEmpty = true
  · rw [if_pos hempty] at hlocate
    cases hlocate
  rw [if_neg hempty] at hlocate ⊢
  by_cases hslash : path.steps.getLast? = some ""
  · rw [if_pos hslash, except_bind_eq_ok_iff] at hlocate
    obtain ⟨parent, -, hparent⟩ := hlocate
    rw [except_bind_eq_ok_iff] at hparent
    obtain ⟨nothing, -, hnever⟩ := hparent
    cases hnever
  · rw [if_neg hslash, except_bind_eq_ok_iff] at hlocate
    obtain ⟨other, hfollow, hother⟩ := hlocate
    split at hother
    · cases hother
    · rename_i hnode
      cases hother
      exact ⟨hfollow, hnode⟩

/-! ## Clearing a path -/

/-- Nothing keeps the path from being cleared, and the other disk is what is left then. -/
def ClearsTo (disk : Disk) (path : Path) (other : Disk) : Prop :=
  disk.remove path = .ok other ∨ disk.remove path = .error .notFound ∧ other = disk

theorem findIn?_eq_none_iff {nodes : List (Location × Node)} :
    findIn? location nodes = none ↔ ∀ entry ∈ nodes, entry.1 ≠ location := by
  induction nodes with
  | nil => simp [findIn?]
  | cons entry rest ih =>
    by_cases hentry : location = entry.1
    · simp [findIn?, hentry]
    · simp [findIn?, hentry, ih, Ne.symm hentry]

theorem not_mem_of_node?_eq_none (hnode : disk.node? location = none) :
    ∀ entry ∈ disk.nodes, entry.1 ≠ location := by
  cases location with
  | nil => cases hnode
  | cons name names => exact findIn?_eq_none_iff.mp hnode

theorem erase_of_node?_eq_none (hnode : disk.node? location = none) :
    disk.erase location = disk := by
  rw [erase, List.filter_eq_self.mpr]
  intro entry hentry
  exact decide_eq_true (not_mem_of_node?_eq_none hnode entry hentry)

theorem erase_place (disk : Disk) (location : Location) (node : Node) :
    (disk.place location node).erase location = disk.erase location := by
  simp [place, erase]

theorem ClearsTo.sameBut (hclears : disk.ClearsTo path other) : disk.SameBut path other := by
  rcases hclears with hremove | ⟨-, rfl⟩
  · have hcleared : disk.cleared path = other := by
      rw [cleared, hremove]
    rw [← hcleared]
    exact (cleared_spec disk path).1
  · exact .refl other path

/-- A path that has been cleared designates nothing. -/
theorem ClearsTo.node?_eq_none (hclears : disk.ClearsTo path other)
    (hlocation : disk.locate path = .ok location) : other.node? location = none := by
  rcases hclears with hremove | ⟨hremove, rfl⟩
  · rcases remove_eq_ok_iff.mp hremove with ⟨found, bytes, hfound, hfile, rfl⟩
    have hsame : location = found := Except.ok.inj (hlocation.symm.trans hfound)
    subst hsame
    rw [node?_erase_all (by simp [hfile]), if_pos rfl]
  · rw [remove_of_locate hlocation] at hremove
    cases hnode : other.node? location with
    | none => rfl
    | some node =>
      rw [hnode] at hremove
      cases node with
      | file bytes => cases hremove
      | directory => cases hremove

theorem ClearsTo.again (hclears : disk.ClearsTo path other) : other.ClearsTo path other := by
  right
  constructor
  · rcases id hclears with hremove | ⟨hremove, rfl⟩
    · rcases remove_eq_ok_iff.mp hremove with ⟨location, bytes, hlocation, -, -⟩
      have hother : other.locate path = .ok location := by
        rw [hclears.sameBut.directories.locate_eq_ok_iff]
        exact hlocation
      rw [remove_of_locate hother, hclears.node?_eq_none hlocation]
    · exact hremove
  · rfl

section Writing

variable (hclears : disk.ClearsTo path other)
  (hlocate : other.locateForWriting path = .ok location)

include hclears hlocate

/-- Giving up a file leaves the disk as it was before the file was created. -/
theorem ClearsTo.erase_eq : other.erase location = other :=
  erase_of_node?_eq_none (hclears.again.node?_eq_none (locateForWriting_eq_ok hlocate).1)

/-- Clearing takes back what was written to a cleared path. -/
theorem ClearsTo.of_place (bytes : List UInt8) :
    (other.place location (.file bytes)).ClearsTo path other := by
  have ⟨hlocation, hnode⟩ := locateForWriting_eq_ok hlocate
  left
  rw [remove_eq_ok_iff]
  refine ⟨location, bytes, ?_, ?_, ?_⟩
  · rw [(sameBut_place hlocation hnode bytes).directories.locate_eq_ok_iff]
    exact hlocation
  · rw [node?_place_all hnode, if_pos rfl]
  · rw [erase_place, hclears.erase_eq hlocate]

end Writing

end CloudLift.Disk

import CloudLift.Generate.Configuration
import CloudLift.Proofs.Settings.Check
import CloudLift.Proofs.Size
import CloudLift.Proofs.Table

/-!
# When a group is converted

Two things about a group are not in the inventory alone: the service account, which the
settings may lack, and the tag, on which the members may disagree.  Both are settled with
the operator, group by group, and an answer can change what the operator says next.
`choices` settles them for all groups in turn.

What is left are conditions on each group by itself.  The block of a group is written
exactly when they hold.
-/

namespace CloudLift

variable {σ : Type}

/-! ## Single checks -/

def Image.Catalog.image? (catalog : Image.Catalog) (tag : String) : Option String :=
  (catalog.match? tag).map Prod.snd

namespace Interaction

variable {op : Operator σ} {s s' : σ} {text : String}

theorem yields_resolve_iff {catalog : Image.Catalog} {tag id : String} :
    Yields op s (catalog.resolve tag) id text s' ↔
      catalog.image? tag = some id ∧ text = "" ∧ s' = s := by
  unfold Image.Catalog.resolve Image.Catalog.image?
  cases catalog.match? tag with
  | none => simp
  | some entry =>
    obtain ⟨name, other⟩ := entry
    simp [yields_log_andThen_iff, eq_comm]

end Interaction

namespace Generate

theorem distinctFrom_eraseDups (seen values : List String) :
    distinctFrom seen.eraseDups values = (seen ++ values).eraseDups := by
  induction values generalizing seen with
  | nil => rw [distinctFrom, List.append_nil]
  | cons value values ih =>
    have hseen : (if value ∈ seen.eraseDups then seen.eraseDups
        else seen.eraseDups ++ [value]) = (seen ++ [value]).eraseDups := by
      rw [eraseDups_concat]
      simp only [List.mem_eraseDups]
    rw [distinctFrom, hseen, ih, List.append_assoc]
    rfl

def tagsOf (machines : List Machine) : List String :=
  machines.filterMap fun machine => machine.attribute? "os_id"

theorem tags_eq_ok_iff {machines : List Machine} {all : List String} :
    tags machines = .ok all ↔
      (∀ machine ∈ machines, (machine.attribute? "os_id").isSome = true) ∧
        all = tagsOf machines := by
  induction machines generalizing all with
  | nil =>
    rw [tags, Except.ok.injEq]
    constructor
    · rintro rfl
      exact ⟨by simp, rfl⟩
    · rintro ⟨-, hall⟩
      exact hall.symm
  | cons machine machines ih =>
    unfold tags
    rw [List.forall_mem_cons]
    cases htag : machine.attribute? "os_id" with
    | none => simp
    | some tag =>
      have hcons : tagsOf (machine :: machines) = tag :: tagsOf machines :=
        List.filterMap_cons_some htag
      simp only [except_bind_eq_ok_iff, ih, Option.isSome_some, true_and, hcons]
      constructor
      · rintro ⟨rest, ⟨hmachines, rfl⟩, hall⟩
        cases hall
        exact ⟨hmachines, rfl⟩
      · rintro ⟨hmachines, rfl⟩
        exact ⟨tagsOf machines, ⟨hmachines, rfl⟩, rfl⟩

/-! ## What is settled with the operator -/

/-- The account for a group, if the settings hold it or the operator names it. -/
def accountFor (op : Operator σ) (settings : Settings) (group : String) (s : σ) :
    Option String × σ :=
  match settings.serviceAccounts.find? group with
  | some account => (some account, s)
  | none =>
    match op.ask (accountQuestion group) s with
    | (.ok account, s') => (some account, s')
    | (.error _, s') => (none, s')

/-- The tag for a group: the only one, or else the one that the operator chooses. -/
def tagFor (op : Operator σ) (group : String) (options : List String) (s : σ) :
    Option String × σ :=
  match options with
  | [] => (none, s)
  | [tag] => (some tag, s)
  | options =>
    match op.choose (systemQuestion group) options s with
    | (.ok choice, s') => (options[choice]?, s')
    | (.error _, s') => (none, s')

/-- A group with its members and with what was settled for it. -/
structure SettledGroup where
  name : String
  machines : List Machine
  account? : Option String
  tag? : Option String

/-- Settles a group, given by its name as written and its references. -/
def settle (op : Operator σ) (settings : Settings) (inventory : Inventory)
    (entry : String × List String) (s : σ) : SettledGroup × σ :=
  let name := Name.unquote entry.1
  let machines := members inventory entry.2
  let (account?, s) := accountFor op settings name s
  let (tag?, s) := tagFor op name (tagsOf machines).eraseDups s
  (⟨name, machines, account?, tag?⟩, s)

def settleAll (op : Operator σ) (settings : Settings) (inventory : Inventory) :
    List (String × List String) → σ → List SettledGroup × σ
  | [], s => ([], s)
  | entry :: entries, s =>
    let (group, s) := settle op settings inventory entry s
    let (rest, s) := settleAll op settings inventory entries s
    (group :: rest, s)

namespace SettledGroup

def image? (group : SettledGroup) (catalog : Image.Catalog) : Option String :=
  group.tag?.bind catalog.image?

/-- Everything that the block of the group needs is there. -/
structure Convertible (group : SettledGroup) (catalog : Image.Catalog) : Prop where
  name : Name.isValid group.name = true
  account : group.account?.isSome = true
  sized : ∀ machine ∈ group.machines, machine.Sized
  tagged : ∀ machine ∈ group.machines, (machine.attribute? "os_id").isSome = true
  image : (group.image? catalog).isSome = true
  counted : ∀ machine ∈ group.machines, machine.count?.isSome = true
  total : instanceCount group.machines < Text.wordBound

/-- What the block of a convertible group is made from. -/
def plan (group : SettledGroup) (catalog : Image.Catalog) : GroupPlan :=
  { name := group.name
    serviceAccount := group.account?.getD ""
    size := (Size.largest group.machines).rounded
    image := (group.image? catalog).getD ""
    nat := group.machines.any Machine.usesNat
    scale := instanceCount group.machines }

end SettledGroup

def groupBlocks (catalog : Image.Catalog) (settings : Settings)
    (settled : List SettledGroup) : String :=
  String.join (settled.map fun group => (group.plan catalog).block settings)

/-! ## The block of a group -/

section Yields

open Interaction

variable {op : Operator σ} {s s' : σ} {text : String}

theorem yields_serviceAccount_iff {settings : Settings} {group account : String} :
    Yields op s (serviceAccount settings group) account text s' ↔
      accountFor op settings group s = (some account, s') ∧ text = "" := by
  unfold serviceAccount accountFor
  cases settings.serviceAccounts.find? group with
  | some known =>
    dsimp only
    rw [yields_done_iff]
    constructor
    · rintro ⟨rfl, rfl, rfl⟩
      exact ⟨rfl, rfl⟩
    · rintro ⟨hsome, rfl⟩
      cases hsome
      exact ⟨rfl, rfl, rfl⟩
  | none =>
    dsimp only
    rw [yields_inquire_iff]
    cases hask : op.ask (accountQuestion group) s with
    | mk reply left =>
      cases reply with
      | error fault => simp
      | ok reply => simp

theorem yields_chooseTag_iff {group tag : String} {options : List String} :
    Yields op s (chooseTag group options) tag text s' ↔
      tagFor op group options s = (some tag, s') ∧ text = "" := by
  match options with
  | [] => simp [chooseTag, tagFor]
  | [only] =>
    rw [chooseTag, yields_done_iff, tagFor]
    constructor
    · rintro ⟨rfl, rfl, rfl⟩
      exact ⟨rfl, rfl⟩
    · rintro ⟨hsome, rfl⟩
      cases hsome
      exact ⟨rfl, rfl, rfl⟩
  | first :: second :: rest =>
    unfold chooseTag tagFor
    dsimp only
    rw [bind_eq_andThen, yields_silent_andThen_iff fun _ _ _ => yields_select_iff]
    cases op.choose (systemQuestion group) (first :: second :: rest) s with
    | mk reply left =>
      cases reply with
      | error fault => simp
      | ok reply =>
        constructor
        · rintro ⟨choice, left', hreply, htag⟩
          cases hreply
          dsimp only at htag ⊢
          cases hother : (first :: second :: rest)[reply]? with
          | none =>
            rw [hother] at htag
            exact (yields_fail_iff.mp htag).elim
          | some other =>
            rw [hother] at htag
            obtain ⟨rfl, rfl, rfl⟩ := yields_done_iff.mp htag
            exact ⟨rfl, rfl⟩
        · rintro ⟨hsettled, rfl⟩
          obtain ⟨htag, rfl⟩ := Prod.mk.inj hsettled
          refine ⟨reply, left, rfl, ?_⟩
          rw [htag]
          exact yields_done_iff.mpr ⟨rfl, rfl, rfl⟩

theorem yields_groupImage_iff {catalog : Image.Catalog} {group id : String}
    {machines : List Machine} :
    Yields op s (groupImage catalog group machines) id text s' ↔
      ((∀ machine ∈ machines, (machine.attribute? "os_id").isSome = true) ∧
        ∃ tag, tagFor op group (tagsOf machines).eraseDups s = (some tag, s') ∧
          catalog.image? tag = some id) ∧
        text = "" := by
  have hoptions : distinctFrom [] (tagsOf machines) = (tagsOf machines).eraseDups :=
    distinctFrom_eraseDups [] (tagsOf machines)
  unfold groupImage
  simp only [bind_eq_andThen, yields_ofExcept_andThen_iff, tags_eq_ok_iff]
  constructor
  · rintro ⟨all, ⟨htagged, rfl⟩, hrest⟩
    rw [hoptions, yields_silent_andThen_iff fun _ _ _ => yields_chooseTag_iff] at hrest
    obtain ⟨tag, left, htag, himage⟩ := hrest
    rw [yields_log_andThen_iff, yields_resolve_iff] at himage
    obtain ⟨himage, rfl, rfl⟩ := himage
    exact ⟨⟨htagged, tag, htag, himage⟩, rfl⟩
  · rintro ⟨⟨htagged, tag, htag, himage⟩, rfl⟩
    refine ⟨tagsOf machines, ⟨htagged, rfl⟩, ?_⟩
    rw [hoptions, yields_silent_andThen_iff fun _ _ _ => yields_chooseTag_iff]
    refine ⟨tag, s', htag, ?_⟩
    rw [yields_log_andThen_iff, yields_resolve_iff]
    exact ⟨himage, rfl, rfl⟩

theorem yields_planGroup_iff {inventory : Inventory} {catalog : Image.Catalog}
    {settings : Settings} {rawName : String} {references : List String}
    {plan : GroupPlan} :
    Yields op s (planGroup inventory catalog settings rawName references) plan text s' ↔
      ((settle op settings inventory (rawName, references) s).1.Convertible catalog ∧
        plan = (settle op settings inventory (rawName, references) s).1.plan catalog ∧
        s' = (settle op settings inventory (rawName, references) s).2) ∧ text = "" := by
  unfold planGroup
  simp only [bind_eq_andThen, yields_requireName_andThen_iff, yields_log_andThen_iff,
    yields_silent_andThen_iff fun _ _ _ => yields_serviceAccount_iff,
    yields_ofExcept_andThen_iff, Size.supOf_eq_ok_iff]
  simp only [yields_silent_andThen_iff fun _ _ _ => yields_groupImage_iff,
    yields_ofExcept_andThen_iff, totalCount_eq_ok_iff Text.wordBound_pos, pure_eq_done, yields_done_iff,
    Size.zero_sup, Nat.zero_add]
  constructor
  · rintro ⟨hname, account, s1, haccount, size, ⟨hsized, rfl⟩, image, s2,
      ⟨htagged, tag, htag, himage⟩, scale, ⟨hcounted, htotal, rfl⟩, rfl, rfl, rfl⟩
    -- The account comes before the tag on both sides, so each question finds the operator in
    -- the same state.
    have hsettle : settle op settings inventory (rawName, references) s =
        (⟨Name.unquote rawName, members inventory references, some account, some tag⟩,
          s') := by
      simp [settle, haccount, htag]
    rw [hsettle]
    refine ⟨⟨⟨hname, rfl, hsized, htagged, ?_, hcounted, htotal⟩, ?_, rfl⟩, rfl⟩
    · rw [SettledGroup.image?, Option.bind_some, himage, Option.isSome_some]
    · simp [SettledGroup.plan, SettledGroup.image?, himage]
  · rintro ⟨⟨hconvertible, rfl, rfl⟩, rfl⟩
    obtain ⟨account, haccount⟩ := Option.isSome_iff_exists.mp hconvertible.account
    obtain ⟨id, himage⟩ := Option.isSome_iff_exists.mp hconvertible.image
    obtain ⟨tag, htag, hid⟩ := Option.bind_eq_some_iff.mp himage
    refine ⟨hconvertible.name, account, _, Prod.ext haccount rfl, _,
      ⟨hconvertible.sized, rfl⟩, id, _, ⟨hconvertible.tagged, tag, Prod.ext htag rfl, hid⟩,
      _, ⟨hconvertible.counted, hconvertible.total, rfl⟩, ?_, rfl, rfl⟩
    rw [SettledGroup.plan, haccount, himage]
    rfl

theorem yields_group_iff {inventory : Inventory} {catalog : Image.Catalog}
    {settings : Settings} {entry : String × List String} {nothing : Unit} :
    Yields op s (group inventory catalog settings entry.1 entry.2) nothing text s' ↔
      (settle op settings inventory entry s).1.Convertible catalog ∧
        text = ((settle op settings inventory entry s).1.plan catalog).block settings ∧
        s' = (settle op settings inventory entry s).2 := by
  unfold group
  rw [bind_eq_andThen, yields_silent_andThen_iff fun _ _ _ => yields_planGroup_iff]
  constructor
  · rintro ⟨plan, left, ⟨hconvertible, rfl, rfl⟩, hput⟩
    obtain ⟨rfl, rfl⟩ := yields_put_iff.mp hput
    exact ⟨hconvertible, rfl, rfl⟩
  · rintro ⟨hconvertible, rfl, rfl⟩
    exact ⟨_, _, ⟨hconvertible, rfl, rfl⟩, yields_put_iff.mpr ⟨rfl, rfl⟩⟩

theorem yields_groups_iff {inventory : Inventory} {catalog : Image.Catalog}
    {settings : Settings} {entries : List (String × List String)} {nothing : Unit} :
    Yields op s (groups inventory catalog settings entries) nothing text s' ↔
      (∀ group ∈ (settleAll op settings inventory entries s).1,
        group.Convertible catalog) ∧
        text = groupBlocks catalog settings (settleAll op settings inventory entries s).1 ∧
        s' = (settleAll op settings inventory entries s).2 := by
  induction entries generalizing s text with
  | nil => simp [groups, each, settleAll, groupBlocks]
  | cons entry entries ih =>
    have hgroups : groups inventory catalog settings (entry :: entries) =
        (group inventory catalog settings entry.1 entry.2).andThen fun _ =>
          groups inventory catalog settings entries := rfl
    rw [hgroups, yields_andThen_iff]
    simp only [yields_group_iff, ih, settleAll, List.forall_mem_cons, groupBlocks,
      List.map_cons, String.join_cons]
    constructor
    · rintro ⟨_, before, left, after, ⟨hfirst, rfl, rfl⟩, ⟨hrest, rfl, rfl⟩, rfl⟩
      exact ⟨⟨hfirst, hrest⟩, rfl, rfl⟩
    · rintro ⟨⟨hfirst, hrest⟩, rfl, rfl⟩
      exact ⟨(), _, _, _, ⟨hfirst, rfl, rfl⟩, ⟨hrest, rfl, rfl⟩, rfl⟩

end Yields

end Generate

end CloudLift

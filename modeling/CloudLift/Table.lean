/-!
# Tables

A table holds one value a key and remembers the order in which the keys came.  A
value that is set again stays at its key's place.
-/

namespace CloudLift

structure Table (α : Type) where
  entries : List (String × α)
  deriving DecidableEq, Repr

namespace Table

variable {α : Type}

def empty : Table α :=
  ⟨[]⟩

instance : Inhabited (Table α) := ⟨empty⟩

def keys (table : Table α) : List String :=
  table.entries.map Prod.fst

def findIn? (key : String) : List (String × α) → Option α
  | [] => none
  | (k, v) :: rest => if key = k then some v else findIn? key rest

def find? (table : Table α) (key : String) : Option α :=
  findIn? key table.entries

def contains (table : Table α) (key : String) : Bool :=
  (table.find? key).isSome

/-- Rewrites the first entry of the key, or adds an entry at the end. -/
def alterEntries (key : String) (f : Option α → α) :
    List (String × α) → List (String × α)
  | [] => [(key, f none)]
  | (k, v) :: rest =>
    if key = k then
      (k, f (some v)) :: rest
    else
      (k, v) :: alterEntries key f rest

/-- Sets the value of a key from the one it has. -/
def alter (table : Table α) (key : String) (f : Option α → α) : Table α :=
  ⟨alterEntries key f table.entries⟩

def insert (table : Table α) (key : String) (value : α) : Table α :=
  table.alter key fun _ => value

def ofList (pairs : List (String × α)) : Table α :=
  pairs.foldl (fun table (key, value) => table.insert key value) empty

@[simp] theorem find?_empty (key : String) : (empty : Table α).find? key = none :=
  rfl

theorem findIn?_alterEntries (entries : List (String × α)) (key other : String)
    (f : Option α → α) :
    findIn? other (alterEntries key f entries) =
      if other = key then some (f (findIn? key entries)) else findIn? other entries := by
  induction entries with
  | nil => simp [alterEntries, findIn?]
  | cons entry rest ih =>
    obtain ⟨k, v⟩ := entry
    unfold alterEntries
    by_cases hk : key = k
    · subst hk
      by_cases h : other = key <;> simp [findIn?, h]
    · by_cases h : other = key
      · subst h
        simp [findIn?, hk, ih]
      · by_cases hok : other = k <;> simp [findIn?, Ne.symm hk, hk, h, hok, ih]

theorem find?_alter (table : Table α) (key other : String) (f : Option α → α) :
    (table.alter key f).find? other =
      if other = key then some (f (table.find? key)) else table.find? other :=
  findIn?_alterEntries _ _ _ _

theorem find?_insert (table : Table α) (key other : String) (value : α) :
    (table.insert key value).find? other =
      if other = key then some value else table.find? other :=
  find?_alter _ _ _ _

theorem keys_alterEntries (entries : List (String × α)) (key : String)
    (f : Option α → α) :
    (alterEntries key f entries).map Prod.fst =
      if key ∈ entries.map Prod.fst then entries.map Prod.fst
      else entries.map Prod.fst ++ [key] := by
  induction entries with
  | nil => simp [alterEntries]
  | cons entry rest ih =>
    obtain ⟨k, v⟩ := entry
    unfold alterEntries
    by_cases hk : key = k
    · simp [hk]
    · by_cases hm : key ∈ rest.map Prod.fst
      · rw [if_pos hm] at ih
        simp [hk, ih, hm]
      · rw [if_neg hm] at ih
        simp [hk, ih, hm]

theorem keys_alter (table : Table α) (key : String) (f : Option α → α) :
    (table.alter key f).keys =
      if key ∈ table.keys then table.keys else table.keys ++ [key] :=
  keys_alterEntries _ _ _

/-- No key is held twice, as long as none was. -/
theorem nodup_keys_alter {table : Table α} (h : table.keys.Nodup) (key : String)
    (f : Option α → α) : (table.alter key f).keys.Nodup := by
  rw [keys_alter]
  split
  · exact h
  · rename_i hk
    rw [List.nodup_append]
    refine ⟨h, by simp, ?_⟩
    intro a ha b hb e
    rw [List.mem_singleton] at hb
    exact hk (hb ▸ e ▸ ha)

end Table

end CloudLift

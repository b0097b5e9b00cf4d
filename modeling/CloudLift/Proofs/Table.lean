import CloudLift.Table
import Mathlib.Data.List.Induction

/-!
# Tables that are filled in order

A table that is filled from a list of pairs has, for every key, the value that was set
last.  Where the values are lists that grow at their end, the table has the keys in the
order in which they were first seen, each with everything that came under it.
-/

namespace CloudLift

variable {α : Type}

/-! ## Keys in first-seen order -/

theorem eraseDups_concat [DecidableEq α] (seen : List α) (a : α) :
    (seen ++ [a]).eraseDups =
      if a ∈ seen then seen.eraseDups else seen.eraseDups ++ [a] := by
  rw [List.eraseDups_append]
  by_cases hmem : a ∈ seen
  · simp [hmem, List.removeAll]
  · simp [hmem, List.removeAll, List.eraseDups_cons]

theorem nodup_eraseDups [DecidableEq α] (seen : List α) : seen.eraseDups.Nodup := by
  induction seen using List.reverseRecOn with
  | nil => simp
  | append_singleton seen a ih =>
    rw [eraseDups_concat]
    by_cases hmem : a ∈ seen
    · rw [if_pos hmem]
      exact ih
    · rw [if_neg hmem, List.nodup_append]
      refine ⟨ih, List.pairwise_singleton _ a, ?_⟩
      intro b hb c hc heq
      rw [List.mem_singleton] at hc
      rw [List.mem_eraseDups] at hb
      subst hc heq
      exact hmem hb

/-- What a search finds first is there in first-seen order too, with nothing new before it. -/
theorem find?_eraseDups [DecidableEq α] (p : α → Bool) (seen : List α) :
    seen.eraseDups.find? p = seen.find? p := by
  induction seen using List.reverseRecOn with
  | nil => rfl
  | append_singleton seen a ih =>
    rw [eraseDups_concat, List.find?_append]
    by_cases hmem : a ∈ seen
    · rw [if_pos hmem, ih]
      cases hfind : seen.find? p with
      | some found => rfl
      | none =>
        have ha : ¬ p a = true := List.find?_eq_none.mp hfind a hmem
        rw [List.find?_cons_of_neg ha]
        rfl
    · rw [if_neg hmem, List.find?_append, ih]

namespace Table

/-! ## The value that was set last -/

theorem find?_foldl_insert (pairs : List (String × α)) (table : Table α) (key : String) :
    (pairs.foldl (fun table pair => table.insert pair.1 pair.2) table).find? key =
      ((pairs.filter fun pair => pair.1 == key).getLast?.map Prod.snd).or
        (table.find? key) := by
  induction pairs generalizing table with
  | nil => simp
  | cons pair pairs ih =>
    rw [List.foldl_cons, ih, find?_insert]
    by_cases hkey : key = pair.1
    · subst hkey
      rw [List.filter_cons_of_pos (by simp), if_pos rfl]
      cases hlast : (pairs.filter fun other => other.1 == pair.1).getLast? with
      | none =>
        rw [List.getLast?_eq_none_iff] at hlast
        simp [hlast]
      | some last => simp [List.getLast?_cons, hlast]
    · rw [List.filter_cons_of_neg (by simpa using Ne.symm hkey), if_neg hkey]

theorem find?_ofList (pairs : List (String × α)) (key : String) :
    (ofList pairs).find? key =
      (pairs.filter fun pair => pair.1 == key).getLast?.map Prod.snd := by
  have hfold := find?_foldl_insert pairs empty key
  rw [find?_empty, Option.or_none] at hfold
  exact hfold

theorem ofList_concat (pairs : List (String × α)) (pair : String × α) :
    ofList (pairs ++ [pair]) = (ofList pairs).insert pair.1 pair.2 := by
  rw [ofList, List.foldl_append]
  rfl

theorem keys_ofList (pairs : List (String × α)) :
    (ofList pairs).keys = (pairs.map Prod.fst).eraseDups := by
  induction pairs using List.reverseRecOn with
  | nil => rfl
  | append_singleton pairs pair ih =>
    rw [ofList_concat, insert, keys_alter, ih, List.map_append, List.map_singleton,
      eraseDups_concat]
    simp only [List.mem_eraseDups]

/-- The value in the last of the pairs that have the key. -/
def last? (key : String) (pairs : List (String × α)) : Option α :=
  (pairs.filter fun pair => pair.1 == key).getLast?.map Prod.snd

theorem last?_append (key : String) (pairs more : List (String × α)) :
    last? key (pairs ++ more) = (last? key more).or (last? key pairs) := by
  unfold last?
  rw [List.filter_append, List.getLast?_append]
  cases (more.filter fun pair => pair.1 == key).getLast? with
  | none => rfl
  | some pair => rfl

/-! ## Entries and lookups -/

theorem find?_eq_some_iff_mem {table : Table α} (hnodup : table.keys.Nodup) {key : String}
    {value : α} : table.find? key = some value ↔ (key, value) ∈ table.entries := by
  obtain ⟨entries⟩ := table
  induction entries with
  | nil => simp [find?, findIn?]
  | cons entry entries ih =>
    obtain ⟨name, other⟩ := entry
    rcases List.nodup_cons.mp hnodup with ⟨hname, hrest⟩
    have hrest' : findIn? key entries = some value ↔ (key, value) ∈ entries := ih hrest
    rw [find?, findIn?, List.mem_cons, Prod.mk.injEq]
    by_cases hkey : key = name
    · subst hkey
      have hnotMem : (key, value) ∉ entries := by
        intro hmem
        exact hname (List.mem_map.mpr ⟨_, hmem, rfl⟩)
      simp [hnotMem, eq_comm]
    · simp [hkey, hrest']

theorem mem_entries_ofList_iff {pairs : List (String × α)} {key : String} {value : α} :
    (key, value) ∈ (ofList pairs).entries ↔ last? key pairs = some value := by
  have hnodup : (ofList pairs).keys.Nodup := by
    rw [keys_ofList]
    exact nodup_eraseDups _
  rw [← find?_eq_some_iff_mem hnodup, find?_ofList]
  rfl

/-- The first entry whose key passes a test, in terms of keys and lookups. -/
theorem find?_entries_eq_some_iff {table : Table α} (hnodup : table.keys.Nodup)
    {p : String → Bool} {key : String} {value : α} :
    (table.entries.find? fun entry => p entry.1) = some (key, value) ↔
      table.keys.find? p = some key ∧ table.find? key = some value := by
  have hkeys : table.keys.find? p =
      (table.entries.find? fun entry => p entry.1).map Prod.fst :=
    List.find?_map
  rw [hkeys]
  constructor
  · intro hfind
    refine ⟨?_, (find?_eq_some_iff_mem hnodup).mpr (List.mem_of_find?_eq_some hfind)⟩
    rw [hfind]
    rfl
  · rintro ⟨hkey, hvalue⟩
    obtain ⟨⟨name, other⟩, hfind, hname⟩ := Option.map_eq_some_iff.mp hkey
    obtain rfl : name = key := hname
    have hother : table.find? name = some other :=
      (find?_eq_some_iff_mem hnodup).mpr (List.mem_of_find?_eq_some hfind)
    rw [hfind, Option.some.inj (hother.symm.trans hvalue)]

theorem alterEntries_of_getElem? {entries : List (String × α)}
    (hnodup : (entries.map Prod.fst).Nodup) {slot : Nat} {key : String} {value : α}
    (hslot : entries[slot]? = some (key, value)) (f : Option α → α) :
    alterEntries key f entries =
      entries.modify slot fun entry => (entry.1, f (some entry.2)) := by
  induction entries generalizing slot with
  | nil => simp at hslot
  | cons entry entries ih =>
    obtain ⟨name, other⟩ := entry
    rcases List.nodup_cons.mp hnodup with ⟨hname, hrest⟩
    cases slot with
    | zero =>
      obtain ⟨rfl, rfl⟩ : name = key ∧ other = value := by
        simpa using hslot
      simp [alterEntries]
    | succ slot =>
      have hslot' : entries[slot]? = some (key, value) := by
        simpa using hslot
      have hne : ¬ key = name := by
        intro heq
        subst heq
        exact hname (List.mem_map.mpr ⟨_, List.mem_of_getElem? hslot', rfl⟩)
      rw [alterEntries, if_neg hne, ih hrest hslot', List.modify_succ_cons]

theorem alterEntries_of_notMem {entries : List (String × α)} {key : String}
    (hkey : key ∉ entries.map Prod.fst) (f : Option α → α) :
    alterEntries key f entries = entries ++ [(key, f none)] := by
  induction entries with
  | nil => rfl
  | cons entry entries ih =>
    obtain ⟨name, other⟩ := entry
    rw [List.map_cons, List.mem_cons, not_or] at hkey
    rw [alterEntries, if_neg hkey.1, ih hkey.2, List.cons_append]

/-! ## Lists that grow at their end -/

theorem alterEntries_map {names : List String} (hnodup : names.Nodup) (f : String → α)
    (key : String) (g : Option α → α) :
    alterEntries key g (names.map fun name => (name, f name)) =
      if key ∈ names then
        names.map fun name => (name, if key = name then g (some (f name)) else f name)
      else
        (names.map fun name => (name, f name)) ++ [(key, g none)] := by
  induction names with
  | nil => simp [alterEntries]
  | cons name names ih =>
    obtain ⟨hname, hnodup⟩ := List.nodup_cons.mp hnodup
    rw [List.map_cons, alterEntries]
    by_cases hkey : key = name
    · subst hkey
      have hothers : ∀ other ∈ names, ¬ key = other := by
        intro other hother heq
        exact hname (heq ▸ hother)
      simp only [if_true, List.mem_cons, true_or, List.map_cons]
      congr 1
      apply List.map_congr_left
      intro other hother
      rw [if_neg (hothers other hother)]
    · rw [if_neg hkey, ih hnodup]
      by_cases hmem : key ∈ names
      · simp [hkey, hmem]
      · simp [hkey, hmem]

def push (table : Table (List α)) (pair : String × α) : Table (List α) :=
  table.alter pair.1 fun values? => values?.getD [] ++ [pair.2]

/-- The keys of the pairs in first-seen order, each with its values. -/
def collect (pairs : List (String × α)) : Table (List α) :=
  ⟨(pairs.map Prod.fst).eraseDups.map fun key =>
    (key, (pairs.filter fun pair => pair.1 == key).map Prod.snd)⟩

theorem filter_eq_nil_of_notMem {pairs : List (String × α)} {key : String}
    (hkey : key ∉ pairs.map Prod.fst) : (pairs.filter fun pair => pair.1 == key) = [] := by
  rw [List.filter_eq_nil_iff]
  intro pair hpair heq
  exact hkey (eq_of_beq heq ▸ List.mem_map_of_mem hpair)

theorem collect_concat (pairs : List (String × α)) (pair : String × α) :
    collect (pairs ++ [pair]) = (collect pairs).push pair := by
  rw [push, alter, collect, collect, alterEntries_map (nodup_eraseDups _),
    List.map_append, List.map_singleton, eraseDups_concat]
  simp only [List.mem_eraseDups]
  by_cases hmem : pair.1 ∈ pairs.map Prod.fst
  · rw [if_pos hmem, if_pos hmem]
    congr 1
    apply List.map_congr_left
    intro key hkey
    by_cases heq : pair.1 = key
    · simp [heq]
    · simp [heq]
  · rw [if_neg hmem, if_neg hmem, List.map_append, List.map_singleton]
    congr 1
    congr 1
    · apply List.map_congr_left
      intro key hkey
      have hne : ¬ pair.1 = key := by
        intro heq
        exact hmem (heq ▸ List.mem_eraseDups.mp hkey)
      simp [hne]
    · simp [filter_eq_nil_of_notMem hmem]

theorem foldl_push (pairs : List (String × α)) : pairs.foldl push empty = collect pairs := by
  induction pairs using List.reverseRecOn with
  | nil => rfl
  | append_singleton pairs pair ih =>
    rw [List.foldl_append, ih, collect_concat]
    rfl

/-! ## The values of all keys together -/

/-- Every value of every key, with the key. -/
def positions (table : Table (List α)) : List (String × α) :=
  table.entries.flatMap fun entry => entry.2.map fun value => (entry.1, value)

theorem flatMap_filter_perm {keys : List String} (hnodup : keys.Nodup)
    (pairs : List (String × α)) :
    (keys.flatMap fun key => pairs.filter fun pair => pair.1 == key).Perm
      (pairs.filter fun pair => pair.1 ∈ keys) := by
  induction keys with
  | nil => simp
  | cons key keys ih =>
    obtain ⟨hkey, hnodup⟩ := List.nodup_cons.mp hnodup
    have hall := List.filter_append_perm (fun pair => pair.1 == key)
      (pairs.filter fun pair => pair.1 ∈ key :: keys)
    have hfirst : (pairs.filter fun pair => pair.1 ∈ key :: keys).filter
          (fun pair => pair.1 == key) =
        pairs.filter fun pair => pair.1 == key := by
      rw [List.filter_filter]
      apply List.filter_congr
      intro pair hpair
      by_cases heq : pair.1 = key <;> simp [heq]
    have hothers : (pairs.filter fun pair => pair.1 ∈ key :: keys).filter
          (fun pair => !(pair.1 == key)) =
        pairs.filter fun pair => pair.1 ∈ keys := by
      rw [List.filter_filter]
      apply List.filter_congr
      intro pair hpair
      by_cases heq : pair.1 = key
      · simp [heq, hkey]
      · simp [heq]
    rw [hfirst, hothers] at hall
    rw [List.flatMap_cons]
    exact ((ih hnodup).append_left _).trans hall

/-- The table holds what was pushed, only in another order. -/
theorem positions_collect_perm (pairs : List (String × α)) :
    (collect pairs).positions.Perm pairs := by
  have hpositions : (collect pairs).positions =
      (pairs.map Prod.fst).eraseDups.flatMap fun key =>
        pairs.filter fun pair => pair.1 == key := by
    unfold positions collect
    rw [List.flatMap_map]
    congr 1
    funext key
    rw [List.map_map]
    have hid : ∀ pair ∈ pairs.filter fun pair => pair.1 == key,
        ((fun value => (key, value)) ∘ Prod.snd) pair = id pair := by
      intro pair hpair
      have hkey := eq_of_beq (List.mem_filter.mp hpair).2
      rw [Function.comp_apply, ← hkey]
      rfl
    exact (List.map_congr_left hid).trans (List.map_id _)
  have hall : (pairs.filter fun pair => pair.1 ∈ (pairs.map Prod.fst).eraseDups) = pairs := by
    rw [List.filter_eq_self]
    intro pair hpair
    simpa [List.mem_eraseDups] using ⟨pair.2, hpair⟩
  have hperm := flatMap_filter_perm (nodup_eraseDups (pairs.map Prod.fst)) pairs
  rw [hall] at hperm
  rw [hpositions]
  exact hperm

/-! ## One table after another -/

/-- The keys of the first table with the values of both, and then the keys that only the
second one has. -/
def merge (table more : Table (List α)) : Table (List α) :=
  ⟨(table.entries.map fun entry => (entry.1, entry.2 ++ (more.find? entry.1).getD [])) ++
    more.entries.filter fun entry => !table.contains entry.1⟩

theorem findIn?_map {names : List String} (f : String → α) (key : String) :
    findIn? key (names.map fun name => (name, f name)) =
      if key ∈ names then some (f key) else none := by
  induction names with
  | nil => rfl
  | cons name names ih =>
    rw [List.map_cons, findIn?, ih]
    by_cases hkey : key = name
    · simp [hkey]
    · simp [hkey]

theorem find?_collect (pairs : List (String × α)) (key : String) :
    (collect pairs).find? key =
      if key ∈ pairs.map Prod.fst then
        some ((pairs.filter fun pair => pair.1 == key).map Prod.snd)
      else
        none := by
  rw [find?, collect, findIn?_map]
  simp only [List.mem_eraseDups]

theorem contains_collect (pairs : List (String × α)) (key : String) :
    (collect pairs).contains key = decide (key ∈ pairs.map Prod.fst) := by
  rw [contains, find?_collect]
  by_cases hkey : key ∈ pairs.map Prod.fst
  · rw [if_pos hkey, decide_eq_true hkey, Option.isSome_some]
  · rw [if_neg hkey, decide_eq_false hkey, Option.isSome_none]

theorem getD_find?_collect (pairs : List (String × α)) (key : String) :
    ((collect pairs).find? key).getD [] =
      (pairs.filter fun pair => pair.1 == key).map Prod.snd := by
  rw [find?_collect]
  by_cases hkey : key ∈ pairs.map Prod.fst
  · rw [if_pos hkey, Option.getD_some]
  · rw [if_neg hkey, filter_eq_nil_of_notMem hkey]
    rfl

theorem eraseDups_filter (p : String → Bool) (keys : List String) :
    (keys.filter p).eraseDups = keys.eraseDups.filter p := by
  induction keys using List.reverseRecOn with
  | nil => rfl
  | append_singleton keys key ih =>
    rw [List.filter_append, eraseDups_concat]
    by_cases hp : p key = true
    · have hsingle : [key].filter p = [key] := by
        simp [hp]
      rw [hsingle, eraseDups_concat, ih]
      by_cases hmem : key ∈ keys
      · simp [hmem, hp]
      · simp [hmem, hp]
    · have hsingle : [key].filter p = [] := by
        simp [hp]
      rw [hsingle, List.append_nil, ih]
      by_cases hmem : key ∈ keys
      · simp [hmem]
      · simp [hmem, hp]

/-- The keys of two lists one after the other are those of the first list and then those
that are new in the second one. -/
theorem eraseDups_append_eq_filter (keys more : List String) :
    (keys ++ more).eraseDups =
      keys.eraseDups ++ more.eraseDups.filter fun key => !decide (key ∈ keys) := by
  have hremove : more.removeAll keys = more.filter fun key => !decide (key ∈ keys) := by
    unfold List.removeAll
    apply List.filter_congr
    intro key hkey
    simp
  rw [List.eraseDups_append, hremove, eraseDups_filter]

theorem collect_append (pairs more : List (String × α)) :
    collect (pairs ++ more) = (collect pairs).merge (collect more) := by
  have hkeys : ((pairs ++ more).map Prod.fst).eraseDups =
      (pairs.map Prod.fst).eraseDups ++
        (more.map Prod.fst).eraseDups.filter fun key => !(collect pairs).contains key := by
    rw [List.map_append, eraseDups_append_eq_filter]
    simp only [contains_collect]
  have hentries (pairs : List (String × α)) : (collect pairs).entries =
      (pairs.map Prod.fst).eraseDups.map fun key =>
        (key, (pairs.filter fun pair => pair.1 == key).map Prod.snd) := rfl
  unfold merge
  rw [collect, hkeys, List.map_append, hentries pairs, hentries more, List.map_map,
    List.filter_map]
  congr 2
  · -- A key of the first list has the values of both.
    apply List.map_congr_left
    intro key hkey
    rw [Function.comp_apply, getD_find?_collect, List.filter_append, List.map_append]
  · -- A key that the first list lacks has those of the second one alone.
    apply List.map_congr_left
    intro key hkey
    have hnew : key ∉ pairs.map Prod.fst := by
      have hcontains := (List.mem_filter.mp hkey).2
      rw [contains_collect] at hcontains
      simpa using hcontains
    rw [List.filter_append, filter_eq_nil_of_notMem hnew, List.nil_append]

end Table

end CloudLift

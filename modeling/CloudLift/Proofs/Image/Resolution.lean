import CloudLift.Proofs.Generate.Group

/-!
# Resolving a tag

A catalog has each name once, where it first came, with the id that it was given last.  So
the first name in the catalog that suits a tag is the first one in the sequence that the
catalog was filled from.  More pairs after that sequence put no name before it: the tag
resolves through the same name, and all that can change is the id of that name.
-/

namespace CloudLift.Image.Catalog

variable {σ : Type} (op : Operator σ) (room : Room) (s : σ)

theorem outcome_resolve (catalog : Catalog) (tag : String) :
    ((catalog.resolve tag).run op room s).outcome =
      match catalog.image? tag with
      | some id => .ok id
      | none => .error (.unresolvedOsName tag (imageKey tag)) := by
  rw [resolve, image?]
  cases catalog.match? tag with
  | none => rfl
  | some entry => rfl

/-- The names do not depend on the ids, so the search can be made among the names alone. -/
theorem match?_ofList_eq_some_iff {pairs : List (String × String)} {tag name id : String} :
    match? (Table.ofList pairs) tag = some (name, id) ↔
      ((pairs.map Prod.fst).find? fun name => Text.holds (imageKey tag) name) = some name ∧
        Table.last? name pairs = some id := by
  have hnodup : (Table.ofList pairs).keys.Nodup := by
    rw [Table.keys_ofList]
    exact nodup_eraseDups _
  rw [match?, Table.find?_entries_eq_some_iff hnodup, Table.keys_ofList, find?_eraseDups,
    Table.find?_ofList]
  rfl

theorem match?_ofList_eq_none_iff {pairs : List (String × String)} {tag : String} :
    match? (Table.ofList pairs) tag = none ↔
      ∀ pair ∈ pairs, Text.holds (imageKey tag) pair.1 = false := by
  have hkeys : match? (Table.ofList pairs) tag = none ↔
      ∀ name ∈ (Table.ofList pairs).keys, Text.holds (imageKey tag) name = false := by
    rw [match?, List.find?_eq_none, Table.keys, List.forall_mem_map]
    simp only [Bool.not_eq_true]
  rw [hkeys, Table.keys_ofList]
  simp only [List.mem_eraseDups, List.forall_mem_map]

/-- Pairs that come later keep the name, and give it another id only if they have it. -/
theorem match?_ofList_append {pairs : List (String × String)} {tag name id : String}
    (hmatch : match? (Table.ofList pairs) tag = some (name, id))
    (more : List (String × String)) :
    match? (Table.ofList (pairs ++ more)) tag =
      some (name, (Table.last? name more).getD id) := by
  obtain ⟨hname, hid⟩ := match?_ofList_eq_some_iff.mp hmatch
  rw [match?_ofList_eq_some_iff, List.map_append, List.find?_append, hname,
    Table.last?_append, hid]
  refine ⟨rfl, ?_⟩
  cases Table.last? name more with
  | none => rfl
  | some later => rfl

/-- A catalog has the names of the pairs in the order of their first occurrence, each with
its last id.  A tag that resolves does so through the same name when pairs are appended,
and the id is another one only if they have that name again.  A tag does not resolve
exactly if no name holds its key. -/
theorem ofList_ordered_stable (pairs : List (String × String)) :
    (Table.ofList pairs).keys.Nodup ∧
      (Table.ofList pairs).keys = (pairs.map Prod.fst).eraseDups ∧
      (∀ name id, (name, id) ∈ (Table.ofList pairs).entries ↔
        Table.last? name pairs = some id) ∧
      (∀ tag id, ((resolve (Table.ofList pairs) tag).run op room s).outcome = .ok id →
        ∃ name, match? (Table.ofList pairs) tag = some (name, id) ∧
          ∀ more,
            match? (Table.ofList (pairs ++ more)) tag =
                some (name, (Table.last? name more).getD id) ∧
              ((resolve (Table.ofList (pairs ++ more)) tag).run op room s).outcome =
                .ok ((Table.last? name more).getD id)) ∧
      ∀ tag, (∃ fault, ((resolve (Table.ofList pairs) tag).run op room s).outcome =
          .error fault) ↔
        ∀ pair ∈ pairs, Text.holds (imageKey tag) pair.1 = false := by
  have hkeys := Table.keys_ofList pairs
  refine ⟨?nodup, hkeys, fun name id => Table.mem_entries_ofList_iff, ?stable, ?fails⟩
  case nodup =>
    rw [hkeys]
    exact nodup_eraseDups _
  case stable =>
    intro tag id hresolves
    rw [outcome_resolve, image?] at hresolves
    cases hmatch : match? (Table.ofList pairs) tag with
    | none =>
      rw [hmatch] at hresolves
      cases hresolves
    | some entry =>
      obtain ⟨name, found⟩ := entry
      rw [hmatch] at hresolves
      obtain rfl : found = id := Except.ok.inj hresolves
      refine ⟨name, rfl, fun more => ?_⟩
      have hlater := match?_ofList_append hmatch more
      rw [outcome_resolve, image?, hlater]
      exact ⟨rfl, rfl⟩
  case fails =>
    intro tag
    rw [← match?_ofList_eq_none_iff, outcome_resolve, image?]
    cases match? (Table.ofList pairs) tag with
    | none => simp
    | some entry => simp

end CloudLift.Image.Catalog

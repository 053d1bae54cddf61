import QueryWeave.Proofs.Entries
import QueryWeave.Proofs.Request.Names

namespace QueryWeave

namespace Request

/-- The names that a request asks for in the clause of a kind. -/
def asked (request : Request) : Kind → List String
  | .field => request.fieldList.filterMap FieldEntry.name?
  | .table => request.tableList
  | .filter => Entries.keys request.filters
  | .group => request.groupList.filterMap GroupEntry.name?
  | .order => request.sortList.filterMap SortEntry.sortName?

theorem mem_asked_field {request : Request} {name : String} :
    name ∈ request.asked .field ↔ .name name ∈ request.fieldList := by
  constructor
  · intro h
    obtain ⟨entry, hentry, hname⟩ := List.mem_filterMap.mp h
    cases entry with
    | name given =>
        cases hname
        exact hentry
    | _ => cases hname
  · exact fun h => List.mem_filterMap.mpr ⟨_, h, rfl⟩

theorem mem_asked_group {request : Request} {name : String} :
    name ∈ request.asked .group ↔ .name name ∈ request.groupList := by
  constructor
  · intro h
    obtain ⟨entry, hentry, hname⟩ := List.mem_filterMap.mp h
    cases entry with
    | name given =>
        cases hname
        exact hentry
    | grouping given => cases hname
  · exact fun h => List.mem_filterMap.mpr ⟨_, h, rfl⟩

theorem keys_eq_append (request : Request) :
    request.keys =
      (request.asked .field).map (fun name => (Key.mk .field name).render) ++
        (request.asked .table).map (fun name => (Key.mk .table name).render) ++
        (request.asked .filter).map (fun name => (Key.mk .filter name).render) ++
        (request.asked .group).map (fun name => (Key.mk .group name).render) ++
        (request.asked .order).map (fun name => (Key.mk .order name).render) := by
  have hfilters : (request.asked .filter).map (fun name => (Key.mk .filter name).render) =
      Entries.keys request.filters := by
    simp [asked]
  rw [hfilters]
  rfl

theorem mem_keys {request : Request} {key : String} :
    key ∈ request.keys ↔ ∃ kind, ∃ name ∈ request.asked kind, (Key.mk kind name).render = key := by
  rw [keys_eq_append]
  simp only [List.mem_append, List.mem_map]
  constructor
  · rintro ((((h | h) | h) | h) | h)
    · exact ⟨.field, h⟩
    · exact ⟨.table, h⟩
    · exact ⟨.filter, h⟩
    · exact ⟨.group, h⟩
    · exact ⟨.order, h⟩
  · rintro ⟨kind, h⟩
    cases kind with
    | field => exact Or.inl (Or.inl (Or.inl (Or.inl h)))
    | table => exact Or.inl (Or.inl (Or.inl (Or.inr h)))
    | filter => exact Or.inl (Or.inl (Or.inr h))
    | group => exact Or.inl (Or.inr h)
    | order => exact Or.inr h

end Request

theorem SortEntry.sortName?_of_name? (entry : SortEntry) (name : String)
    (h : entry.name? = some name) : entry.sortName? = some name := by
  cases entry with
  | name given => exact h
  | key given => cases h
  | term given => cases h

theorem Datum.mem_keys_deepMerge {left right : Entries Datum} {key : String} :
    key ∈ Entries.keys (Datum.deepMerge left right) ↔
      key ∈ Entries.keys left ∨ key ∈ Entries.keys right := by
  induction right generalizing left with
  | nil => simp
  | cons member rest ih =>
      obtain ⟨held, value⟩ := member
      rw [Datum.deepMerge_cons, ih, Entries.mem_keys_put, Entries.keys_cons, List.mem_cons,
        or_assoc]

theorem mem_filterMap_patchList {α : Type} (name? asked? : α → Option String)
    (hasked : ∀ item name, name? item = some name → asked? item = some name)
    (own patch : Option (List α)) (name : String) :
    name ∈ ((patchList name? own patch).getD []).filterMap asked? ↔
      name ∈ (own.getD []).filterMap asked? ∨ name ∈ (patch.getD []).filterMap asked? := by
  cases patch with
  | none => simp [patchList]
  | some additions =>
      cases additions with
      | nil => simp [patchList]
      | cons item rest => exact mem_filterMap_addEntries name? asked? hasked _ _ name

namespace Request

theorem mem_filterMap_patchSorting {own patch : Clause SortEntry} {name : String} :
    name ∈ (patchSorting own patch).toList.filterMap SortEntry.sortName? ↔
      name ∈ own.toList.filterMap SortEntry.sortName? ∨
        name ∈ patch.toList.filterMap SortEntry.sortName? := by
  cases patch with
  | absent => simp [patchSorting]
  | one item => exact mem_filterMap_addEntries _ _ SortEntry.sortName?_of_name? _ _ name
  | many items => exact mem_filterMap_addEntries _ _ SortEntry.sortName?_of_name? _ _ name

theorem mem_asked_update {request patch : Request} {kind : Kind} {name : String} :
    name ∈ (request.update patch).asked kind ↔
      name ∈ request.asked kind ∨ name ∈ patch.asked kind := by
  cases kind with
  | field => exact mem_filterMap_patchList _ _ (fun _ _ h => h) request.fields patch.fields name
  | table =>
      have h := mem_filterMap_patchList some some (fun _ _ h => h) request.tables patch.tables name
      rw [List.filterMap_some, List.filterMap_some, List.filterMap_some] at h
      exact h
  | filter => exact Datum.mem_keys_deepMerge
  | group =>
      exact mem_filterMap_patchList _ _ (fun _ _ h => h) request.grouping patch.grouping name
  | order => exact mem_filterMap_patchSorting

theorem mem_keys_update {request patch : Request} {key : String} :
    key ∈ (request.update patch).keys ↔ key ∈ request.keys ∨ key ∈ patch.keys := by
  simp only [mem_keys, mem_asked_update]
  constructor
  · rintro ⟨kind, name, h | h, hrender⟩
    · exact Or.inl ⟨kind, name, h, hrender⟩
    · exact Or.inr ⟨kind, name, h, hrender⟩
  · rintro (⟨kind, name, h, hrender⟩ | ⟨kind, name, h, hrender⟩)
    · exact ⟨kind, name, Or.inl h, hrender⟩
    · exact ⟨kind, name, Or.inr h, hrender⟩

end Request

end QueryWeave

import QueryWeave.Proofs.Request.Keys

namespace QueryWeave

namespace Closure

theorem mem_namesOf {kind : Kind} {keys : List String} {name : String} :
    name ∈ namesOf kind keys ↔ ∃ key ∈ keys, Key.parse key = ⟨kind, name⟩ := by
  rw [namesOf, List.mem_map]
  constructor
  · rintro ⟨⟨other, held⟩, hmem, rfl⟩
    rw [List.mem_filter, List.mem_map] at hmem
    obtain ⟨⟨key, hkey, hparse⟩, hkind⟩ := hmem
    obtain rfl := eq_of_beq hkind
    exact ⟨key, hkey, hparse⟩
  · rintro ⟨key, hkey, hparse⟩
    refine ⟨⟨kind, name⟩, ?_, rfl⟩
    rw [List.mem_filter, List.mem_map]
    exact ⟨⟨key, hkey, hparse⟩, beq_self_eq_true kind⟩

theorem mem_of_mem_namesOf_filter {keys : List String} {name : String}
    (h : name ∈ namesOf .filter keys) : name ∈ keys := by
  obtain ⟨key, hkey, hparse⟩ := mem_namesOf.mp h
  have hrender := Key.render_parse key
  rw [hparse, Key.render_filter] at hrender
  rw [hrender]
  exact hkey

theorem mem_keys_addFilter {registry : Registry} {filters : Entries Datum} {name other : String}
    (hregistered : name ∈ Entries.keys registry) :
    other ∈ Entries.keys (addFilter registry filters name) ↔
      other ∈ Entries.keys filters ∨ other = name := by
  rw [addFilter]
  split
  next hhas =>
    constructor
    · exact Or.inl
    · rintro (h | rfl)
      · exact h
      · exact Entries.has_iff.mp hhas
  next =>
    obtain ⟨fragment, hfound⟩ := Entries.exists_get?_of_mem_keys hregistered
    rw [hfound]
    exact Entries.mem_keys_put

theorem mem_keys_foldl_addFilter {registry : Registry} {names : List String} {name : String}
    (hregistered : ∀ name ∈ names, name ∈ Entries.keys registry) (filters : Entries Datum) :
    name ∈ Entries.keys (names.foldl (addFilter registry) filters) ↔
      name ∈ Entries.keys filters ∨ name ∈ names := by
  induction names generalizing filters with
  | nil => simp
  | cons first rest ih =>
      rw [List.foldl_cons, ih fun other hother => hregistered other (List.mem_cons_of_mem _ hother),
        mem_keys_addFilter (hregistered first List.mem_cons_self), List.mem_cons, or_assoc]

theorem filterMap_map_name {α : Type} (name? : α → Option String) {ofName : String → α}
    (hofName : ∀ name, name? (ofName name) = some name) (names : List String) :
    (names.map ofName).filterMap name? = names := by
  rw [List.filterMap_map, show name? ∘ ofName = some from funext hofName]
  exact List.filterMap_some

theorem mem_filterMap_addSorting {entries : List SortEntry} {names : List String}
    {name : String} :
    name ∈ (addSorting entries names).filterMap SortEntry.sortName? ↔
      name ∈ entries.filterMap SortEntry.sortName? ∨ name ∈ names := by
  rw [addSorting, List.filterMap_append,
    filterMap_map_name SortEntry.sortName? fun _ => rfl, List.mem_append, List.mem_filter,
    mem_addEntries_some]
  constructor
  · rintro (h | ⟨h | h, _⟩)
    · exact Or.inl h
    · simp at h
    · exact Or.inr h
  · rintro (h | h)
    · exact Or.inl h
    · by_cases hpresent : name ∈ entries.filterMap SortEntry.sortName?
      · exact Or.inl hpresent
      · exact Or.inr ⟨Or.inr h, by simpa using hpresent⟩

theorem mem_filterMap_frontOf {α : Type} (name? : α → Option String) (ofName : String → α)
    (hofName : ∀ name, name? (ofName name) = some name) (names : List String) (entries : List α)
    (name : String) :
    name ∈ (frontOf name? ofName names entries).filterMap name? ↔
      name ∈ names ∨ name ∈ entries.filterMap name? := by
  rw [frontOf, mem_filterMap_addEntries name? name? fun _ _ h => h,
    filterMap_map_name name? hofName, mem_addEntries_some]
  simp

theorem mem_asked_writeBack {registry : Registry} {keys : List String} {request : Request}
    (hregistered : ∀ name ∈ namesOf .filter keys, name ∈ Entries.keys registry)
    {kind : Kind} {name : String} :
    name ∈ (writeBack registry keys request).asked kind ↔
      name ∈ request.asked kind ∨ name ∈ namesOf kind keys := by
  cases kind with
  | field =>
      exact (mem_filterMap_frontOf FieldEntry.name? .name (fun _ => rfl) _ _ name).trans or_comm
  | table =>
      have h := mem_filterMap_frontOf some id (fun _ => rfl) (namesOf .table keys)
        request.tableList name
      rw [List.filterMap_some, List.filterMap_some] at h
      exact h.trans or_comm
  | filter => exact mem_keys_foldl_addFilter hregistered request.filters
  | group =>
      have h := mem_filterMap_addEntries GroupEntry.name? GroupEntry.name? (fun _ _ h => h)
        request.groupList ((namesOf .group keys).map .name) name
      rw [filterMap_map_name GroupEntry.name? fun _ => rfl] at h
      exact h
  | order => exact mem_filterMap_addSorting

theorem mem_keys_writeBack {registry : Registry} {keys : List String} {request : Request}
    (hregistered : ∀ name ∈ namesOf .filter keys, name ∈ Entries.keys registry) {key : String} :
    key ∈ (writeBack registry keys request).keys ↔ key ∈ request.keys ∨ key ∈ keys := by
  simp only [Request.mem_keys, mem_asked_writeBack hregistered]
  constructor
  · rintro ⟨kind, name, h | h, rfl⟩
    · exact Or.inl ⟨kind, name, h, rfl⟩
    · obtain ⟨key, hkey, hparse⟩ := mem_namesOf.mp h
      rw [← hparse, Key.render_parse]
      exact Or.inr hkey
  · rintro (⟨kind, name, h, hrender⟩ | h)
    · exact ⟨kind, name, Or.inl h, hrender⟩
    · exact ⟨(Key.parse key).kind, (Key.parse key).name, Or.inr (mem_namesOf.mpr ⟨key, h, rfl⟩),
        Key.render_parse key⟩

end Closure

end QueryWeave

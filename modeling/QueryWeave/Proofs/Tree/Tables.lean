import Mathlib.Data.List.Nodup
import Mathlib.Data.List.ReduceOption
import QueryWeave.Tree.Merge

/-!
Merging lists of tables.  Main statement: `Table.mergeAll_mergeAll`, of three lists the last two can
be merged first, provided that no two tables of the middle one have the same key.
-/

namespace QueryWeave

namespace Table

variable {key other : String} {joins more : List Join} {table : Table} {tables rest : List Table}

theorem any_key?_iff :
    (tables.any (·.key? == some key)) = true ↔ some key ∈ tables.map key? := by
  simp only [List.any_eq_true, beq_iff_eq, List.mem_map]

@[simp] theorem key?_addJoins : (table.addJoins joins).key? = table.key? := rfl

@[simp] theorem joinList_addJoins : (table.addJoins joins).joinList = table.joinList ++ joins := rfl

theorem addJoins_addJoins :
    (table.addJoins joins).addJoins more = table.addJoins (joins ++ more) :=
  congrArg (fun all => { table with joins := .many all }) (List.append_assoc _ _ _)

theorem addJoinsAt_cons_self (hkey : table.key? = some key) :
    addJoinsAt key joins (table :: rest) = table.addJoins joins :: rest :=
  if_pos hkey

theorem addJoinsAt_cons_of_ne (hkey : table.key? ≠ some key) :
    addJoinsAt key joins (table :: rest) = table :: addJoinsAt key joins rest :=
  if_neg hkey

@[simp] theorem map_key?_addJoinsAt (tables : List Table) :
    (addJoinsAt key joins tables).map key? = tables.map key? := by
  induction tables with
  | nil => rfl
  | cons table rest ih =>
      by_cases hkey : table.key? = some key
      · rw [addJoinsAt_cons_self hkey, List.map_cons, key?_addJoins, List.map_cons]
      · rw [addJoinsAt_cons_of_ne hkey, List.map_cons, ih, List.map_cons]

theorem addJoinsAt_addJoinsAt (tables : List Table) :
    addJoinsAt key more (addJoinsAt key joins tables) = addJoinsAt key (joins ++ more) tables := by
  induction tables with
  | nil => rfl
  | cons table rest ih =>
      by_cases hkey : table.key? = some key
      · rw [addJoinsAt_cons_self hkey, addJoinsAt_cons_self (key?_addJoins.trans hkey),
          addJoinsAt_cons_self hkey, addJoins_addJoins]
      · rw [addJoinsAt_cons_of_ne hkey, addJoinsAt_cons_of_ne hkey, addJoinsAt_cons_of_ne hkey, ih]

theorem addJoinsAt_comm (hne : key ≠ other) (tables : List Table) :
    addJoinsAt key joins (addJoinsAt other more tables) =
      addJoinsAt other more (addJoinsAt key joins tables) := by
  induction tables with
  | nil => rfl
  | cons table rest ih =>
      by_cases hkey : table.key? = some key
      · have hother : table.key? ≠ some other := by
          rw [hkey]
          exact fun h => hne (Option.some.inj h)
        rw [addJoinsAt_cons_of_ne hother, addJoinsAt_cons_self hkey, addJoinsAt_cons_self hkey]
        have hadded : (table.addJoins joins).key? ≠ some other := hother
        exact (addJoinsAt_cons_of_ne hadded).symm
      · rw [addJoinsAt_cons_of_ne hkey]
        by_cases hother : table.key? = some other
        · rw [addJoinsAt_cons_self hother, addJoinsAt_cons_self hother]
          exact addJoinsAt_cons_of_ne hkey
        · rw [addJoinsAt_cons_of_ne hother, addJoinsAt_cons_of_ne hkey, ih,
            addJoinsAt_cons_of_ne hother]

theorem addJoinsAt_append_of_ne (hkey : table.key? ≠ some key) (tables : List Table) :
    addJoinsAt key joins (tables ++ [table]) = addJoinsAt key joins tables ++ [table] := by
  induction tables with
  | nil => exact addJoinsAt_cons_of_ne hkey
  | cons first rest ih =>
      rw [List.cons_append]
      by_cases hfirst : first.key? = some key
      · rw [addJoinsAt_cons_self hfirst, addJoinsAt_cons_self hfirst, List.cons_append]
      · rw [addJoinsAt_cons_of_ne hfirst, ih, addJoinsAt_cons_of_ne hfirst, List.cons_append]

theorem addJoinsAt_append_of_fresh (hkey : table.key? = some key)
    (hfresh : some key ∉ tables.map key?) :
    addJoinsAt key joins (tables ++ [table]) = tables ++ [table.addJoins joins] := by
  induction tables with
  | nil => exact addJoinsAt_cons_self hkey
  | cons first rest ih =>
      rw [List.map_cons, List.mem_cons, not_or] at hfresh
      rw [List.cons_append, addJoinsAt_cons_of_ne (Ne.symm hfresh.1), ih hfresh.2,
        List.cons_append]

/-- What merging one table can do: append it, if its key is new or it has none, or else add its
joins, if it has any, to the first table of its key. -/
theorem mergeOne_cases (tables : List Table) (table : Table) :
    ((∀ key, table.key? = some key → some key ∉ tables.map key?) ∧
        mergeOne tables table = tables ++ [table]) ∨
      ∃ key, table.key? = some key ∧ some key ∈ tables.map key? ∧
        (table.joinList = [] ∧ mergeOne tables table = tables ∨
          table.joinList ≠ [] ∧
            mergeOne tables table = addJoinsAt key table.joinList tables) := by
  unfold mergeOne
  cases hkey : table.key? with
  | none => exact .inl ⟨nofun, rfl⟩
  | some key =>
      by_cases hmem : some key ∈ tables.map key?
      · refine .inr ⟨key, rfl, hmem, ?_⟩
        rw [← any_key?_iff] at hmem
        cases table.joinList with
        | nil => exact .inl ⟨rfl, if_pos hmem⟩
        | cons join joins => exact .inr ⟨List.cons_ne_nil _ _, if_pos hmem⟩
      · refine .inl ⟨?_, ?_⟩
        · rintro other heq
          obtain rfl := Option.some.inj heq
          exact hmem
        · rw [← any_key?_iff] at hmem
          exact if_neg hmem

theorem mergeOne_of_fresh (h : ∀ key, table.key? = some key → some key ∉ tables.map key?) :
    mergeOne tables table = tables ++ [table] := by
  rcases mergeOne_cases tables table with ⟨-, heq⟩ | ⟨key, hkey, hmem, -⟩
  · exact heq
  · exact absurd hmem (h key hkey)

section Known

variable (hkey : table.key? = some key) (hmem : some key ∈ tables.map key?)

include hkey hmem

theorem mergeOne_of_nil (hjoins : table.joinList = []) : mergeOne tables table = tables := by
  rcases mergeOne_cases tables table with ⟨hfresh, -⟩ | ⟨other, -, -, ⟨-, heq⟩ | ⟨hsome, -⟩⟩
  · exact absurd hmem (hfresh key hkey)
  · exact heq
  · exact absurd hjoins hsome

theorem mergeOne_of_ne_nil (hjoins : table.joinList ≠ []) :
    mergeOne tables table = addJoinsAt key table.joinList tables := by
  rcases mergeOne_cases tables table with ⟨hfresh, -⟩ | ⟨other, hother, -, ⟨hnil, -⟩ | ⟨-, heq⟩⟩
  · exact absurd hmem (hfresh key hkey)
  · exact absurd hnil hjoins
  · obtain rfl := Option.some.inj (hkey.symm.trans hother)
    exact heq

end Known

/-- Adding joins to a table before it is merged, or to the table it ends in. -/
theorem mergeOne_addJoins (hkey : table.key? = some key) (hjoins : joins ≠ [])
    (tables : List Table) :
    mergeOne tables (table.addJoins joins) = addJoinsAt key joins (mergeOne tables table) := by
  have hadded : (table.addJoins joins).key? = some key := hkey
  have hsome : (table.addJoins joins).joinList ≠ [] := List.append_ne_nil_of_right_ne_nil _ hjoins
  by_cases hmem : some key ∈ tables.map key?
  · rw [mergeOne_of_ne_nil hadded hmem hsome, joinList_addJoins]
    by_cases hnil : table.joinList = []
    · rw [mergeOne_of_nil hkey hmem hnil, hnil, List.nil_append]
    · rw [mergeOne_of_ne_nil hkey hmem hnil, addJoinsAt_addJoinsAt]
  · have hfresh : ∀ other, table.key? = some other → some other ∉ tables.map key? := by
      intro other hother
      rw [← hother, hkey]
      exact hmem
    rw [mergeOne_of_fresh hfresh, addJoinsAt_append_of_fresh hkey hmem]
    exact mergeOne_of_fresh hfresh

theorem mergeOne_addJoinsAt (hkey : table.key? ≠ some key) (tables : List Table) :
    mergeOne (addJoinsAt key joins tables) table =
      addJoinsAt key joins (mergeOne tables table) := by
  rcases mergeOne_cases tables table with
    ⟨hfresh, heq⟩ | ⟨other, hother, hmem, ⟨hnil, heq⟩ | ⟨hsome, heq⟩⟩
  · rw [heq, addJoinsAt_append_of_ne hkey]
    apply mergeOne_of_fresh
    rw [map_key?_addJoinsAt]
    exact hfresh
  · rw [heq]
    apply mergeOne_of_nil hother _ hnil
    rw [map_key?_addJoinsAt]
    exact hmem
  · have hne : key ≠ other := by
      rintro rfl
      exact hkey hother
    rw [heq, addJoinsAt_comm hne]
    apply mergeOne_of_ne_nil hother _ hsome
    rw [map_key?_addJoinsAt]
    exact hmem

theorem mergeAll_addJoinsAt_of_fresh (hfresh : some key ∉ additions.map key?)
    (tables : List Table) :
    mergeAll (addJoinsAt key joins tables) additions =
      addJoinsAt key joins (mergeAll tables additions) := by
  induction additions generalizing tables with
  | nil => rfl
  | cons table rest ih =>
      rw [List.map_cons, List.mem_cons, not_or] at hfresh
      rw [mergeAll_cons, mergeOne_addJoinsAt (Ne.symm hfresh.1), ih hfresh.2, mergeAll_cons]

theorem mergeAll_addJoinsAt (hdistinct : (additions.filterMap key?).Nodup)
    (hmem : some key ∈ additions.map key?) (hjoins : joins ≠ []) (tables : List Table) :
    mergeAll tables (addJoinsAt key joins additions) =
      addJoinsAt key joins (mergeAll tables additions) := by
  induction additions generalizing tables with
  | nil => cases hmem
  | cons table rest ih =>
      by_cases hkey : table.key? = some key
      · have hfresh : some key ∉ rest.map key? := by
          intro hin
          obtain ⟨later, hlater, hsame⟩ := List.mem_map.mp hin
          rw [List.filterMap_cons_some hkey, List.nodup_cons] at hdistinct
          exact hdistinct.1 (List.mem_filterMap.mpr ⟨later, hlater, hsame⟩)
        rw [addJoinsAt_cons_self hkey, mergeAll_cons, mergeOne_addJoins hkey hjoins,
          mergeAll_addJoinsAt_of_fresh hfresh, mergeAll_cons]
      · rw [List.map_cons, List.mem_cons] at hmem
        have hrest : (rest.filterMap key?).Nodup :=
          hdistinct.sublist ((List.sublist_cons_self table rest).filterMap key?)
        rw [addJoinsAt_cons_of_ne hkey, mergeAll_cons, mergeAll_cons,
          ih hrest (hmem.resolve_left (Ne.symm hkey))]

theorem mem_map_key?_mergeOne (h : some key ∈ tables.map key?) (table : Table) :
    some key ∈ (mergeOne tables table).map key? := by
  rcases mergeOne_cases tables table with ⟨-, heq⟩ | ⟨other, -, -, ⟨-, heq⟩ | ⟨-, heq⟩⟩
  · rw [heq, List.map_append]
    exact List.mem_append_left _ h
  · rw [heq]
    exact h
  · rw [heq, map_key?_addJoinsAt]
    exact h

theorem mem_map_key?_mergeAll_left (h : some key ∈ tables.map key?) (additions : List Table) :
    some key ∈ (mergeAll tables additions).map key? := by
  induction additions generalizing tables with
  | nil => exact h
  | cons table rest ih => exact ih (mem_map_key?_mergeOne h table)

theorem mem_map_key?_mergeOne_self (hkey : table.key? = some key) (tables : List Table) :
    some key ∈ (mergeOne tables table).map key? := by
  by_cases hmem : some key ∈ tables.map key?
  · exact mem_map_key?_mergeOne hmem table
  · rw [mergeOne_of_fresh, List.map_append, ← hkey]
    · exact List.mem_append_right _ List.mem_cons_self
    · intro other hother
      rw [← hother, hkey]
      exact hmem

theorem mem_map_key?_mergeAll_right (h : some key ∈ additions.map key?) (tables : List Table) :
    some key ∈ (mergeAll tables additions).map key? := by
  induction additions generalizing tables with
  | nil => cases h
  | cons table rest ih =>
      rcases List.mem_cons.mp h with hkey | hrest
      · exact mem_map_key?_mergeAll_left (mem_map_key?_mergeOne_self hkey.symm tables) rest
      · exact ih hrest _

/-- Merging a table into what is to be merged, or into the result. -/
theorem mergeAll_mergeOne (hdistinct : (additions.filterMap key?).Nodup) (tables : List Table)
    (table : Table) :
    mergeAll tables (mergeOne additions table) = mergeOne (mergeAll tables additions) table := by
  rcases mergeOne_cases additions table with
    ⟨-, heq⟩ | ⟨key, hkey, hmem, ⟨hnil, heq⟩ | ⟨hsome, heq⟩⟩
  · rw [heq]
    exact List.foldl_append
  · rw [heq, mergeOne_of_nil hkey (mem_map_key?_mergeAll_right hmem tables) hnil]
  · rw [heq, mergeAll_addJoinsAt hdistinct hmem hsome,
      mergeOne_of_ne_nil hkey (mem_map_key?_mergeAll_right hmem tables) hsome]

theorem nodup_mergeOne (h : (tables.filterMap key?).Nodup) (table : Table) :
    ((mergeOne tables table).filterMap key?).Nodup := by
  have hkeys (tables : List Table) : tables.filterMap key? = (tables.map key?).reduceOption := by
    rw [List.reduceOption, List.filterMap_map]
    rfl
  rcases mergeOne_cases tables table with ⟨hfresh, heq⟩ | ⟨key, -, -, ⟨-, heq⟩ | ⟨-, heq⟩⟩
  · rw [heq, List.filterMap_append]
    cases hkey : table.key? with
    | none =>
        rw [List.filterMap_cons_none hkey, List.filterMap_nil, List.append_nil]
        exact h
    | some key =>
        rw [List.filterMap_cons_some hkey, List.filterMap_nil]
        refine List.nodup_append_comm.mp (List.nodup_cons.mpr ⟨?_, h⟩)
        intro hin
        obtain ⟨earlier, hearlier, hsame⟩ := List.mem_filterMap.mp hin
        exact hfresh key hkey (List.mem_map.mpr ⟨earlier, hearlier, hsame⟩)
  · rw [heq]
    exact h
  · rw [heq, hkeys, map_key?_addJoinsAt, ← hkeys]
    exact h

theorem mergeAll_mergeAll {middle : List Table} (hdistinct : (middle.filterMap key?).Nodup)
    (tables last : List Table) :
    mergeAll (mergeAll tables middle) last = mergeAll tables (mergeAll middle last) := by
  induction last generalizing middle with
  | nil => rfl
  | cons table rest ih =>
      rw [mergeAll_cons, ← mergeAll_mergeOne hdistinct, ih (nodup_mergeOne hdistinct table),
        mergeAll_cons]

end Table

namespace Query

variable (base addition : Query)

theorem tables_merge_of_absent (h : addition.tables = .absent) :
    (base.merge addition).tables = base.tables := by
  change mergeTables base addition = _
  rw [mergeTables, h]

theorem tables_merge_of_ne_absent (h : addition.tables ≠ .absent) :
    (base.merge addition).tables = .many (Table.mergeAll base.tableList addition.tableList) := by
  change mergeTables base addition = _
  rw [mergeTables]
  split
  next habsent => exact absurd habsent h
  next => rfl

theorem tableList_merge :
    (base.merge addition).tableList = Table.mergeAll base.tableList addition.tableList := by
  by_cases h : addition.tables = .absent
  · have hnil : addition.tableList = [] := by rw [tableList, h, NamedClause.toList_absent]
    rw [tableList, tables_merge_of_absent base addition h, hnil, Table.mergeAll_nil, tableList]
  · rw [tableList, tables_merge_of_ne_absent base addition h, NamedClause.toList_many]

end Query

end QueryWeave

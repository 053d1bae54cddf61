import Mathlib.Data.List.Induction
import QueryWeave.Proofs.Tree.Tables

/-!
What merging makes of a list of tables: which tables it holds, in which order, and where the joins
go.  Main statement: `Table.mergeAll_gathers`.
-/

namespace QueryWeave

namespace Table

/-- A table without its joins: what it is of, and its alias. -/
def face (table : Table) : Source × Option String := (table.source, table.label)

/-- No table of a list has the key of this one, if it has one. -/
def isNew (tables : List Table) (table : Table) : Bool :=
  table.key?.all fun key => !tables.any (·.key? == some key)

/-- Those of the additions that are new to all tables and additions before them. -/
def newcomers (tables additions : List Table) : List Table :=
  (additions.zipIdx.filter fun pair => isNew (tables ++ additions.take pair.2) pair.1).map Prod.fst

/-- The table at a place is the first one of a key. -/
def FirstOf (key : String) (tables : List Table) (place : Nat) : Prop :=
  (tables.map key?)[place]? = some (some key) ∧ some key ∉ (tables.map key?).take place

/-- The joins of the first table of a key. -/
def joinsAt (key : String) (tables : List Table) : List Join :=
  ((tables.find? (·.key? == some key)).map joinList).getD []

/-- The joins of all tables of a key. -/
def joinsOf (key : String) (tables : List Table) : List Join :=
  (tables.filter (·.key? == some key)).flatMap joinList

/-- The result of merging additions into tables: the tables in their places and the new additions
after them, where only the first table of a key takes joins in, and takes in those of all additions
of its key. -/
structure Gathers (tables additions result : List Table) : Prop where
  faces : result.map face = (tables ++ newcomers tables additions).map face
  joins : ∀ key, joinsAt key result = joinsAt key tables ++ joinsOf key additions
  others : ∀ place, (∀ key, ¬ FirstOf key (tables ++ newcomers tables additions) place) →
    result[place]? = (tables ++ newcomers tables additions)[place]?
  distinct : (tables.filterMap key?).Nodup → (result.filterMap key?).Nodup

variable {key other : String} {joins : List Join} {table : Table} {tables additions : List Table}

theorem isNew_iff :
    isNew tables table = true ↔ ∀ key, table.key? = some key → some key ∉ tables.map key? := by
  rw [isNew, Option.all_eq_true]
  simp only [Bool.not_eq_true', ← any_key?_iff, Bool.not_eq_true]

/-! The tables and their order. -/

theorem map_key?_of_map_face {first second : List Table} (h : first.map face = second.map face) :
    first.map key? = second.map key? := by
  have hmap (tables : List Table) : tables.map key? =
      (tables.map face).map fun face => (Table.mk face.1 face.2 (.many [])).key? := by
    rw [List.map_map]
    rfl
  rw [hmap, h, ← hmap]

theorem map_face_addJoinsAt (tables : List Table) :
    (addJoinsAt key joins tables).map face = tables.map face := by
  induction tables with
  | nil => rfl
  | cons table rest ih =>
      by_cases hkey : table.key? = some key
      · rw [addJoinsAt_cons_self hkey]
        rfl
      · rw [addJoinsAt_cons_of_ne hkey, List.map_cons, ih, List.map_cons]

theorem mergeAll_append_singleton (tables additions : List Table) (table : Table) :
    mergeAll tables (additions ++ [table]) = mergeOne (mergeAll tables additions) table :=
  List.foldl_append

theorem map_face_mergeOne (tables : List Table) (table : Table) :
    (mergeOne tables table).map face =
      (tables ++ if isNew tables table then [table] else []).map face := by
  rcases mergeOne_cases tables table with ⟨hnew, heq⟩ | ⟨key, hkey, hmem, hcases⟩
  · rw [heq, if_pos (isNew_iff.mpr hnew)]
  · have hold : ¬ isNew tables table = true := fun hnew => isNew_iff.mp hnew key hkey hmem
    rw [if_neg hold, List.append_nil]
    rcases hcases with ⟨-, heq⟩ | ⟨-, heq⟩
    · rw [heq]
    · rw [heq, map_face_addJoinsAt]

theorem mem_map_key?_mergeAll_iff :
    some key ∈ (mergeAll tables additions).map key? ↔
      some key ∈ (tables ++ additions).map key? := by
  rw [List.map_append, List.mem_append]
  constructor
  · intro h
    induction additions using List.reverseRecOn with
    | nil => exact .inl h
    | append_singleton before table ih =>
        rw [mergeAll_append_singleton, map_key?_of_map_face (map_face_mergeOne _ table),
          List.map_append, List.mem_append] at h
        rw [List.map_append, List.mem_append, ← or_assoc]
        rcases h with hold | hnew
        · exact .inl (ih hold)
        · split at hnew
          · exact .inr hnew
          · cases hnew
  · rintro (h | h)
    · exact mem_map_key?_mergeAll_left h additions
    · exact mem_map_key?_mergeAll_right h tables

theorem isNew_mergeAll (tables additions : List Table) (table : Table) :
    isNew (mergeAll tables additions) table = isNew (tables ++ additions) table := by
  rw [Bool.eq_iff_iff, isNew_iff, isNew_iff]
  simp only [mem_map_key?_mergeAll_iff]

theorem newcomers_append_singleton (tables additions : List Table) (table : Table) :
    newcomers tables (additions ++ [table]) =
      newcomers tables additions ++ if isNew (tables ++ additions) table then [table] else [] := by
  have hbefore : ∀ pair ∈ additions.zipIdx, isNew (tables ++ (additions ++ [table]).take pair.2) pair.1 =
      isNew (tables ++ additions.take pair.2) pair.1 := by
    intro pair hpair
    rw [List.take_append_of_le_length (Nat.le_of_lt (List.snd_lt_of_mem_zipIdx hpair))]
  rw [newcomers, List.zipIdx_append, List.filter_append, List.filter_congr hbefore,
    List.map_append, ← newcomers, Nat.zero_add, List.zipIdx_singleton, List.filter_singleton]
  dsimp only
  rw [List.take_left' rfl]
  cases isNew (tables ++ additions) table with
  | true => rfl
  | false => rfl

theorem map_face_mergeAll (tables additions : List Table) :
    (mergeAll tables additions).map face = (tables ++ newcomers tables additions).map face := by
  induction additions using List.reverseRecOn with
  | nil => rw [mergeAll_nil, newcomers, List.zipIdx_nil, List.filter_nil, List.map_nil, List.append_nil]
  | append_singleton before table ih =>
      rw [mergeAll_append_singleton, map_face_mergeOne, isNew_mergeAll, newcomers_append_singleton,
        List.map_append, ih, ← List.map_append, List.append_assoc]

/-! Where the joins go. -/

theorem joinsAt_of_not_mem (h : some key ∉ tables.map key?) : joinsAt key tables = [] := by
  have hnone : tables.find? (·.key? == some key) = none := by
    rw [List.find?_eq_none]
    intro table htable hkey
    exact h (List.mem_map.mpr ⟨table, htable, eq_of_beq hkey⟩)
  rw [joinsAt, hnone]
  rfl

theorem joinsAt_append_of_mem (h : some key ∈ tables.map key?) (more : List Table) :
    joinsAt key (tables ++ more) = joinsAt key tables := by
  obtain ⟨table, htable, hkey⟩ := List.mem_map.mp h
  have hsome : (tables.find? (·.key? == some key)).isSome = true :=
    List.find?_isSome.mpr ⟨table, htable, beq_iff_eq.mpr hkey⟩
  rw [joinsAt, List.find?_append, Option.or_of_isSome hsome, joinsAt]

theorem joinsAt_cons_self (hkey : table.key? = some key) (rest : List Table) :
    joinsAt key (table :: rest) = table.joinList := by
  simp [joinsAt, hkey]

theorem joinsAt_cons_of_ne (hkey : table.key? ≠ some key) (rest : List Table) :
    joinsAt key (table :: rest) = joinsAt key rest := by
  simp [joinsAt, hkey]

theorem joinsAt_addJoinsAt_self (h : some key ∈ tables.map key?) :
    joinsAt key (addJoinsAt key joins tables) = joinsAt key tables ++ joins := by
  induction tables with
  | nil => cases h
  | cons table rest ih =>
      by_cases hkey : table.key? = some key
      · have hadded : (table.addJoins joins).key? = some key := hkey
        rw [addJoinsAt_cons_self hkey, joinsAt_cons_self hadded, joinsAt_cons_self hkey,
          joinList_addJoins]
      · rw [List.map_cons, List.mem_cons] at h
        rw [addJoinsAt_cons_of_ne hkey, joinsAt_cons_of_ne hkey, joinsAt_cons_of_ne hkey,
          ih (h.resolve_left (Ne.symm hkey))]

theorem joinsAt_addJoinsAt_of_ne (hne : key ≠ other) (tables : List Table) :
    joinsAt key (addJoinsAt other joins tables) = joinsAt key tables := by
  induction tables with
  | nil => rfl
  | cons table rest ih =>
      by_cases hother : table.key? = some other
      · have hkey : table.key? ≠ some key := by
          rw [hother]
          exact fun h => hne (Option.some.inj h).symm
        have hadded : (table.addJoins joins).key? ≠ some key := hkey
        rw [addJoinsAt_cons_self hother, joinsAt_cons_of_ne hadded, joinsAt_cons_of_ne hkey]
      · rw [addJoinsAt_cons_of_ne hother]
        by_cases hkey : table.key? = some key
        · rw [joinsAt_cons_self hkey, joinsAt_cons_self hkey]
        · rw [joinsAt_cons_of_ne hkey, joinsAt_cons_of_ne hkey, ih]

@[simp] theorem joinsOf_nil (key : String) : joinsOf key [] = [] := rfl

theorem joinsOf_append (key : String) (tables more : List Table) :
    joinsOf key (tables ++ more) = joinsOf key tables ++ joinsOf key more := by
  rw [joinsOf, List.filter_append, List.flatMap_append, joinsOf, joinsOf]

theorem joinsOf_cons_self (hkey : table.key? = some key) (rest : List Table) :
    joinsOf key (table :: rest) = table.joinList ++ joinsOf key rest := by
  simp [joinsOf, hkey]

theorem joinsOf_cons_of_ne (hkey : table.key? ≠ some key) (rest : List Table) :
    joinsOf key (table :: rest) = joinsOf key rest := by
  simp [joinsOf, hkey]

theorem joinsAt_append_of_not_mem (h : some key ∉ tables.map key?) (more : List Table) :
    joinsAt key (tables ++ more) = joinsAt key more := by
  have hnone : tables.find? (·.key? == some key) = none := by
    rw [List.find?_eq_none]
    intro table htable hkey
    exact h (List.mem_map.mpr ⟨table, htable, eq_of_beq hkey⟩)
  rw [joinsAt, List.find?_append, hnone, Option.none_or, joinsAt]

theorem joinsAt_mergeOne (key : String) (tables : List Table) (table : Table) :
    joinsAt key (mergeOne tables table) = joinsAt key tables ++ joinsOf key [table] := by
  by_cases hkey : table.key? = some key
  · rw [joinsOf_cons_self hkey, joinsOf_nil, List.append_nil]
    by_cases hmem : some key ∈ tables.map key?
    · by_cases hnil : table.joinList = []
      · rw [mergeOne_of_nil hkey hmem hnil, hnil, List.append_nil]
      · rw [mergeOne_of_ne_nil hkey hmem hnil, joinsAt_addJoinsAt_self hmem]
    · have hfresh : ∀ other, table.key? = some other → some other ∉ tables.map key? := by
        intro other hother
        rw [← hother, hkey]
        exact hmem
      rw [mergeOne_of_fresh hfresh, joinsAt_append_of_not_mem hmem, joinsAt_of_not_mem hmem,
        joinsAt_cons_self hkey, List.nil_append]
  · rw [joinsOf_cons_of_ne hkey, joinsOf_nil, List.append_nil]
    rcases mergeOne_cases tables table with
      ⟨-, heq⟩ | ⟨other, hother, -, ⟨-, heq⟩ | ⟨-, heq⟩⟩
    · rw [heq]
      by_cases hmem : some key ∈ tables.map key?
      · exact joinsAt_append_of_mem hmem _
      · rw [joinsAt_append_of_not_mem hmem, joinsAt_cons_of_ne hkey, joinsAt_of_not_mem hmem]
        rfl
    · rw [heq]
    · have hne : key ≠ other := by
        rintro rfl
        exact hkey hother
      rw [heq, joinsAt_addJoinsAt_of_ne hne]

theorem joinsAt_mergeAll (key : String) (tables additions : List Table) :
    joinsAt key (mergeAll tables additions) = joinsAt key tables ++ joinsOf key additions := by
  induction additions generalizing tables with
  | nil => rw [mergeAll_nil, joinsOf_nil, List.append_nil]
  | cons table rest ih =>
      rw [mergeAll_cons, ih, joinsAt_mergeOne, List.append_assoc, ← joinsOf_append,
        List.singleton_append]

/-! What stays as it is. -/

theorem FirstOf.congr {first second : List Table} (h : first.map face = second.map face)
    {place : Nat} (hfirst : FirstOf key first place) : FirstOf key second place := by
  rw [FirstOf, map_key?_of_map_face h] at hfirst
  exact hfirst

theorem FirstOf.append {place : Nat} (h : FirstOf key tables place) (more : List Table) :
    FirstOf key (tables ++ more) place := by
  obtain ⟨hkey, hfirst⟩ := h
  have hlt : place < (tables.map key?).length := (List.getElem?_eq_some_iff.mp hkey).1
  constructor
  · rw [List.map_append, List.getElem?_append_left hlt, hkey]
  · rw [List.map_append, List.take_append_of_le_length (Nat.le_of_lt hlt)]
    exact hfirst

theorem getElem?_addJoinsAt {place : Nat} (h : ¬ FirstOf key tables place) :
    (addJoinsAt key joins tables)[place]? = tables[place]? := by
  induction tables generalizing place with
  | nil => rfl
  | cons table rest ih =>
      by_cases hkey : table.key? = some key
      · rw [addJoinsAt_cons_self hkey]
        cases place with
        | zero => exact absurd ⟨congrArg some hkey, List.not_mem_nil⟩ h
        | succ place => rfl
      · rw [addJoinsAt_cons_of_ne hkey]
        cases place with
        | zero => rfl
        | succ place =>
            apply ih
            rintro ⟨hheld, hfirst⟩
            refine h ⟨hheld, ?_⟩
            rw [List.map_cons, List.take_succ_cons, List.mem_cons]
            exact not_or.mpr ⟨Ne.symm hkey, hfirst⟩

theorem getElem?_mergeAll {place : Nat}
    (h : ∀ key, ¬ FirstOf key (tables ++ newcomers tables additions) place) :
    (mergeAll tables additions)[place]? = (tables ++ newcomers tables additions)[place]? := by
  induction additions using List.reverseRecOn with
  | nil => rw [mergeAll_nil, newcomers, List.zipIdx_nil, List.filter_nil, List.map_nil, List.append_nil]
  | append_singleton before table ih =>
      rw [mergeAll_append_singleton]
      rw [newcomers_append_singleton, ← List.append_assoc] at h ⊢
      have hbefore : ∀ key, ¬ FirstOf key (tables ++ newcomers tables before) place :=
        fun key hfirst => h key (hfirst.append _)
      have hsame := ih hbefore
      rcases mergeOne_cases (mergeAll tables before) table with
        ⟨hnew, heq⟩ | ⟨key, hkey, hmem, hcases⟩
      · rw [heq, if_pos ((isNew_mergeAll tables before table).symm.trans (isNew_iff.mpr hnew))]
        have hlength := congrArg List.length (map_face_mergeAll tables before)
        rw [List.length_map, List.length_map] at hlength
        rw [List.getElem?_append, List.getElem?_append, hlength, hsame]
      · have hold : ¬ isNew (tables ++ before) table = true := by
          rw [← isNew_mergeAll]
          exact fun hnew => isNew_iff.mp hnew key hkey hmem
        rw [if_neg hold, List.append_nil]
        rcases hcases with ⟨-, heq⟩ | ⟨-, heq⟩
        · rw [heq, hsame]
        · rw [heq, getElem?_addJoinsAt fun hfirst =>
            hbefore key (hfirst.congr (map_face_mergeAll tables before)), hsame]

theorem nodup_mergeAll (h : (tables.filterMap key?).Nodup) (additions : List Table) :
    ((mergeAll tables additions).filterMap key?).Nodup := by
  induction additions generalizing tables with
  | nil => exact h
  | cons table rest ih => exact ih (nodup_mergeOne h table)

/-- Merging lists of tables keeps the tables and their order, appends the new ones, and loses or
doubles no join; merging queries does so to their tables, however these are written. -/
theorem mergeAll_gathers (tables additions : List Table) :
    Gathers tables additions (mergeAll tables additions) ∧
      ∀ base addition : Query, base.tableList = tables → addition.tableList = additions →
        (base.merge addition).tableList = mergeAll tables additions := by
  constructor
  · exact {
      faces := map_face_mergeAll tables additions
      joins := fun key => joinsAt_mergeAll key tables additions
      others := fun _ => getElem?_mergeAll
      distinct := fun h => nodup_mergeAll h additions }
  · rintro base addition rfl rfl
    exact Query.tableList_merge base addition

/-- A table that joins another. -/
def joined (name other : String) : Table :=
  ⟨.name name, none, .one ⟨.left, .name other, .absent⟩⟩

/-- A table without a key. -/
def nameless : Table :=
  ⟨.derived .empty, none, .many []⟩

def docked : List Table :=
  [joined "ships" "crews", nameless]

def arriving : List Table :=
  [joined "berths" "quays", nameless, joined "ships" "holds", joined "berths" "tides"]

/-- What is not there yet is added once with the joins of both its mentions, and what has no key is
added in any case. -/
theorem docked_gathers :
    (docked.filterMap key?).Nodup ∧
      ((mergeAll docked arriving).filterMap key?).Nodup ∧
      (mergeAll docked arriving).map face =
        (docked ++ [joined "berths" "quays", nameless]).map face ∧
      joinsAt "berths" (mergeAll docked arriving) =
        [⟨.left, .name "quays", .absent⟩, ⟨.left, .name "tides", .absent⟩] ∧
      joinsAt "ships" (mergeAll docked arriving) =
        [⟨.left, .name "crews", .absent⟩, ⟨.left, .name "holds", .absent⟩] := by
  have hdistinct : (docked.filterMap key?).Nodup := List.nodup_singleton "ships"
  obtain ⟨hgathers, -⟩ := mergeAll_gathers docked arriving
  exact ⟨hdistinct, hgathers.distinct hdistinct, hgathers.faces, hgathers.joins "berths",
    hgathers.joins "ships"⟩

end Table

end QueryWeave

import QueryWeave.Proofs.Tree.Fill
import QueryWeave.Proofs.Tree.Outline
import QueryWeave.Proofs.Tree.Series
import QueryWeave.Proofs.Tree.Tables

/-!
Where the placeholders of a merged query come from.  Main statement: `Query.placeholders_merge`, each
comes from one of the two queries, none is lost or doubled, and those of the first keep their order.
-/

namespace QueryWeave

/-- The key of a table and what a scan finds in it. -/
def Table.entry (table : Table) : Outline.Entry Datum := (table.key?, table.placeholders)

namespace Query

def outline (query : Query) : Outline Datum where
  columns := query.selectList.flatMap ResultColumn.placeholders
  tables := query.tableList.map Table.entry
  conditions := query.filterList.flatMap Expr.placeholders
  terms := query.groupTerms.flatMap Expr.placeholders
  having := query.havingList.flatMap Expr.placeholders
  order := query.orderList.flatMap OrderTerm.placeholders

section Scan

theorem listed_tableList (query : Query) :
    Outline.listed (query.tableList.map Table.entry) =
      Table.placeholdersClause query.tables := by
  rw [Table.placeholdersClause_eq, Outline.listed, List.flatMap_map, tableList]
  cases query.tables with
  | absent => rfl
  | name given => rfl
  | one table => rfl
  | many tables => rfl

theorem placeholders_group (query : Query) :
    query.group.placeholders =
      query.groupTerms.flatMap Expr.placeholders ++ query.havingList.flatMap Expr.placeholders := by
  rw [groupTerms, havingList, grouping?]
  cases query.group with
  | absent => rfl
  | name given => rfl
  | «by» grouping =>
      obtain ⟨terms, having⟩ := grouping
      simp [Group.placeholders, Grouping.placeholders, Grouping.listed, Grouping.termList,
        Grouping.havingList]

theorem placeholders_order (query : Query) :
    OrderTerm.placeholdersClause query.order =
      query.orderList.flatMap OrderTerm.placeholders := by
  rw [OrderTerm.placeholdersClause_eq, orderList]
  cases query.order with
  | absent => rfl
  | name given => rfl
  | one term => rfl
  | many terms => rfl

theorem scan_outline (query : Query) : query.outline.scan = query.placeholders := by
  have hplaceholders : query.placeholders =
      ResultColumn.placeholdersClause query.select ++ Table.placeholdersClause query.tables ++
        Expr.placeholdersClause query.filter ++ query.group.placeholders ++
        OrderTerm.placeholdersClause query.order := by
    cases query
    rfl
  rw [hplaceholders, ← listed_tableList, placeholders_group, placeholders_order,
    ResultColumn.placeholdersClause_eq, Expr.placeholdersClause_eq]
  simp only [Outline.scan, outline, selectList, filterList, List.append_assoc]

end Scan

section Merge

variable (base addition : Query)

theorem placeholders_conjuncts (conditions : List Expr) :
    (Expr.conjuncts conditions).flatMap Expr.placeholders =
      conditions.flatMap Expr.placeholders := by
  unfold Expr.conjuncts
  split
  next members => simp [Expr.placeholders]
  next => rfl

theorem placeholders_filterList_merge :
    (base.merge addition).filterList.flatMap Expr.placeholders =
      base.filterList.flatMap Expr.placeholders ++
        addition.filterList.flatMap Expr.placeholders := by
  rw [filterList, filter_merge]
  by_cases hnil : addition.filterList = []
  · rw [hnil, List.flatMap_nil, List.append_nil]
    rfl
  · rw [filterWith_of_ne_nil base hnil, Clause.toList_one, List.flatMap_singleton,
      Expr.placeholders, Expr.placeholdersAll_eq, List.flatMap_append, placeholders_conjuncts]

end Merge

end Query

namespace Table

theorem placeholders_eq_joins (table : Table) :
    table.placeholders = table.joinList.flatMap Join.placeholders := by
  obtain ⟨source, label, joins⟩ := table
  simp [placeholders, joinList]

theorem map_fst_entry (tables : List Table) :
    (tables.map entry).map Prod.fst = tables.map key? :=
  List.map_map

theorem filterMap_fst_entry (tables : List Table) :
    (tables.map entry).filterMap Prod.fst = tables.filterMap key? :=
  List.filterMap_map

theorem map_entry_addJoinsAt (key : String) (joins : List Join) (tables : List Table) :
    (addJoinsAt key joins tables).map entry =
      Outline.addAt key (joins.flatMap Join.placeholders) (tables.map entry) := by
  induction tables with
  | nil => rfl
  | cons table rest ih =>
      by_cases hkey : table.key? = some key
      · have hentry : table.entry.1 = some key := hkey
        have hjoins : (table.addJoins joins).entry =
            (table.entry.1, table.entry.2 ++ joins.flatMap Join.placeholders) := by
          rw [entry, placeholders_eq_joins, joinList_addJoins, List.flatMap_append,
            ← placeholders_eq_joins]
          rfl
        rw [addJoinsAt_cons_self hkey, List.map_cons, List.map_cons,
          Outline.addAt_cons_self hentry, hjoins]
      · have hentry : table.entry.1 ≠ some key := hkey
        rw [addJoinsAt_cons_of_ne hkey, List.map_cons, List.map_cons,
          Outline.addAt_cons_of_ne hentry, ih]

theorem map_entry_mergeOne (tables : List Table) (table : Table) :
    (mergeOne tables table).map entry = Outline.place (tables.map entry) table.entry := by
  have hjoins : table.entry.2 = table.joinList.flatMap Join.placeholders :=
    table.placeholders_eq_joins
  rcases mergeOne_cases tables table with
    ⟨hfresh, heq⟩ | ⟨key, hkey, hmem, ⟨hnil, heq⟩ | ⟨-, heq⟩⟩
  · rw [heq, List.map_append, Outline.place_of_fresh]
    · rfl
    · rw [map_fst_entry]
      exact hfresh
  · rw [← map_fst_entry] at hmem
    rw [heq, Outline.place_of_mem hkey hmem, hjoins, hnil]
    exact (Outline.addAt_nil _).symm
  · rw [← map_fst_entry] at hmem
    rw [heq, Outline.place_of_mem hkey hmem, hjoins, map_entry_addJoinsAt]

theorem map_entry_mergeAll (tables additions : List Table) :
    (mergeAll tables additions).map entry =
      (additions.map entry).foldl Outline.place (tables.map entry) := by
  induction additions generalizing tables with
  | nil => rfl
  | cons table rest ih =>
      rw [mergeAll_cons, ih, map_entry_mergeOne, List.map_cons, List.foldl_cons]

end Table

namespace Query

theorem outline_merge (base addition : Query) :
    (base.merge addition).outline = base.outline.merge addition.outline := by
  rw [outline, selectList_merge, tableList_merge, Table.map_entry_mergeAll,
    placeholders_filterList_merge, groupTerms_merge, havingList_merge, orderList_merge]
  simp only [List.flatMap_append]
  rfl

end Query

section Fill

/-! Filling keeps the shape of an outline: every clause is dealt some share of the supply. -/

variable {f : Datum → Unit} (supply : Supply)

theorem Node.map_placeholders_fill (node : Node) :
    (node.fill supply).placeholders.map f = node.placeholders.map f := by
  have hlength := supply.length_onto node.placeholders
  rw [placeholders_fill]
  exact List.ext_getElem (by simpa using hlength) fun _ _ _ => rfl

theorem Expr.map_placeholders_fill (expression : Expr) :
    (expression.fill supply).placeholders.map f = expression.placeholders.map f :=
  Node.map_placeholders_fill supply (.expr expression)

theorem ResultColumn.map_placeholders_fill (column : ResultColumn) :
    (column.fill supply).placeholders.map f = column.placeholders.map f := by
  obtain ⟨expression, label⟩ := column
  exact expression.map_placeholders_fill supply

theorem OrderTerm.map_placeholders_fill (term : OrderTerm) :
    (term.fill supply).placeholders.map f = term.placeholders.map f := by
  obtain ⟨expression, direction⟩ := term
  exact expression.map_placeholders_fill supply

theorem Table.mapEntry_entry_fill (table : Table) :
    Outline.mapEntry f (table.fill supply).entry = Outline.mapEntry f table.entry := by
  have hplaceholders : (table.fill supply).placeholders.map f = table.placeholders.map f :=
    Node.map_placeholders_fill supply (.table table)
  have hkey : (table.fill supply).key? = table.key? := by
    cases table
    rfl
  rw [Outline.mapEntry, entry, Outline.mapEntry, entry, hplaceholders, hkey]

theorem map_flatMap_deal {α : Type} {put : α → Supply → α} {held : α → List Datum}
    (h : ∀ item supply, (held (put item supply)).map f = (held item).map f) (items : List α) :
    ((deal put held items supply).flatMap held).map f = (items.flatMap held).map f := by
  rw [List.map_flatMap, List.map_flatMap]
  refine flatMap_deal ?_ supply
  intro item _
  exact h item

namespace Query

variable (query : Query)

theorem selectList_fill : ∃ share, (query.fill supply).selectList =
    deal ResultColumn.fill ResultColumn.placeholders query.selectList share := by
  obtain ⟨share, hselect⟩ : ∃ share, (query.fill supply).select =
      query.select.deal ResultColumn.fill ResultColumn.placeholders share := by
    cases query
    exact ⟨_, ResultColumn.fillClause_eq _⟩
  exact ⟨share, by rw [selectList, hselect, Clause.toList_deal, selectList]⟩

theorem tables_fill : ∃ share, (query.fill supply).tables =
    query.tables.deal Table.fill Table.placeholders share := by
  cases query
  exact ⟨_, Table.fillClause_eq _⟩

theorem filterList_fill : ∃ share, (query.fill supply).filterList =
    deal Expr.fill Expr.placeholders query.filterList share := by
  obtain ⟨share, hfilter⟩ : ∃ share, (query.fill supply).filter =
      query.filter.deal Expr.fill Expr.placeholders share := by
    cases query
    exact ⟨_, Expr.fillClause_eq _⟩
  exact ⟨share, by rw [filterList, hfilter, Clause.toList_deal, filterList]⟩

theorem group_fill : ∃ share, (query.fill supply).group = query.group.fill share := by
  cases query
  exact ⟨_, rfl⟩

theorem groupTerms_fill : ∃ share, (query.fill supply).groupTerms =
    deal Expr.fill Expr.placeholders query.groupTerms share := by
  obtain ⟨share, hgroup⟩ := query.group_fill supply
  refine ⟨share, ?_⟩
  rw [groupTerms, grouping?, hgroup, groupTerms, grouping?]
  cases query.group with
  | absent => rfl
  | name given => rfl
  | «by» grouping =>
      obtain ⟨terms, having⟩ := grouping
      simp [Group.fill, Grouping.fill, Grouping.listed, Grouping.termList]

theorem havingList_fill : ∃ share, (query.fill supply).havingList =
    deal Expr.fill Expr.placeholders query.havingList share := by
  obtain ⟨share, hgroup⟩ := query.group_fill supply
  rw [havingList, grouping?, hgroup, havingList, grouping?]
  cases query.group with
  | absent => exact ⟨[], rfl⟩
  | name given => exact ⟨[], rfl⟩
  | «by» grouping =>
      obtain ⟨terms, having⟩ := grouping
      simp only [Group.fill, Grouping.fill, Grouping.listed, Grouping.havingList, Option.map_some,
        Option.getD_some, Clause.toList_many, Expr.fillClause_eq, Clause.toList_deal]
      exact ⟨_, rfl⟩

theorem order_fill : ∃ share, (query.fill supply).order =
    query.order.deal OrderTerm.fill OrderTerm.placeholders share := by
  cases query
  exact ⟨_, OrderTerm.fillClause_eq _⟩

theorem mapEntry_tableList_fill :
    ((query.fill supply).tableList.map Table.entry).map (Outline.mapEntry f) =
      (query.tableList.map Table.entry).map (Outline.mapEntry f) := by
  obtain ⟨share, htables⟩ := query.tables_fill supply
  have hentry (table : Table) (supply : Supply) :
      (Outline.mapEntry f ∘ Table.entry) (table.fill supply) =
        (Outline.mapEntry f ∘ Table.entry) table :=
    table.mapEntry_entry_fill supply
  rw [tableList, htables, tableList, List.map_map, List.map_map]
  cases query.tables with
  | absent => rfl
  | name given => rfl
  | one table => exact congrArg (fun entry => [entry]) (hentry table share)
  | many tables => exact map_deal_eq (fun table _ => hentry table) share

theorem map_orderList_fill :
    ((query.fill supply).orderList.flatMap OrderTerm.placeholders).map f =
      (query.orderList.flatMap OrderTerm.placeholders).map f := by
  obtain ⟨share, horder⟩ := query.order_fill supply
  have hterm (term : OrderTerm) (supply : Supply) :
      (term.fill supply).placeholders.map f = term.placeholders.map f :=
    term.map_placeholders_fill supply
  rw [orderList, horder, orderList]
  cases query.order with
  | absent => rfl
  | name given => rfl
  | one term =>
      rw [NamedClause.deal, NamedClause.toList_one, NamedClause.toList_one,
        List.flatMap_singleton, List.flatMap_singleton]
      exact hterm term share
  | many terms => exact map_flatMap_deal share hterm terms

theorem map_outline_fill : (query.fill supply).outline.map f = query.outline.map f := by
  obtain ⟨selected, hselect⟩ := query.selectList_fill supply
  obtain ⟨filtered, hfilter⟩ := query.filterList_fill supply
  obtain ⟨grouped, hterms⟩ := query.groupTerms_fill supply
  obtain ⟨restricted, hhaving⟩ := query.havingList_fill supply
  have hexpr (expression : Expr) (supply : Supply) :
      (expression.fill supply).placeholders.map f = expression.placeholders.map f :=
    expression.map_placeholders_fill supply
  rw [outline, Outline.map, outline, Outline.map, mapEntry_tableList_fill, map_orderList_fill,
    hselect, hfilter, hterms, hhaving, map_flatMap_deal filtered hexpr,
    map_flatMap_deal grouped hexpr, map_flatMap_deal restricted hexpr,
    map_flatMap_deal selected fun column supply => column.map_placeholders_fill supply]

theorem outline_fill {supply : Supply} (h : supply.length = query.placeholders.length) :
    (query.fill supply).outline = query.outline.deal supply := by
  have hscan : (query.fill supply).outline.scan = supply := by
    rw [scan_outline]
    exact (Node.placeholders_fill (.query query) supply).trans (Supply.onto_of_length_eq h)
  have hshape := Outline.eq_deal_scan_of_shape
    (query.map_outline_fill (f := fun _ => ()) supply)
  rw [hscan] at hshape
  exact hshape

theorem outline_eq_deal : query.outline = query.outline.deal (List.ofFn query.placeholders.get) := by
  rw [List.ofFn_get, ← scan_outline, Outline.deal_scan]

end Query

end Fill

namespace Query

/-- Every placeholder of a merged query is one of `base` or one of `addition`, the same one whatever
the placeholders hold; each comes once, and those of `base` in their order, as do those of `addition`
when no two of its tables have the same key and none has the key of a table of `base`. -/
theorem placeholders_merge (base addition : Query) :
    (base.merge addition).placeholders.Perm (base.placeholders ++ addition.placeholders) ∧
    ∃ origins : List (Fin base.placeholders.length ⊕ Fin addition.placeholders.length),
      (base.merge addition).placeholders =
          origins.map (Sum.elim base.placeholders.get addition.placeholders.get) ∧
        (∀ (own : Fin base.placeholders.length → Datum)
          (added : Fin addition.placeholders.length → Datum),
          ((base.fill (List.ofFn own)).merge (addition.fill (List.ofFn added))).placeholders =
            origins.map (Sum.elim own added)) ∧
        origins.Perm ((List.finRange _).map .inl ++ (List.finRange _).map .inr) ∧
        ((List.finRange _).map .inl).Sublist origins ∧
        ((addition.tableList.filterMap Table.key?).Nodup →
          (∀ key ∈ addition.tableList.filterMap Table.key?,
            some key ∉ base.tableList.map Table.key?) →
          ((List.finRange _).map .inr).Sublist origins) := by
  have hmerged : (base.merge addition).placeholders =
      (base.outline.origins _ _ addition.outline).map
        (Sum.elim base.placeholders.get addition.placeholders.get) := by
    rw [← scan_outline, outline_merge, ← Outline.scan_merge_deal, ← outline_eq_deal,
      ← outline_eq_deal]
  have hperm := base.outline.origins_perm (m := base.placeholders.length)
    (n := addition.placeholders.length) addition.outline
  refine ⟨?_, base.outline.origins _ _ addition.outline, hmerged, ?_, hperm, ?_, ?_⟩
  · rw [hmerged]
    refine (hperm.map _).trans ?_
    rw [List.map_append, List.map_map, List.map_map, Sum.elim_comp_inl, Sum.elim_comp_inr,
      ← List.ofFn_eq_map, ← List.ofFn_eq_map, List.ofFn_get, List.ofFn_get]
  · intro own added
    rw [← Outline.scan_merge_deal, ← scan_outline, outline_merge,
      outline_fill base List.length_ofFn, outline_fill addition List.length_ofFn]
  · exact Outline.sublist_origins _ _
  · intro hdistinct hfresh
    apply Outline.sublist_origins_of_fresh
    · rw [outline, Table.filterMap_fst_entry]
      exact hdistinct
    · rw [outline, outline, Table.filterMap_fst_entry, Table.map_fst_entry]
      exact hfresh

/-- A query over a table that is joined on one placeholder and filtered by another. -/
def holding (table : String) (joined filtered : Datum) : Query :=
  { Query.empty with
    tables := .one
      ⟨.name table, none, .one ⟨.left, .name "crews", .one (.placeholder joined)⟩⟩
    filter := .one (.placeholder filtered) }

theorem berths_merge_placeholders :
    let ships := holding "ships" (.int 1) (.int 2)
    let berths := holding "berths" (.int 3) (.int 4)
    (berths.tableList.filterMap Table.key?).Nodup ∧
      (∀ key ∈ berths.tableList.filterMap Table.key?,
        some key ∉ ships.tableList.map Table.key?) ∧
      (ships.merge berths).placeholders = [.int 1, .int 3, .int 2, .int 4] ∧
      ∃ origins : List (Fin ships.placeholders.length ⊕ Fin berths.placeholders.length),
        (ships.merge berths).placeholders =
            origins.map (Sum.elim ships.placeholders.get berths.placeholders.get) ∧
          ((List.finRange _).map .inl).Sublist origins ∧
          ((List.finRange _).map .inr).Sublist origins := by
  intro ships berths
  have hdistinct : (berths.tableList.filterMap Table.key?).Nodup := List.nodup_singleton "berths"
  have hfresh : ∀ key ∈ berths.tableList.filterMap Table.key?,
      some key ∉ ships.tableList.map Table.key? := by
    intro key hkey hmem
    obtain rfl : key = "berths" := List.mem_singleton.mp hkey
    have hsame : "berths" = "ships" := Option.some.inj (List.mem_singleton.mp hmem)
    exact absurd hsame (by decide)
  obtain ⟨-, origins, horigins, -, -, hleft, hright⟩ := placeholders_merge ships berths
  exact ⟨hdistinct, hfresh, rfl, origins, horigins, hleft, hright hdistinct hfresh⟩

end Query

end QueryWeave

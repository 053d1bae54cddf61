import QueryWeave.Proofs.Tree.Merge
import QueryWeave.Proofs.Tree.Recast

namespace QueryWeave

namespace Expr

def isConjunction : Expr → Bool
  | .conjunction _ => true
  | _ => false

/-- Merging sees no difference: bare names and conjunctions stay, and no conjunction is made. -/
structure MergeSafe (rule : Expr → Expr → Expr) : Prop where
  named : ∀ name, rule (.named name) (.named name) = .named name
  conjunction : ∀ members rewritten,
    rule (.conjunction members) (.conjunction rewritten) = .conjunction rewritten
  other : ∀ expression rewritten, rewritten.isConjunction = false →
    (rule expression rewritten).isConjunction = false

end Expr

variable {rule : Expr → Expr → Expr}

namespace Clause

variable {α β : Type} (f : α → β)

@[simp] theorem map_ofNonempty (items : List α) :
    (ofNonempty items).map f = ofNonempty (items.map f) := by
  cases items <;> rfl

@[simp] theorem map_ofOption (item : Option α) :
    (ofOption item).map f = ofOption (item.map f) := by
  cases item <;> rfl

end Clause

namespace Expr

theorem recast_named (hrule : MergeSafe rule) (name : String) :
    (named name).recast rule = named name :=
  hrule.named name

theorem recast_conjunction (hrule : MergeSafe rule) (members : List Expr) :
    (conjunction members).recast rule = .conjunction (members.map (recast rule)) := by
  rw [recast, recastAll_eq, hrule.conjunction]

theorem isConjunction_recast (hrule : MergeSafe rule) {expression : Expr}
    (h : expression.isConjunction = false) : (expression.recast rule).isConjunction = false := by
  rw [recast_eq_step]
  apply hrule.other
  cases expression <;> first | rfl | cases h

theorem andAll_of_not_isConjunction {condition : Expr} (h : condition.isConjunction = false)
    (additions : List Expr) :
    andAll [condition] additions = .conjunction (condition :: additions) := by
  cases condition <;> first | rfl | cases h

theorem andAll_cons_cons (first second : Expr) (rest additions : List Expr) :
    andAll (first :: second :: rest) additions =
      .conjunction (first :: second :: rest ++ additions) := by
  cases first <;> rfl

theorem recast_andAll (hrule : MergeSafe rule) (conditions additions : List Expr) :
    (andAll conditions additions).recast rule =
      andAll (conditions.map (recast rule)) (additions.map (recast rule)) := by
  match conditions with
  | [] => exact recast_conjunction hrule _
  | [condition] =>
      cases h : condition.isConjunction with
      | false =>
          rw [andAll_of_not_isConjunction h, recast_conjunction hrule, List.map_singleton,
            andAll_of_not_isConjunction (isConjunction_recast hrule h), List.map_cons]
      | true =>
          cases condition <;> try cases h
          next members =>
            rw [List.map_singleton, recast_conjunction hrule]
            exact (recast_conjunction hrule _).trans (congrArg _ List.map_append)
  | first :: second :: rest =>
      rw [andAll_cons_cons, recast_conjunction hrule, List.map_append]
      exact (andAll_cons_cons _ _ _ _).symm

theorem map_combine (hrule : MergeSafe rule) (conditions : List Expr) :
    (combine conditions).map (recast rule) = combine (conditions.map (recast rule)) := by
  match conditions with
  | [] => rfl
  | [condition] => rfl
  | first :: second :: rest => exact congrArg some (recast_conjunction hrule _)

end Expr

namespace Table

@[simp] theorem key?_recast (table : Table) : (table.recast rule).key? = table.key? := by
  obtain ⟨source, label, joins⟩ := table
  cases source <;> rfl

@[simp] theorem joinList_recast (table : Table) :
    (table.recast rule).joinList = table.joinList.map (Join.recast rule) := by
  obtain ⟨source, label, joins⟩ := table
  simp [recast, joinList]

theorem recast_ofName (name : String) : (ofName name).recast rule = ofName name := rfl

theorem recast_addJoins (table : Table) (joins : List Join) :
    (table.addJoins joins).recast rule =
      (table.recast rule).addJoins (joins.map (Join.recast rule)) := by
  obtain ⟨source, label, own⟩ := table
  simp [addJoins, recast, joinList]

theorem map_addJoinsAt (key : String) (joins : List Join) (tables : List Table) :
    (addJoinsAt key joins tables).map (recast rule) =
      addJoinsAt key (joins.map (Join.recast rule)) (tables.map (recast rule)) := by
  induction tables with
  | nil => rfl
  | cons table rest ih =>
      rw [addJoinsAt, List.map_cons, addJoinsAt, key?_recast]
      split
      · rw [List.map_cons, recast_addJoins]
      · rw [List.map_cons, ih]

theorem map_mergeOne (tables : List Table) (table : Table) :
    (mergeOne tables table).map (recast rule) =
      mergeOne (tables.map (recast rule)) (table.recast rule) := by
  have hany (key : String) : ((tables.map (recast rule)).any fun other => other.key? == some key) =
      tables.any fun other => other.key? == some key := by
    rw [List.any_map]
    congr 1
    funext other
    rw [Function.comp_apply, key?_recast]
  rw [mergeOne, mergeOne, key?_recast, joinList_recast]
  cases table.key? with
  | none => simp
  | some key =>
      dsimp only
      rw [hany]
      split
      · cases table.joinList with
        | nil => rfl
        | cons join joins => exact map_addJoinsAt key (join :: joins) tables
      · simp

theorem map_mergeAll (tables additions : List Table) :
    (mergeAll tables additions).map (recast rule) =
      mergeAll (tables.map (recast rule)) (additions.map (recast rule)) := by
  induction additions generalizing tables with
  | nil => rfl
  | cons table rest ih => rw [mergeAll_cons, ih, map_mergeOne, List.map_cons, mergeAll_cons]

end Table

namespace Grouping

theorem termList_recast (grouping : Grouping) :
    (grouping.recast rule).termList = grouping.termList.map (Expr.recast rule) := by
  obtain ⟨terms, having⟩ := grouping
  simp [recast, termList]

theorem havingList_recast (grouping : Grouping) :
    (grouping.recast rule).havingList = grouping.havingList.map (Expr.recast rule) := by
  obtain ⟨terms, having⟩ := grouping
  simp [recast, havingList]

theorem recast_listed (grouping : Grouping) :
    grouping.listed.recast rule = (grouping.recast rule).listed := by
  rw [listed, listed, termList_recast, havingList_recast]
  simp [recast]

theorem recast_append (left right : Grouping) :
    (left.append right).recast rule = (left.recast rule).append (right.recast rule) := by
  rw [append, append, termList_recast, termList_recast, havingList_recast, havingList_recast]
  simp [recast]

end Grouping

namespace Query

variable (query base addition : Query)

/-! The clauses of a rewritten query. -/

@[simp] theorem distinct_recast : (query.recast rule).distinct = query.distinct := by
  cases query
  rfl

@[simp] theorem select_recast :
    (query.recast rule).select = query.select.map (ResultColumn.recast rule) := by
  cases query
  simp [recast]

@[simp] theorem tables_recast :
    (query.recast rule).tables = query.tables.map (Table.recast rule) := by
  cases query
  simp [recast]

@[simp] theorem filter_recast :
    (query.recast rule).filter = query.filter.map (Expr.recast rule) := by
  cases query
  simp [recast]

@[simp] theorem group_recast : (query.recast rule).group = query.group.recast rule := by
  cases query
  rfl

@[simp] theorem order_recast :
    (query.recast rule).order = query.order.map (OrderTerm.recast rule) := by
  cases query
  simp [recast]

@[simp] theorem limit_recast : (query.recast rule).limit = query.limit.recast rule := by
  cases query
  rfl

@[simp] theorem union_recast :
    (query.recast rule).union = query.union.map (Query.recast rule) := by
  cases query
  simp [recast]

theorem eq_of_clauses {left right : Query} (hdistinct : left.distinct = right.distinct)
    (hselect : left.select = right.select) (htables : left.tables = right.tables)
    (hfilter : left.filter = right.filter) (hgroup : left.group = right.group)
    (horder : left.order = right.order) (hlimit : left.limit = right.limit)
    (hunion : left.union = right.union) : left = right := by
  cases left
  cases right
  simp_all

theorem selectList_recast :
    (query.recast rule).selectList = query.selectList.map (ResultColumn.recast rule) := by
  rw [selectList, select_recast, Clause.toList_map, selectList]

theorem filterList_recast :
    (query.recast rule).filterList = query.filterList.map (Expr.recast rule) := by
  rw [filterList, filter_recast, Clause.toList_map, filterList]

theorem tableList_recast :
    (query.recast rule).tableList = query.tableList.map (Table.recast rule) := by
  rw [tableList, tables_recast, NamedClause.toList_map Table.recast_ofName, tableList]

theorem orderList_recast (hrule : Expr.MergeSafe rule) :
    (query.recast rule).orderList = query.orderList.map (OrderTerm.recast rule) := by
  have hname (name : String) : (OrderTerm.ofName name).recast rule = OrderTerm.ofName name :=
    congrArg (OrderTerm.mk · .ascending) (Expr.recast_named hrule name)
  rw [orderList, order_recast, NamedClause.toList_map hname, orderList]

theorem grouping?_recast (hrule : Expr.MergeSafe rule) :
    (query.recast rule).grouping? = query.grouping?.map (Grouping.recast rule) := by
  rw [grouping?, group_recast, grouping?]
  cases query.group with
  | absent => rfl
  | name name =>
      have hname : (Grouping.mk (.many [.named name]) .absent).recast rule =
          ⟨.many [.named name], .absent⟩ :=
        congrArg (fun term => Grouping.mk (.many [term]) .absent) (Expr.recast_named hrule name)
      exact congrArg some hname.symm
  | «by» grouping => exact congrArg some grouping.recast_listed.symm

mutual

theorem recast_attachUnion (union : Query) : ∀ query : Query,
    (attachUnion union query).recast rule = attachUnion (union.recast rule) (query.recast rule)
  | ⟨_, _, _, _, _, _, _, next⟩ => by
      simp [attachUnion, recast, recast_attachUnionTo union next]

theorem recast_attachUnionTo (union : Query) : ∀ next : Option Query,
    (attachUnionTo union next).recast rule =
      attachUnionTo (union.recast rule) (next.map (recast rule))
  | none => rfl
  | some query => recast_attachUnion union query

end

/-! Each clause of a merged query. -/

theorem map_mergeSelect :
    (mergeSelect base addition).map (ResultColumn.recast rule) =
      mergeSelect (base.recast rule) (addition.recast rule) := by
  rw [mergeSelect, mergeSelect, selectList_recast, selectList_recast, select_recast]
  cases addition.selectList <;> simp

theorem map_mergeTables :
    (mergeTables base addition).map (Table.recast rule) =
      mergeTables (base.recast rule) (addition.recast rule) := by
  rw [mergeTables, mergeTables, tableList_recast, tableList_recast, tables_recast, tables_recast]
  cases addition.tables <;> simp [NamedClause.map, Table.map_mergeAll]

theorem map_mergeFilter (hrule : Expr.MergeSafe rule) :
    (mergeFilter base addition).map (Expr.recast rule) =
      mergeFilter (base.recast rule) (addition.recast rule) := by
  rw [mergeFilter, mergeFilter, filterList_recast, filterList_recast, filter_recast]
  cases addition.filterList with
  | nil => rfl
  | cons condition conditions =>
      exact congrArg Clause.one (Expr.recast_andAll hrule _ _)

theorem recast_mergeGroup (hrule : Expr.MergeSafe rule) :
    (mergeGroup base addition).recast rule =
      mergeGroup (base.recast rule) (addition.recast rule) := by
  rw [mergeGroup, mergeGroup, grouping?_recast _ hrule, grouping?_recast _ hrule, group_recast]
  cases addition.grouping? with
  | none => rfl
  | some grouping =>
      cases base.grouping? with
      | none => exact congrArg Group.by (Grouping.recast_append _ _)
      | some own => exact congrArg Group.by (Grouping.recast_append _ _)

theorem map_mergeOrder (hrule : Expr.MergeSafe rule) :
    (mergeOrder base addition).map (OrderTerm.recast rule) =
      mergeOrder (base.recast rule) (addition.recast rule) := by
  rw [mergeOrder, mergeOrder, orderList_recast _ hrule, orderList_recast _ hrule, order_recast]
  cases addition.orderList <;> simp

theorem recast_mergeLimit :
    (mergeLimit base addition).recast rule =
      mergeLimit (base.recast rule) (addition.recast rule) := by
  rw [mergeLimit, mergeLimit, limit_recast, limit_recast]
  cases base.limit <;> rfl

theorem map_mergeUnion :
    (mergeUnion base addition).map (Query.recast rule) =
      mergeUnion (base.recast rule) (addition.recast rule) := by
  rw [mergeUnion, mergeUnion, union_recast, union_recast]
  cases addition.union with
  | none => rfl
  | some union => exact congrArg some (recast_attachUnionTo union base.union)

/-- Rewriting a merged query merges the rewritten queries. -/
theorem recast_merge (hrule : Expr.MergeSafe rule) :
    (base.merge addition).recast rule = (base.recast rule).merge (addition.recast rule) := by
  apply eq_of_clauses
  · simp [merge]
  · simp [merge, map_mergeSelect]
  · simp [merge, map_mergeTables]
  · simp [merge, map_mergeFilter _ _ hrule]
  · simp [merge, recast_mergeGroup _ _ hrule]
  · simp [merge, map_mergeOrder _ _ hrule]
  · simp [merge, recast_mergeLimit]
  · simp [merge, map_mergeUnion]

theorem recast_foldl_merge (hrule : Expr.MergeSafe rule) (additions : List Query) :
    (additions.foldl merge base).recast rule =
      (additions.map (recast rule)).foldl merge (base.recast rule) := by
  induction additions generalizing base with
  | nil => rfl
  | cons addition rest ih =>
      rw [List.foldl_cons, ih, recast_merge _ _ hrule, List.map_cons, List.foldl_cons]

theorem groupTerms_recast (hrule : Expr.MergeSafe rule) :
    (query.recast rule).groupTerms = query.groupTerms.map (Expr.recast rule) := by
  rw [groupTerms, grouping?_recast query hrule, groupTerms]
  cases query.grouping? with
  | none => rfl
  | some grouping => exact grouping.termList_recast

theorem havingList_recast (hrule : Expr.MergeSafe rule) :
    (query.recast rule).havingList = query.havingList.map (Expr.recast rule) := by
  rw [havingList, grouping?_recast query hrule, havingList]
  cases query.grouping? with
  | none => rfl
  | some grouping => exact grouping.havingList_recast

end Query

end QueryWeave

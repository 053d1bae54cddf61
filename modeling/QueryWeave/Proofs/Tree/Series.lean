import QueryWeave.Proofs.Tree.Merge

/-!
A series of merges.  Main statement: `Query.foldl_merge_clauses`, the lists of all parts stand in
order, the first limit stays, union chains are hung one on the other, and all conditions stand in one
conjunction, however many parts there are.
-/

namespace QueryWeave

namespace Expr

/-- The members of a lone conjunction, or else the conditions as they are. -/
def conjuncts : List Expr → List Expr
  | [.conjunction members] => members
  | conditions => conditions

theorem andAll_eq (conditions additions : List Expr) :
    andAll conditions additions = .conjunction (conjuncts conditions ++ additions) := by
  unfold andAll
  split
  next => rfl
  next hother =>
    have hsame : conjuncts conditions = conditions := by
      unfold conjuncts
      split
      next members => exact absurd rfl (hother members)
      next => rfl
    rw [hsame]

end Expr

namespace Query

universe u v

/-- What a merge does to a clause by what it adds, a series of merges does by all that they add. -/
theorem foldl_merge_of_step {β : Type u} {γ : Type v} (clause : Query → γ) (view : Query → List β)
    (joined : List β → γ) {base : Query} (hbase : clause base = joined [])
    (hstep : ∀ {query : Query} {items : List β}, clause query = joined items →
      ∀ addition : Query, clause (query.merge addition) = joined (items ++ view addition))
    (additions : List Query) :
    clause (additions.foldl merge base) = joined (additions.flatMap view) := by
  suffices ∀ query items, clause query = joined items →
      clause (additions.foldl merge query) = joined (items ++ additions.flatMap view) from
    this base [] hbase
  induction additions with
  | nil =>
      intro query items h
      rw [List.flatMap_nil, List.append_nil]
      exact h
  | cons addition rest ih =>
      intro query items h
      rw [List.foldl_cons, ih _ _ (hstep h addition), List.flatMap_cons, List.append_assoc]

variable {base query : Query}

section Filter

/-- The filter of a query with conditions joined to it: as it is when there are none, and else one
conjunction. -/
def filterWith (query : Query) : List Expr → Clause Expr
  | [] => query.filter
  | conditions => .one (.conjunction (Expr.conjuncts query.filterList ++ conditions))

theorem filterWith_of_ne_nil (query : Query) {conditions : List Expr} (h : conditions ≠ []) :
    query.filterWith conditions =
      .one (.conjunction (Expr.conjuncts query.filterList ++ conditions)) := by
  cases conditions with
  | nil => exact absurd rfl h
  | cons condition rest => rfl

theorem filter_merge (base addition : Query) :
    (base.merge addition).filter = base.filterWith addition.filterList := by
  change mergeFilter base addition = _
  rw [mergeFilter]
  split
  next hnone =>
    rw [hnone]
    rfl
  next hsome => rw [Expr.andAll_eq, filterWith_of_ne_nil base hsome]

/-- A conjunction that has been made counts as the conditions in it. -/
theorem conjuncts_of_filterWith {conditions : List Expr}
    (h : query.filter = base.filterWith conditions) :
    Expr.conjuncts query.filterList = Expr.conjuncts base.filterList ++ conditions := by
  rw [filterList, h]
  cases conditions with
  | nil => exact (List.append_nil _).symm
  | cons condition rest => rfl

theorem filter_merge_of_filterWith {conditions : List Expr}
    (h : query.filter = base.filterWith conditions) (addition : Query) :
    (query.merge addition).filter = base.filterWith (conditions ++ addition.filterList) := by
  rw [filter_merge]
  by_cases hadded : addition.filterList = []
  · rw [hadded, List.append_nil]
    exact h
  · rw [filterWith_of_ne_nil query hadded, conjuncts_of_filterWith h, List.append_assoc,
      filterWith_of_ne_nil base (List.append_ne_nil_of_right_ne_nil conditions hadded)]

end Filter

section Group

/-- The grouping of a query with others appended: as it is when there are none, and else both
clauses as lists, that of conditions only if there is a condition. -/
def groupWith (query : Query) : List Grouping → Group
  | [] => query.group
  | groupings =>
      .by ⟨.many (query.groupTerms ++ groupings.flatMap Grouping.termList),
        .ofNonempty (query.havingList ++ groupings.flatMap Grouping.havingList)⟩

theorem groupWith_of_ne_nil (query : Query) {groupings : List Grouping} (h : groupings ≠ []) :
    query.groupWith groupings =
      .by ⟨.many (query.groupTerms ++ groupings.flatMap Grouping.termList),
        .ofNonempty (query.havingList ++ groupings.flatMap Grouping.havingList)⟩ := by
  cases groupings with
  | nil => exact absurd rfl h
  | cons grouping rest => rfl

theorem group_merge (base addition : Query) :
    (base.merge addition).group = base.groupWith addition.grouping?.toList := by
  change mergeGroup base addition = _
  rw [mergeGroup]
  cases addition.grouping? with
  | none => rfl
  | some grouping =>
      rw [Option.toList_some, groupWith_of_ne_nil base (List.cons_ne_nil _ _),
        List.flatMap_singleton, List.flatMap_singleton, groupTerms, havingList]
      cases base.grouping? with
      | none => rfl
      | some own => rfl

theorem groupTerms_of_groupWith {groupings : List Grouping}
    (h : query.group = base.groupWith groupings) :
    query.groupTerms = base.groupTerms ++ groupings.flatMap Grouping.termList := by
  rw [groupTerms, grouping?, h]
  cases groupings with
  | nil => exact (List.append_nil _).symm
  | cons grouping rest => rfl

theorem havingList_of_groupWith {groupings : List Grouping}
    (h : query.group = base.groupWith groupings) :
    query.havingList = base.havingList ++ groupings.flatMap Grouping.havingList := by
  rw [havingList, grouping?, h]
  cases groupings with
  | nil => exact (List.append_nil _).symm
  | cons grouping rest => exact Clause.toList_ofNonempty _

theorem group_merge_of_groupWith {groupings : List Grouping}
    (h : query.group = base.groupWith groupings) (addition : Query) :
    (query.merge addition).group = base.groupWith (groupings ++ addition.grouping?.toList) := by
  rw [group_merge]
  by_cases hadded : addition.grouping?.toList = []
  · rw [hadded, List.append_nil]
    exact h
  · rw [groupWith_of_ne_nil query hadded, groupTerms_of_groupWith h, havingList_of_groupWith h,
      groupWith_of_ne_nil base (List.append_ne_nil_of_right_ne_nil groupings hadded)]
    simp only [List.flatMap_append, List.append_assoc]

end Group

section Union

mutual

/-- A query and the queries of its union chain in order, each without what follows it. -/
def chain : Query → List Query
  | ⟨distinct, select, tables, filter, group, order, limit, next⟩ =>
      ⟨distinct, select, tables, filter, group, order, limit, none⟩ :: chainOf next

def chainOf : Option Query → List Query
  | none => []
  | some query => chain query

end

/-- The queries of the union chain of a query, each without what follows it. -/
def unionChain (query : Query) : List Query := chainOf query.union

mutual

theorem chain_attachUnion (union : Query) :
    ∀ query : Query, chain (attachUnion union query) = chain query ++ chain union
  | ⟨distinct, select, tables, filter, group, order, limit, next⟩ => by
      rw [attachUnion, chain, chainOf, chain_attachUnionTo union next, chain, List.cons_append]

theorem chain_attachUnionTo (union : Query) :
    ∀ query : Option Query, chain (attachUnionTo union query) = chainOf query ++ chain union
  | none => rfl
  | some query => chain_attachUnion union query

end

@[simp] theorem unionChain_merge (base addition : Query) :
    (base.merge addition).unionChain = base.unionChain ++ addition.unionChain := by
  change chainOf (mergeUnion base addition) = _
  rw [mergeUnion, unionChain, unionChain]
  cases addition.union with
  | none => exact (List.append_nil _).symm
  | some union => exact chain_attachUnionTo union base.union

end Union

/-- A series of merges, clause by clause: lists are concatenated, conditions on groups among them
with no conjunction made; the first limit stays; and all conditions that are added join one
conjunction, that of the base where it has nothing else. -/
theorem foldl_merge_clauses (base : Query) (additions : List Query) :
    let merged := additions.foldl merge base
    merged.distinct = (base.distinct || additions.any distinct) ∧
      merged.selectList = base.selectList ++ additions.flatMap selectList ∧
      merged.orderList = base.orderList ++ additions.flatMap orderList ∧
      merged.groupTerms = base.groupTerms ++ additions.flatMap groupTerms ∧
      merged.havingList = base.havingList ++ additions.flatMap havingList ∧
      merged.group =
        base.groupWith (additions.flatMap fun addition => addition.grouping?.toList) ∧
      merged.limit = Limit.first (base.limit :: additions.map limit) ∧
      merged.unionChain = base.unionChain ++ additions.flatMap unionChain ∧
      merged.filter = base.filterWith (additions.flatMap filterList) :=
  ⟨distinct_foldl_merge base additions,
    foldl_merge base selectList selectList_merge additions,
    foldl_merge base orderList orderList_merge additions,
    foldl_merge base groupTerms groupTerms_merge additions,
    foldl_merge base havingList havingList_merge additions,
    foldl_merge_of_step group (fun addition => addition.grouping?.toList) base.groupWith rfl
      group_merge_of_groupWith additions,
    limit_foldl_merge base additions,
    foldl_merge base unionChain unionChain_merge additions,
    foldl_merge_of_step filter filterList base.filterWith rfl filter_merge_of_filterWith additions⟩

end Query

end QueryWeave

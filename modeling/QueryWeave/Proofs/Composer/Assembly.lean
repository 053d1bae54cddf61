import QueryWeave.Proofs.Composer.Stages
import QueryWeave.Proofs.Tree.Condition

namespace QueryWeave

universe u

namespace Expr

@[simp] theorem combine_toList_combine (conditions : List Expr) :
    combine (combine conditions).toList = combine conditions := by
  match conditions with
  | [] => rfl
  | [_] => rfl
  | _ :: _ :: _ => rfl

end Expr

def Group.collapsed : Group → Group
  | .by ⟨terms, .many conditions⟩ => .by ⟨terms, .ofOption (Expr.combine conditions)⟩
  | group => group

namespace Query

/-- The conditions on groups as they are written. -/
def havingClause (query : Query) : Clause Expr :=
  match query.group with
  | .by grouping => grouping.having
  | _ => .absent

theorem collapseHaving_eq (query : Query) :
    query.collapseHaving = { query with group := query.group.collapsed } := by
  obtain ⟨distinct, select, tables, filter, group, order, limit, union⟩ := query
  rw [collapseHaving]
  split
  next terms conditions hgroup =>
    cases hgroup
    rfl
  next hother =>
    have hsame : group.collapsed = group := by
      unfold Group.collapsed
      split
      next terms conditions => exact absurd rfl (hother terms conditions)
      next => rfl
    exact congrArg (Query.mk distinct select tables filter · order limit union) hsame.symm

@[simp] theorem groupTerms_collapseHaving (query : Query) :
    query.collapseHaving.groupTerms = query.groupTerms := by
  rw [collapseHaving_eq, groupTerms, groupTerms, grouping?, grouping?]
  cases query.group with
  | absent => rfl
  | name name => rfl
  | «by» grouping =>
      obtain ⟨terms, having⟩ := grouping
      cases having with
      | absent => rfl
      | one condition => rfl
      | many conditions => rfl

@[simp] theorem havingClause_collapseHaving (query : Query) :
    query.collapseHaving.havingClause = .ofOption (Expr.combine query.havingList) := by
  rw [collapseHaving_eq, havingClause, havingList, grouping?]
  cases query.group with
  | absent => rfl
  | name name => rfl
  | «by» grouping =>
      obtain ⟨terms, having⟩ := grouping
      cases having with
      | absent => rfl
      | one condition => rfl
      | many conditions => rfl

@[simp] theorem selectList_withFields (base : Query) (parts : List (List ResultColumn × Bool)) :
    (base.withFields parts).selectList = base.selectList ++ parts.flatMap Prod.fst := by
  cases parts with
  | nil => simp [withFields, selectList]
  | cons part parts => exact Clause.toList_ofNonempty _

@[simp] theorem orderList_withOrder (base : Query) (parts : List (List OrderTerm)) :
    (base.withOrder parts).orderList = base.orderList ++ parts.flatten := by
  cases parts with
  | nil => simp [withOrder, orderList]
  | cons part parts => rfl

@[simp] theorem groupTerms_withGroupings (base : Query) (parts : List (List Expr × List Expr)) :
    (base.withGroupings parts).groupTerms = base.groupTerms ++ parts.flatMap Prod.fst := by
  cases parts with
  | nil => rw [withGroupings_nil, List.flatMap_nil, List.append_nil]
  | cons part parts => rfl

theorem combine_havingList_withGroupings (base : Query)
    (parts : List (List Expr × List Expr)) :
    Expr.combine (base.withGroupings parts).havingList =
      Expr.combine (base.havingList ++ parts.flatMap Prod.snd) := by
  cases parts with
  | nil => rw [withGroupings_nil, List.flatMap_nil, List.append_nil]
  | cons part parts =>
      have hlist : (base.withGroupings (part :: parts)).havingList =
          (Expr.combine (base.havingList ++ (part :: parts).flatMap Prod.snd)).toList :=
        Clause.toList_ofOption _
      rw [hlist, Expr.combine_toList_combine]

section Trees

variable {β : Type u} {view : Query → List β}
  (hview : ∀ base addition : Query, view (base.merge addition) = view base ++ view addition)
  (htable : ∀ tree : Query, view tree.tablePart = [])

include hview htable

/-- Of what a merge concatenates, tables contribute nothing but their own clauses. -/
theorem foldl_merge_trees (base : Query) (tables filters : List Query) :
    view (filters.foldl merge ((tables.map tablePart).foldl merge base)) =
      view base ++ filters.flatMap view := by
  have htables : (tables.map tablePart).flatMap view = [] := by
    rw [List.flatMap_map, List.flatMap_eq_nil_iff]
    exact fun tree _ => htable tree
  rw [foldl_merge _ view hview, foldl_merge _ view hview, htables, List.append_nil]

end Trees

end Query

namespace Context

variable (context : Context)

theorem addCondition_eq (query : Query) :
    ∃ filter, context.addCondition query = { query with filter } := by
  unfold addCondition
  split
  · exact ⟨query.filter, by cases query; rfl⟩
  · exact ⟨_, rfl⟩
  · exact ⟨_, rfl⟩

theorem complete_eq (query : Query) :
    ∃ limit, context.complete query =
      { query with
        distinct := query.distinct || context.request.distinct
        group := query.group.collapsed
        limit } := by
  rw [complete, Query.collapseHaving_eq, addLimit]
  split
  · exact ⟨_, rfl⟩
  · exact ⟨_, rfl⟩
  · exact ⟨_, rfl⟩

@[simp] theorem admits_addCondition {valuation : Expr → Prop} (query : Query) :
    (context.addCondition query).Admits valuation ↔
      query.Admits valuation ∧
        ∀ condition, context.request.condition? = some condition → condition.Holds valuation := by
  unfold addCondition
  split
  next hnone => simp [hnone]
  next condition hsome hlist =>
    have hfilter : { query with filter := .one condition }.filterList = [condition] := rfl
    simp [Query.Admits, hfilter, hlist, hsome]
  next condition hsome _ =>
    have hfilter :
        { query with
          filter := .one (Expr.andAll query.filterList [condition]) }.filterList =
          [Expr.andAll query.filterList [condition]] := rfl
    simp [Query.Admits, hfilter, hsome]

end Context

namespace Composer

variable {composer : Composer} {options : Options} {working : Request} {base : Query}
  {parts : Context.Parts}

/-- A base with the columns and the trees of its parts. -/
def gathered (base : Query) (parts : Context.Parts) : Query :=
  parts.filters.foldl Query.merge
    ((parts.tables.map Query.tablePart).foldl Query.merge
      (base.withoutWildcard.withFields parts.fields))

theorem treeFrom_eq (composer : Composer) (options : Options) (working : Request) (base : Query)
    (parts : Context.Parts) :
    ∃ filter limit, composer.treeFrom options working base parts =
      { gathered base parts with
        distinct := (gathered base parts).distinct || working.distinct
        filter
        group := ((gathered base parts).withGroupings parts.groupings).group.collapsed
        order := ((gathered base parts).withOrder parts.orders).order
        limit } := by
  obtain ⟨filter, hcondition⟩ :=
    (composer.contextOf options working).addCondition_eq (gathered base parts)
  obtain ⟨limit, hcomplete⟩ := (composer.contextOf options working).complete_eq
    ((composer.contextOf options working).assemble base.withoutWildcard parts)
  refine ⟨filter, limit, hcomplete.trans ?_⟩
  have hassemble : (composer.contextOf options working).assemble base.withoutWildcard parts =
      (((composer.contextOf options working).addCondition (gathered base parts)).withGroupings
        parts.groupings).withOrder parts.orders := rfl
  rw [hassemble, hcondition]
  rfl

theorem selectList_treeFrom :
    (composer.treeFrom options working base parts).selectList =
      base.plainColumns ++ parts.fields.flatMap Prod.fst ++
        parts.filters.flatMap Query.selectList := by
  obtain ⟨filter, limit, htree⟩ := treeFrom_eq composer options working base parts
  rw [htree]
  change (gathered base parts).selectList = _
  rw [gathered, Query.foldl_merge_trees Query.selectList_merge fun _ => rfl,
    Query.selectList_withFields, Query.selectList_withoutWildcard]

theorem distinct_treeFrom :
    (composer.treeFrom options working base parts).distinct =
      (base.distinct || working.distinct || parts.fields.any Prod.snd ||
        parts.filters.any Query.distinct) := by
  obtain ⟨filter, limit, htree⟩ := treeFrom_eq composer options working base parts
  rw [htree]
  change ((gathered base parts).distinct || working.distinct) = _
  have htables : (parts.tables.map Query.tablePart).any Query.distinct = false := by
    rw [List.any_map, List.any_eq_false]
    exact fun _ _ => Bool.false_ne_true
  have hfields : (base.withoutWildcard.withFields parts.fields).distinct =
      (base.distinct || parts.fields.any Prod.snd) := rfl
  rw [gathered, Query.distinct_foldl_merge, Query.distinct_foldl_merge, htables, hfields]
  ac_nf

theorem orderList_treeFrom :
    (composer.treeFrom options working base parts).orderList =
      base.orderList ++ parts.filters.flatMap Query.orderList ++ parts.orders.flatten := by
  obtain ⟨filter, limit, htree⟩ := treeFrom_eq composer options working base parts
  rw [htree]
  change ((gathered base parts).withOrder parts.orders).orderList = _
  rw [Query.orderList_withOrder, gathered,
    Query.foldl_merge_trees Query.orderList_merge fun _ => rfl]
  rfl

theorem groupTerms_treeFrom :
    (composer.treeFrom options working base parts).groupTerms =
      base.groupTerms ++ parts.filters.flatMap Query.groupTerms ++
        parts.groupings.flatMap Prod.fst := by
  obtain ⟨filter, limit, htree⟩ := treeFrom_eq composer options working base parts
  have hgroup : (composer.treeFrom options working base parts).groupTerms =
      ((gathered base parts).withGroupings parts.groupings).collapseHaving.groupTerms := by
    rw [htree, Query.collapseHaving_eq]
    rfl
  rw [hgroup, Query.groupTerms_collapseHaving, Query.groupTerms_withGroupings, gathered,
    Query.foldl_merge_trees Query.groupTerms_merge fun _ => rfl]
  rfl

theorem Stages.selectList_tree {request : Request} {journal : Journal}
    {result : Query} (stages : Stages composer options request journal result) :
    stages.tree.selectList =
      stages.base.plainColumns ++ stages.parts.fields.flatMap Prod.fst ++
        stages.parts.filters.flatMap Query.selectList := by
  rw [stages.tree_eq, selectList_treeFrom]

theorem Stages.groupTerms_tree {request : Request} {journal : Journal}
    {result : Query} (stages : Stages composer options request journal result) :
    stages.tree.groupTerms =
      stages.base.groupTerms ++ stages.parts.filters.flatMap Query.groupTerms ++
        stages.parts.groupings.flatMap Prod.fst := by
  rw [stages.tree_eq, groupTerms_treeFrom]

theorem havingClause_treeFrom :
    (composer.treeFrom options working base parts).havingClause =
      .ofOption (Expr.combine
        (base.havingList ++ parts.filters.flatMap Query.havingList ++
          parts.groupings.flatMap Prod.snd)) := by
  obtain ⟨filter, limit, htree⟩ := treeFrom_eq composer options working base parts
  have hgroup : (composer.treeFrom options working base parts).havingClause =
      ((gathered base parts).withGroupings parts.groupings).collapseHaving.havingClause := by
    rw [htree, Query.collapseHaving_eq]
    rfl
  rw [hgroup, Query.havingClause_collapseHaving, Query.combine_havingList_withGroupings, gathered,
    Query.foldl_merge_trees Query.havingList_merge fun _ => rfl]
  rfl

theorem admits_treeFrom {valuation : Expr → Prop} :
    (composer.treeFrom options working base parts).Admits valuation ↔
      base.Admits valuation ∧ (∀ tree ∈ parts.tables, tree.Admits valuation) ∧
        (∀ tree ∈ parts.filters, tree.Admits valuation) ∧
          ∀ condition, working.condition? = some condition → condition.Holds valuation := by
  obtain ⟨limit, hcomplete⟩ := (composer.contextOf options working).complete_eq
    ((composer.contextOf options working).assemble base.withoutWildcard parts)
  have htree : (composer.treeFrom options working base parts).Admits valuation ↔
      ((composer.contextOf options working).addCondition (gathered base parts)).Admits
        valuation := by
    rw [treeFrom, hcomplete]
    rfl
  have hbase : (base.withoutWildcard.withFields parts.fields).Admits valuation ↔
      base.Admits valuation := Iff.rfl
  have htables : (∀ tree ∈ parts.tables.map Query.tablePart, tree.Admits valuation) ↔
      ∀ tree ∈ parts.tables, tree.Admits valuation := List.forall_mem_map
  rw [htree, Context.admits_addCondition, gathered, Query.admits_foldl_merge,
    Query.admits_foldl_merge, hbase, htables, and_assoc, and_assoc]
  rfl

end Composer

end QueryWeave

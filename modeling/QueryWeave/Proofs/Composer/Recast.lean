import QueryWeave.Proofs.Composer.Assembly
import QueryWeave.Proofs.Tree.RecastMerge

/-!
Rewriting a composed tree.  Main statements: `Context.recast_finish`, what is put together from parts
can be rewritten part by part, and `Composer.recast_treeFrom_congr`, a rewritten tree depends on the
trees of its filters only through what they are rewritten to.
-/

namespace QueryWeave

variable (rule : Expr → Expr → Expr)

/-- The request with its condition and its limit rewritten. -/
def Request.recast (request : Request) : Request :=
  { request with
    condition := request.condition.map (Option.map (Expr.recast rule))
    limit := request.limit.map (Limit.recast rule) }

def Context.recast (context : Context) : Context :=
  { context with request := context.request.recast rule }

def Context.Parts.recast (parts : Context.Parts) : Context.Parts where
  fields := parts.fields.map fun part => (part.1.map (ResultColumn.recast rule), part.2)
  tables := parts.tables.map (Query.recast rule)
  filters := parts.filters.map (Query.recast rule)
  groupings := parts.groupings.map fun part =>
    (part.1.map (Expr.recast rule), part.2.map (Expr.recast rule))
  orders := parts.orders.map (List.map (OrderTerm.recast rule))

variable {rule}

@[simp] theorem Request.condition?_recast (request : Request) :
    (request.recast rule).condition? = request.condition?.map (Expr.recast rule) := by
  rw [condition?, recast, condition?]
  cases request.condition with
  | none => rfl
  | some given => rfl

@[simp] theorem Request.rowLimit_recast (request : Request) :
    (request.recast rule).rowLimit = request.rowLimit.recast rule := by
  rw [rowLimit, recast, rowLimit]
  cases request.limit with
  | none => rfl
  | some given => rfl

theorem Group.recast_collapsed (hrule : Expr.MergeSafe rule) (group : Group) :
    group.collapsed.recast rule = (group.recast rule).collapsed := by
  cases group with
  | absent => rfl
  | name given => rfl
  | «by» grouping =>
      obtain ⟨terms, having⟩ := grouping
      cases having with
      | absent => rfl
      | one condition => rfl
      | many conditions =>
          simp [collapsed, recast, Grouping.recast, Expr.map_combine hrule]

namespace Query

variable (query : Query)

/-! A clause that is replaced is rewritten apart from the others. -/

theorem recast_with_distinct (distinct : Bool) :
    { query with distinct }.recast rule = { query.recast rule with distinct } := by
  cases query
  rfl

theorem recast_with_select (select : Clause ResultColumn) :
    { query with select }.recast rule =
      { query.recast rule with select := select.map (ResultColumn.recast rule) } := by
  cases query
  simp [recast]

theorem recast_with_filter (filter : Clause Expr) :
    { query with filter }.recast rule =
      { query.recast rule with filter := filter.map (Expr.recast rule) } := by
  cases query
  simp [recast]

theorem recast_with_group (group : Group) :
    { query with group }.recast rule =
      { query.recast rule with group := group.recast rule } := by
  cases query
  rfl

theorem recast_with_order (order : NamedClause OrderTerm) :
    { query with order }.recast rule =
      { query.recast rule with order := order.map (OrderTerm.recast rule) } := by
  cases query
  simp [recast]

theorem recast_with_limit (limit : Limit) :
    { query with limit }.recast rule =
      { query.recast rule with limit := limit.recast rule } := by
  cases query
  rfl

theorem recast_tablePart : query.tablePart.recast rule = (query.recast rule).tablePart := by
  cases query
  simp [tablePart, recast, empty, Clause.map, Group.recast, NamedClause.map, Limit.recast]

theorem recast_withFields (parts : List (List ResultColumn × Bool)) :
    (query.withFields parts).recast rule =
      (query.recast rule).withFields
        (parts.map fun part => (part.1.map (ResultColumn.recast rule), part.2)) := by
  cases parts with
  | nil => rw [List.map_nil, withFields_nil, withFields_nil]
  | cons part parts =>
      unfold withFields
      rw [selectList_recast, distinct_recast]
      cases query
      simp [recast, selectList, List.map_flatMap, List.flatMap_map, Function.comp_def]

theorem recast_withGroupings (hrule : Expr.MergeSafe rule)
    (parts : List (List Expr × List Expr)) :
    (query.withGroupings parts).recast rule =
      (query.recast rule).withGroupings (parts.map fun part =>
        (part.1.map (Expr.recast rule), part.2.map (Expr.recast rule))) := by
  cases parts with
  | nil => rw [List.map_nil, withGroupings_nil, withGroupings_nil]
  | cons part parts =>
      unfold withGroupings
      rw [recast_with_group, groupTerms_recast _ hrule, havingList_recast _ hrule]
      simp [Group.recast, Grouping.recast, Expr.map_combine hrule, List.map_flatMap,
        List.flatMap_map]

theorem recast_withOrder (hrule : Expr.MergeSafe rule) (parts : List (List OrderTerm)) :
    (query.withOrder parts).recast rule =
      (query.recast rule).withOrder (parts.map (List.map (OrderTerm.recast rule))) := by
  cases parts with
  | nil => rw [List.map_nil, withOrder_nil, withOrder_nil]
  | cons part parts =>
      unfold withOrder
      rw [recast_with_order, orderList_recast _ hrule]
      simp

theorem recast_collapseHaving (hrule : Expr.MergeSafe rule) :
    query.collapseHaving.recast rule = (query.recast rule).collapseHaving := by
  rw [collapseHaving_eq, collapseHaving_eq, recast_with_group, Group.recast_collapsed hrule,
    group_recast]

end Query

namespace Context

variable (context : Context) (base : Query) (parts : Parts)

theorem recast_addCondition (hrule : Expr.MergeSafe rule) :
    (context.addCondition base).recast rule =
      (context.recast rule).addCondition (base.recast rule) := by
  have hcondition : (context.recast rule).request.condition? =
      context.request.condition?.map (Expr.recast rule) := context.request.condition?_recast
  unfold addCondition
  rw [hcondition, Query.filterList_recast]
  cases context.request.condition? with
  | none => rfl
  | some condition =>
      cases base.filterList with
      | nil => exact base.recast_with_filter (.one condition)
      | cons first rest =>
          dsimp only
          rw [Query.recast_with_filter, Clause.map, Expr.recast_andAll hrule]
          rfl

theorem recast_addLimit :
    (context.addLimit base).recast rule = (context.recast rule).addLimit (base.recast rule) := by
  have hlimit : (context.recast rule).request.rowLimit = context.request.rowLimit.recast rule :=
    context.request.rowLimit_recast
  unfold addLimit
  rw [hlimit]
  cases context.request.rowLimit with
  | absent => rfl
  | rows count => exact base.recast_with_limit _
  | window given => exact base.recast_with_limit _

theorem recast_complete (hrule : Expr.MergeSafe rule) :
    (context.complete base).recast rule = (context.recast rule).complete (base.recast rule) := by
  rw [complete, Query.recast_collapseHaving _ hrule, addDistinct, Query.recast_with_distinct,
    recast_addLimit, complete, addDistinct, ← recast_addLimit, Query.distinct_recast]
  rfl

theorem recast_assemble (hrule : Expr.MergeSafe rule) :
    (context.assemble base parts).recast rule =
      (context.recast rule).assemble (base.recast rule) (parts.recast rule) := by
  have htables : (parts.tables.map Query.tablePart).map (Query.recast rule) =
      (parts.tables.map (Query.recast rule)).map Query.tablePart := by
    rw [List.map_map, List.map_map]
    exact List.map_congr_left fun tree _ => tree.recast_tablePart
  rw [assemble, Query.recast_withOrder _ hrule, Query.recast_withGroupings _ hrule,
    recast_addCondition _ _ hrule, Query.recast_foldl_merge _ hrule,
    Query.recast_foldl_merge _ hrule, Query.recast_withFields, htables]
  rfl

theorem recast_finish (hrule : Expr.MergeSafe rule) :
    (context.complete (context.assemble base parts)).recast rule =
      (context.recast rule).complete
        ((context.recast rule).assemble (base.recast rule) (parts.recast rule)) := by
  rw [recast_complete _ _ hrule, recast_assemble _ _ _ hrule]

variable {context} {other : Context}

theorem finish_congr (hcondition : context.request.condition? = other.request.condition?)
    (hdistinct : context.request.distinct = other.request.distinct)
    (hlimit : context.request.rowLimit = other.request.rowLimit) :
    context.complete (context.assemble base parts) =
      other.complete (other.assemble base parts) := by
  unfold complete addDistinct addLimit assemble addCondition
  rw [hcondition, hdistinct, hlimit]

end Context

namespace Composer

/-- Rewritten trees of one composer agree where only the trees of the filters differ, and those
not once they are rewritten. -/
theorem recast_treeFrom_congr (hrule : Expr.MergeSafe rule) (composer : Composer)
    (options : Options) (base : Query) {left right : Request} {parts other : Context.Parts}
    (hcondition : left.condition? = right.condition?) (hdistinct : left.distinct = right.distinct)
    (hlimit : left.rowLimit = right.rowLimit) (hfields : parts.fields = other.fields)
    (htables : parts.tables = other.tables)
    (hfilters : parts.filters.map (Query.recast rule) = other.filters.map (Query.recast rule))
    (hgroupings : parts.groupings = other.groupings) (horders : parts.orders = other.orders) :
    (composer.treeFrom options left base parts).recast rule =
      (composer.treeFrom options right base other).recast rule := by
  have hparts : parts.recast rule = other.recast rule := by
    rw [Context.Parts.recast, Context.Parts.recast, hfields, htables, hfilters, hgroupings,
      horders]
  rw [treeFrom, treeFrom, Context.recast_finish _ _ _ hrule, Context.recast_finish _ _ _ hrule,
    hparts]
  apply Context.finish_congr
  · change (left.recast rule).condition? = (right.recast rule).condition?
    rw [Request.condition?_recast, Request.condition?_recast, hcondition]
  · exact hdistinct
  · change (left.recast rule).rowLimit = (right.recast rule).rowLimit
    rw [Request.rowLimit_recast, Request.rowLimit_recast, hlimit]

end Composer

end QueryWeave

import QueryWeave.Proofs.Composer.Recast
import QueryWeave.Proofs.Tree.Escape

/-!
Escaping a composed tree.  Main statement: `Composer.escapePatterns_piecewise`, escaping once at the
end escapes every part as if each had been escaped alone.
-/

namespace QueryWeave

namespace Expr

theorem isConjunction_escapeHere {expression : Expr} (h : expression.isConjunction = false) :
    expression.escapeHere.isConjunction = false := by
  cases expression <;> first | rfl | cases h

theorem mergeSafe_escapeRule : MergeSafe escapeRule where
  named _ := rfl
  conjunction _ _ := rfl
  other expression rewritten h := by
    unfold escapeRule
    split
    next => rfl
    next => exact isConjunction_escapeHere h

theorem escapePatterns_eq_recast : escapePatterns = recast escapeRule := by
  funext expression
  exact Walk.node_expr_eq_iff.mp (Walk.escape.node_eq_recast escapePatterns_eq_step
    Table.escapePatterns_eq_step Query.escapePatterns_eq_step (.expr expression))

theorem isWildcard_escapePatterns (expression : Expr) :
    expression.escapePatterns.isWildcard = expression.isWildcard := by
  cases expression <;> rfl

end Expr

theorem ResultColumn.escapePatterns_eq_recast : escapePatterns = recast Expr.escapeRule := by
  funext column
  obtain ⟨expression, label⟩ := column
  rw [escapePatterns, recast, Expr.escapePatterns_eq_recast]

theorem OrderTerm.escapePatterns_eq_recast : escapePatterns = recast Expr.escapeRule := by
  funext term
  obtain ⟨expression, direction⟩ := term
  rw [escapePatterns, recast, Expr.escapePatterns_eq_recast]

theorem Limit.escapePatterns_eq_recast : escapePatterns = recast Expr.escapeRule := by
  have hbound : Bound.escapePatterns = Bound.recast Expr.escapeRule := by
    funext bound
    cases bound with
    | rows count => rfl
    | computed expression =>
        rw [Bound.escapePatterns, Bound.recast, Expr.escapePatterns_eq_recast]
  funext limit
  cases limit with
  | absent => rfl
  | rows count => rfl
  | window given =>
      obtain ⟨bound, offset⟩ := given
      simp [escapePatterns, Window.escapePatterns, recast, Window.recast, hbound]

/-- The request with the patterns in its condition and its limit escaped. -/
def Request.escapePatterns (request : Request) : Request :=
  { request with
    condition := request.condition.map (Option.map Expr.escapePatterns)
    limit := request.limit.map Limit.escapePatterns }

def Context.Parts.escapePatterns (parts : Context.Parts) : Context.Parts where
  fields := parts.fields.map fun part => (part.1.map ResultColumn.escapePatterns, part.2)
  tables := parts.tables.map Query.escapePatterns
  filters := parts.filters.map Query.escapePatterns
  groupings := parts.groupings.map fun part =>
    (part.1.map Expr.escapePatterns, part.2.map Expr.escapePatterns)
  orders := parts.orders.map (List.map OrderTerm.escapePatterns)

theorem Request.escapePatterns_eq_recast (request : Request) :
    request.escapePatterns = request.recast Expr.escapeRule := by
  rw [escapePatterns, recast, Expr.escapePatterns_eq_recast, Limit.escapePatterns_eq_recast]

theorem Context.Parts.escapePatterns_eq_recast (parts : Context.Parts) :
    parts.escapePatterns = parts.recast Expr.escapeRule := by
  rw [escapePatterns, recast, Expr.escapePatterns_eq_recast,
    ResultColumn.escapePatterns_eq_recast, OrderTerm.escapePatterns_eq_recast,
    funext Query.escapePatterns_eq_recast]

namespace Query

theorem escapePatterns_foldl_merge (base : Query) (additions : List Query) :
    (additions.foldl merge base).escapePatterns =
      (additions.map escapePatterns).foldl merge base.escapePatterns := by
  rw [funext escapePatterns_eq_recast, recast_foldl_merge _ Expr.mergeSafe_escapeRule]

theorem escapePatterns_withoutWildcard (query : Query) :
    query.withoutWildcard.escapePatterns = query.escapePatterns.withoutWildcard := by
  have hplain (column : ResultColumn) :
      (column.recast Expr.escapeRule).expression.isWildcard = column.expression.isWildcard := by
    rw [← ResultColumn.escapePatterns_eq_recast]
    obtain ⟨expression, label⟩ := column
    exact expression.isWildcard_escapePatterns
  rw [escapePatterns_eq_recast, escapePatterns_eq_recast, withoutWildcard, recast_with_select,
    withoutWildcard, selectList_recast, Clause.map_ofNonempty, List.filter_map]
  simp only [Function.comp_def, hplain]

end Query

namespace Composer

theorem escapePatterns_treeFrom (composer : Composer) (options : Options) (working : Request)
    (base : Query) (parts : Context.Parts) :
    (composer.treeFrom options working base parts).escapePatterns =
      composer.treeFrom options working.escapePatterns base.escapePatterns
        parts.escapePatterns := by
  rw [treeFrom, Query.escapePatterns_eq_recast,
    Context.recast_finish _ _ _ Expr.mergeSafe_escapeRule, ← Query.escapePatterns_eq_recast,
    Query.escapePatterns_withoutWildcard, ← Context.Parts.escapePatterns_eq_recast, treeFrom,
    Request.escapePatterns_eq_recast]
  rfl

/-- Escaping commutes with merging, with a series of merges and with all that a composition does:
one pass over the finished tree escapes the base, the request's own clauses and the trees of the
fragments as separate passes over each would. -/
theorem escapePatterns_piecewise :
    (∀ base addition : Query,
      (base.merge addition).escapePatterns =
        base.escapePatterns.merge addition.escapePatterns) ∧
    (∀ (base : Query) (additions : List Query),
      (additions.foldl Query.merge base).escapePatterns =
        (additions.map Query.escapePatterns).foldl Query.merge base.escapePatterns) ∧
    ∀ (composer : Composer) (options : Options) (working : Request) (base : Query)
      (parts : Context.Parts),
      (composer.treeFrom options working base parts).escapePatterns =
        composer.treeFrom options working.escapePatterns base.escapePatterns
          parts.escapePatterns :=
  ⟨fun base addition => base.escapePatterns_foldl_merge [addition],
    Query.escapePatterns_foldl_merge, escapePatterns_treeFrom⟩

end Composer

end QueryWeave

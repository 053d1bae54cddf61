import QueryWeave.Proofs.Tree.Recast
import QueryWeave.Tree.Pattern

namespace QueryWeave

def Branch.escapePatterns (branch : Branch) : Branch :=
  ⟨branch.guard.escapePatterns, branch.result.escapePatterns⟩

section Clauses

@[simp] theorem Expr.escapePatternsAll_eq (expressions : List Expr) :
    Expr.escapePatternsAll expressions = expressions.map Expr.escapePatterns :=
  eq_map_of_cons rfl (fun _ _ => rfl) expressions

@[simp] theorem Expr.escapePatternsOption_eq (expression : Option Expr) :
    Expr.escapePatternsOption expression = expression.map Expr.escapePatterns := by
  cases expression <;> rfl

@[simp] theorem Expr.escapePatternsItems_eq (items : Items Expr) :
    Expr.escapePatternsItems items = items.map Expr.escapePatterns := by
  cases items <;> simp [escapePatternsItems, Items.map]

@[simp] theorem Expr.escapePatternsClause_eq (clause : Clause Expr) :
    Expr.escapePatternsClause clause = clause.map Expr.escapePatterns := by
  cases clause <;> simp [escapePatternsClause, Clause.map]

@[simp] theorem Branch.escapePatternsAll_eq (branches : List Branch) :
    Branch.escapePatternsAll branches = branches.map Branch.escapePatterns :=
  eq_map_of_cons rfl (fun ⟨_, _⟩ _ => rfl) branches

@[simp] theorem ResultColumn.escapePatternsAll_eq (columns : List ResultColumn) :
    ResultColumn.escapePatternsAll columns = columns.map ResultColumn.escapePatterns :=
  eq_map_of_cons rfl (fun _ _ => rfl) columns

@[simp] theorem ResultColumn.escapePatternsClause_eq (clause : Clause ResultColumn) :
    ResultColumn.escapePatternsClause clause = clause.map ResultColumn.escapePatterns := by
  cases clause <;> simp [escapePatternsClause, Clause.map]

@[simp] theorem Table.escapePatternsAll_eq (tables : List Table) :
    Table.escapePatternsAll tables = tables.map Table.escapePatterns :=
  eq_map_of_cons rfl (fun _ _ => rfl) tables

@[simp] theorem Table.escapePatternsClause_eq (clause : NamedClause Table) :
    Table.escapePatternsClause clause = clause.map Table.escapePatterns := by
  cases clause <;> simp [escapePatternsClause, NamedClause.map]

@[simp] theorem Join.escapePatternsAll_eq (joins : List Join) :
    Join.escapePatternsAll joins = joins.map Join.escapePatterns :=
  eq_map_of_cons rfl (fun _ _ => rfl) joins

@[simp] theorem Join.escapePatternsItems_eq (items : Items Join) :
    Join.escapePatternsItems items = items.map Join.escapePatterns := by
  cases items <;> simp [escapePatternsItems, Items.map]

@[simp] theorem OrderTerm.escapePatternsAll_eq (terms : List OrderTerm) :
    OrderTerm.escapePatternsAll terms = terms.map OrderTerm.escapePatterns :=
  eq_map_of_cons rfl (fun _ _ => rfl) terms

@[simp] theorem OrderTerm.escapePatternsClause_eq (clause : NamedClause OrderTerm) :
    OrderTerm.escapePatternsClause clause = clause.map OrderTerm.escapePatterns := by
  cases clause <;> simp [escapePatternsClause, NamedClause.map]

@[simp] theorem Bound.escapePatternsOption_eq (bound : Option Bound) :
    Bound.escapePatternsOption bound = bound.map Bound.escapePatterns := by
  cases bound <;> rfl

@[simp] theorem Query.escapePatternsOption_eq (query : Option Query) :
    Query.escapePatternsOption query = query.map Query.escapePatterns := by
  cases query <;> rfl

end Clauses

namespace Expr

/-- Escapes the pattern of a regular-expression match; other expressions are left alone. -/
def escapeHere : Expr → Expr
  | .regexp left negated right => .regexp left negated right.escapeLiteral
  | .regexpText left negated pattern =>
      .regexpText left negated (Text.Pattern.escape pattern)
  | expression => expression

/-- What the escaping does in one place: the right side of a `LIKE` is put back as it was. -/
def escapeRule : Expr → Expr → Expr
  | .like _ _ right, .like left negated _ => .like left negated right
  | _, rewritten => rewritten.escapeHere

end Expr

namespace Walk

def escape : Walk :=
  ⟨Expr.escapePatterns, Table.escapePatterns, Query.escapePatterns⟩

@[simp] theorem escape_expr : escape.expr = Expr.escapePatterns := rfl

@[simp] theorem escape_table : escape.table = Table.escapePatterns := rfl

@[simp] theorem escape_query : escape.query = Query.escapePatterns := rfl

end Walk

theorem Expr.escapePatterns_eq_step (expression : Expr) :
    expression.escapePatterns = escapeRule expression (expression.step .escape) := by
  cases expression with
  | branching branches otherwise =>
      have hbranch : Branch.escapePatterns = Branch.step .escape := rfl
      simp [escapePatterns, step, escapeRule, escapeHere, hbranch]
  | _ => simp [escapePatterns, step, escapeRule, escapeHere]

theorem Join.escapePatterns_eq_step (join : Join) : join.escapePatterns = join.step .escape := by
  obtain ⟨kind, target, conditions⟩ := join
  cases target <;>
    simp [escapePatterns, JoinTarget.escapePatterns, step, JoinTarget.step]

theorem Table.escapePatterns_eq_step (table : Table) :
    table.escapePatterns = table.step .escape := by
  obtain ⟨source, label, joins⟩ := table
  have hjoin : Join.escapePatterns = Join.step .escape :=
    funext Join.escapePatterns_eq_step
  cases source <;>
    simp [escapePatterns, Source.escapePatterns, step, Source.step, hjoin]

theorem Group.escapePatterns_eq_step (group : Group) :
    group.escapePatterns = group.step .escape := by
  cases group with
  | absent => rfl
  | name given => rfl
  | «by» grouping =>
      obtain ⟨terms, having⟩ := grouping
      simp [escapePatterns, Grouping.escapePatterns, step, Grouping.step]

theorem Limit.escapePatterns_eq_step (limit : Limit) :
    limit.escapePatterns = limit.step .escape := by
  have hbound : Bound.escapePatterns = Bound.step .escape := by
    funext bound
    cases bound <;> rfl
  cases limit with
  | absent => rfl
  | rows count => rfl
  | window given =>
      obtain ⟨bound, offset⟩ := given
      simp [escapePatterns, Window.escapePatterns, step, Window.step, hbound]

theorem Query.escapePatterns_eq_step (query : Query) :
    query.escapePatterns = query.step .escape := by
  obtain ⟨distinct, select, tables, filter, group, order, limit, union⟩ := query
  have hcolumn : ResultColumn.escapePatterns = ResultColumn.step .escape :=
    funext fun ⟨_, _⟩ => rfl
  have hterm : OrderTerm.escapePatterns = OrderTerm.step .escape :=
    funext fun ⟨_, _⟩ => rfl
  simp [escapePatterns, step, Group.escapePatterns_eq_step,
    Limit.escapePatterns_eq_step, hcolumn, hterm]

theorem Table.escape_eq_step (table : Table) : Walk.escape.table table = table.step .escape :=
  table.escapePatterns_eq_step

theorem Query.escape_eq_step (query : Query) : Walk.escape.query query = query.step .escape :=
  query.escapePatterns_eq_step

theorem Query.escapePatterns_eq_recast (query : Query) :
    query.escapePatterns = query.recast Expr.escapeRule :=
  Walk.node_query_eq_iff.mp (Walk.escape.node_eq_recast Expr.escapePatterns_eq_step
    Table.escapePatterns_eq_step Query.escapePatterns_eq_step (.query query))

end QueryWeave

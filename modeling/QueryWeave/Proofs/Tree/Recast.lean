import QueryWeave.Proofs.Tree.Walk

namespace QueryWeave

variable (rule : Expr → Expr → Expr)

mutual

/-- Rewrites the expressions of a tree, inner ones first.  The rule is told what stood in a place
and what that has become under it. -/
def Expr.recast : Expr → Expr
  | .column table name => rule (.column table name) (.column table name)
  | .value value => rule (.value value) (.value value)
  | .placeholder held => rule (.placeholder held) (.placeholder held)
  | .compare left operator right =>
      rule (.compare left operator right) (.compare left.recast operator right.recast)
  | .arithmetic left operator right =>
      rule (.arithmetic left operator right) (.arithmetic left.recast operator right.recast)
  | .between left negated low high =>
      rule (.between left negated low high) (.between left.recast negated low.recast high.recast)
  | .inList left negated right =>
      rule (.inList left negated right) (.inList left.recast negated right.recast)
  | .inQuery left negated query =>
      rule (.inQuery left negated query) (.inQuery left.recast negated query.recast)
  | .like left negated right =>
      rule (.like left negated right) (.like left.recast negated right.recast)
  | .regexp left negated right =>
      rule (.regexp left negated right) (.regexp left.recast negated right.recast)
  | .regexpText left negated pattern =>
      rule (.regexpText left negated pattern) (.regexpText left.recast negated pattern)
  | .isNull left negated =>
      rule (.isNull left negated) (.isNull left.recast negated)
  | .branching branches otherwise =>
      rule (.branching branches otherwise)
        (.branching (Branch.recastAll branches) (Expr.recastOption otherwise))
  | .call name parameters =>
      rule (.call name parameters) (.call name (Expr.recastAll parameters))
  | .conjunction members =>
      rule (.conjunction members) (.conjunction (Expr.recastAll members))
  | .disjunction members =>
      rule (.disjunction members) (.disjunction (Expr.recastAll members))
  | .wrapped before inner after =>
      rule (.wrapped before inner after) (.wrapped before inner.recast after)
  | .existence negated query =>
      rule (.existence negated query) (.existence negated query.recast)
  | .scalar query =>
      rule (.scalar query) (.scalar query.recast)

def Expr.recastAll : List Expr → List Expr
  | [] => []
  | expression :: rest => expression.recast :: Expr.recastAll rest

def Expr.recastOption : Option Expr → Option Expr
  | none => none
  | some expression => some expression.recast

def Expr.recastItems : Items Expr → Items Expr
  | .one expression => .one expression.recast
  | .many expressions => .many (Expr.recastAll expressions)

def Expr.recastClause : Clause Expr → Clause Expr
  | .absent => .absent
  | .one expression => .one expression.recast
  | .many expressions => .many (Expr.recastAll expressions)

def Branch.recastAll : List Branch → List Branch
  | [] => []
  | ⟨guard, result⟩ :: rest =>
      ⟨guard.recast, result.recast⟩ :: Branch.recastAll rest

def ResultColumn.recast : ResultColumn → ResultColumn
  | ⟨expression, label⟩ => ⟨expression.recast, label⟩

def ResultColumn.recastAll : List ResultColumn → List ResultColumn
  | [] => []
  | column :: rest => column.recast :: ResultColumn.recastAll rest

def ResultColumn.recastClause : Clause ResultColumn → Clause ResultColumn
  | .absent => .absent
  | .one column => .one column.recast
  | .many columns => .many (ResultColumn.recastAll columns)

def Source.recast : Source → Source
  | .name name => .name name
  | .derived query => .derived query.recast

def Table.recast : Table → Table
  | ⟨source, label, joins⟩ => ⟨source.recast, label, Join.recastItems joins⟩

def Table.recastAll : List Table → List Table
  | [] => []
  | table :: rest => table.recast :: Table.recastAll rest

def Table.recastClause : NamedClause Table → NamedClause Table
  | .absent => .absent
  | .name name => .name name
  | .one table => .one table.recast
  | .many tables => .many (Table.recastAll tables)

def JoinTarget.recast : JoinTarget → JoinTarget
  | .name name => .name name
  | .table table => .table table.recast

def Join.recast : Join → Join
  | ⟨kind, target, conditions⟩ =>
      ⟨kind, target.recast, Expr.recastClause conditions⟩

def Join.recastAll : List Join → List Join
  | [] => []
  | join :: rest => join.recast :: Join.recastAll rest

def Join.recastItems : Items Join → Items Join
  | .one join => .one join.recast
  | .many joins => .many (Join.recastAll joins)

def Grouping.recast : Grouping → Grouping
  | ⟨terms, having⟩ => ⟨Expr.recastItems terms, Expr.recastClause having⟩

def Group.recast : Group → Group
  | .absent => .absent
  | .name name => .name name
  | .by grouping => .by grouping.recast

def OrderTerm.recast : OrderTerm → OrderTerm
  | ⟨expression, direction⟩ => ⟨expression.recast, direction⟩

def OrderTerm.recastAll : List OrderTerm → List OrderTerm
  | [] => []
  | term :: rest => term.recast :: OrderTerm.recastAll rest

def OrderTerm.recastClause : NamedClause OrderTerm → NamedClause OrderTerm
  | .absent => .absent
  | .name name => .name name
  | .one term => .one term.recast
  | .many terms => .many (OrderTerm.recastAll terms)

def Bound.recast : Bound → Bound
  | .rows count => .rows count
  | .computed expression => .computed expression.recast

def Bound.recastOption : Option Bound → Option Bound
  | none => none
  | some bound => some bound.recast

def Window.recast : Window → Window
  | ⟨limit, offset⟩ => ⟨limit.recast, Bound.recastOption offset⟩

def Limit.recast : Limit → Limit
  | .absent => .absent
  | .rows count => .rows count
  | .window window => .window window.recast

def Query.recast : Query → Query
  | ⟨distinct, select, tables, filter, group, order, limit, union⟩ =>
      ⟨distinct, ResultColumn.recastClause select, Table.recastClause tables,
        Expr.recastClause filter, group.recast,
        OrderTerm.recastClause order, limit.recast,
        Query.recastOption union⟩

def Query.recastOption : Option Query → Option Query
  | none => none
  | some query => some query.recast

end

def Branch.recast (branch : Branch) : Branch :=
  ⟨branch.guard.recast rule, branch.result.recast rule⟩

section Clauses

@[simp] theorem Expr.recastAll_eq (expressions : List Expr) :
    Expr.recastAll rule expressions = expressions.map (Expr.recast rule) :=
  eq_map_of_cons rfl (fun _ _ => rfl) expressions

@[simp] theorem Expr.recastOption_eq (expression : Option Expr) :
    Expr.recastOption rule expression = expression.map (Expr.recast rule) := by
  cases expression <;> rfl

@[simp] theorem Expr.recastItems_eq (items : Items Expr) :
    Expr.recastItems rule items = items.map (Expr.recast rule) := by
  cases items <;> simp [recastItems, Items.map]

@[simp] theorem Expr.recastClause_eq (clause : Clause Expr) :
    Expr.recastClause rule clause = clause.map (Expr.recast rule) := by
  cases clause <;> simp [recastClause, Clause.map]

@[simp] theorem Branch.recastAll_eq (branches : List Branch) :
    Branch.recastAll rule branches = branches.map (Branch.recast rule) :=
  eq_map_of_cons rfl (fun ⟨_, _⟩ _ => rfl) branches

@[simp] theorem ResultColumn.recastAll_eq (columns : List ResultColumn) :
    ResultColumn.recastAll rule columns = columns.map (ResultColumn.recast rule) :=
  eq_map_of_cons rfl (fun _ _ => rfl) columns

@[simp] theorem ResultColumn.recastClause_eq (clause : Clause ResultColumn) :
    ResultColumn.recastClause rule clause = clause.map (ResultColumn.recast rule) := by
  cases clause <;> simp [recastClause, Clause.map]

@[simp] theorem Table.recastAll_eq (tables : List Table) :
    Table.recastAll rule tables = tables.map (Table.recast rule) :=
  eq_map_of_cons rfl (fun _ _ => rfl) tables

@[simp] theorem Table.recastClause_eq (clause : NamedClause Table) :
    Table.recastClause rule clause = clause.map (Table.recast rule) := by
  cases clause <;> simp [recastClause, NamedClause.map]

@[simp] theorem Join.recastAll_eq (joins : List Join) :
    Join.recastAll rule joins = joins.map (Join.recast rule) :=
  eq_map_of_cons rfl (fun _ _ => rfl) joins

@[simp] theorem Join.recastItems_eq (items : Items Join) :
    Join.recastItems rule items = items.map (Join.recast rule) := by
  cases items <;> simp [recastItems, Items.map]

@[simp] theorem OrderTerm.recastAll_eq (terms : List OrderTerm) :
    OrderTerm.recastAll rule terms = terms.map (OrderTerm.recast rule) :=
  eq_map_of_cons rfl (fun _ _ => rfl) terms

@[simp] theorem OrderTerm.recastClause_eq (clause : NamedClause OrderTerm) :
    OrderTerm.recastClause rule clause = clause.map (OrderTerm.recast rule) := by
  cases clause <;> simp [recastClause, NamedClause.map]

@[simp] theorem Bound.recastOption_eq (bound : Option Bound) :
    Bound.recastOption rule bound = bound.map (Bound.recast rule) := by
  cases bound <;> rfl

@[simp] theorem Query.recastOption_eq (query : Option Query) :
    Query.recastOption rule query = query.map (Query.recast rule) := by
  cases query <;> rfl

end Clauses

namespace Walk

/-- The walk that does the same in every part. -/
def recast : Walk :=
  ⟨Expr.recast rule, Table.recast rule, Query.recast rule⟩

@[simp] theorem recast_expr : (recast rule).expr = Expr.recast rule := rfl

@[simp] theorem recast_table : (recast rule).table = Table.recast rule := rfl

@[simp] theorem recast_query : (recast rule).query = Query.recast rule := rfl

end Walk

/-! One step of the rewriting: the parts first, then the rule. -/

theorem Expr.recast_eq_step (expression : Expr) :
    expression.recast rule = rule expression (expression.step (.recast rule)) := by
  cases expression with
  | branching branches otherwise =>
      have hbranch : Branch.recast rule = Branch.step (.recast rule) := rfl
      simp [recast, step, hbranch]
  | _ => simp [recast, step]

theorem Join.recast_eq_step (join : Join) : join.recast rule = join.step (.recast rule) := by
  obtain ⟨kind, target, conditions⟩ := join
  cases target <;> simp [recast, JoinTarget.recast, step, JoinTarget.step]

theorem Table.recast_eq_step (table : Table) :
    table.recast rule = table.step (.recast rule) := by
  obtain ⟨source, label, joins⟩ := table
  have hjoin : Join.recast rule = Join.step (.recast rule) :=
    funext (Join.recast_eq_step rule)
  cases source <;> simp [recast, Source.recast, step, Source.step, hjoin]

theorem Group.recast_eq_step (group : Group) : group.recast rule = group.step (.recast rule) := by
  cases group with
  | absent => rfl
  | name given => rfl
  | «by» grouping =>
      obtain ⟨terms, having⟩ := grouping
      simp [recast, Grouping.recast, step, Grouping.step]

theorem Limit.recast_eq_step (limit : Limit) : limit.recast rule = limit.step (.recast rule) := by
  have hbound : Bound.recast rule = Bound.step (.recast rule) := by
    funext bound
    cases bound <;> rfl
  cases limit with
  | absent => rfl
  | rows count => rfl
  | window given =>
      obtain ⟨bound, offset⟩ := given
      simp [recast, Window.recast, step, Window.step, hbound]

theorem Query.recast_eq_step (query : Query) :
    query.recast rule = query.step (.recast rule) := by
  obtain ⟨distinct, select, tables, filter, group, order, limit, union⟩ := query
  have hcolumn : ResultColumn.recast rule = ResultColumn.step (.recast rule) :=
    funext fun ⟨_, _⟩ => rfl
  have hterm : OrderTerm.recast rule = OrderTerm.step (.recast rule) :=
    funext fun ⟨_, _⟩ => rfl
  simp [recast, step, Group.recast_eq_step, Limit.recast_eq_step, hcolumn, hterm]

/-- A walk that goes on in every part and follows a rule does what the rule does everywhere. -/
theorem Walk.node_eq_recast {rule : Expr → Expr → Expr} {walk : Walk}
    (hexpr : ∀ expression, walk.expr expression = rule expression (expression.step walk))
    (htable : ∀ table, walk.table table = table.step walk)
    (hquery : ∀ query, walk.query query = query.step walk) (node : Node) :
    walk.node node = (recast rule).node node := by
  induction node using Node.induct with
  | step node ih =>
      cases node with
      | expr expression =>
          rw [Node.parts_expr] at ih
          rw [node_expr_eq_iff, hexpr, Expr.step_eq_step_iff.mpr ih]
          exact (Expr.recast_eq_step rule expression).symm
      | table given =>
          rw [node_table_eq_iff, htable, Table.step_eq_step_iff.mpr ih]
          exact (Table.recast_eq_step rule given).symm
      | query given =>
          rw [node_query_eq_iff, hquery, Query.step_eq_step_iff.mpr ih]
          exact (Query.recast_eq_step rule given).symm

end QueryWeave

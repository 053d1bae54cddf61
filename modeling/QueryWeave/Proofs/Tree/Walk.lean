import QueryWeave.Proofs.Tree.Node

namespace QueryWeave

/-- What is done to the parts of a node, by what they are. -/
structure Walk where
  expr : Expr → Expr
  table : Table → Table
  query : Query → Query

variable (walk left right : Walk)

def Walk.node : Node → Node
  | .expr expression => .expr (walk.expr expression)
  | .table table => .table (walk.table table)
  | .query query => .query (walk.query query)

def Branch.step (branch : Branch) : Branch :=
  ⟨walk.expr branch.guard, walk.expr branch.result⟩

def Expr.step : Expr → Expr
  | .column table name => .column table name
  | .value held => .value held
  | .placeholder held => .placeholder held
  | .compare left operator right => .compare (walk.expr left) operator (walk.expr right)
  | .arithmetic left operator right => .arithmetic (walk.expr left) operator (walk.expr right)
  | .between left negated low high =>
      .between (walk.expr left) negated (walk.expr low) (walk.expr high)
  | .inList left negated right => .inList (walk.expr left) negated (walk.expr right)
  | .inQuery left negated query => .inQuery (walk.expr left) negated (walk.query query)
  | .like left negated right => .like (walk.expr left) negated (walk.expr right)
  | .regexp left negated right => .regexp (walk.expr left) negated (walk.expr right)
  | .regexpText left negated pattern => .regexpText (walk.expr left) negated pattern
  | .isNull left negated => .isNull (walk.expr left) negated
  | .branching branches otherwise =>
      .branching (branches.map (Branch.step walk)) (otherwise.map walk.expr)
  | .call name parameters => .call name (parameters.map walk.expr)
  | .conjunction members => .conjunction (members.map walk.expr)
  | .disjunction members => .disjunction (members.map walk.expr)
  | .wrapped before inner after => .wrapped before (walk.expr inner) after
  | .existence negated query => .existence negated (walk.query query)
  | .scalar query => .scalar (walk.query query)

def ResultColumn.step (column : ResultColumn) : ResultColumn :=
  ⟨walk.expr column.expression, column.label⟩

def Source.step : Source → Source
  | .name given => .name given
  | .derived query => .derived (walk.query query)

def JoinTarget.step : JoinTarget → JoinTarget
  | .name given => .name given
  | .table joined => .table (walk.table joined)

def Join.step (join : Join) : Join :=
  ⟨join.kind, join.target.step walk, join.conditions.map walk.expr⟩

def Table.step (table : Table) : Table :=
  ⟨table.source.step walk, table.label, table.joins.map (Join.step walk)⟩

def Grouping.step (grouping : Grouping) : Grouping :=
  ⟨grouping.terms.map walk.expr, grouping.having.map walk.expr⟩

def Group.step : Group → Group
  | .absent => .absent
  | .name given => .name given
  | .by grouping => .by (grouping.step walk)

def OrderTerm.step (term : OrderTerm) : OrderTerm :=
  ⟨walk.expr term.expression, term.direction⟩

def Bound.step : Bound → Bound
  | .rows count => .rows count
  | .computed expression => .computed (walk.expr expression)

def Window.step (window : Window) : Window :=
  ⟨window.limit.step walk, window.offset.map (Bound.step walk)⟩

def Limit.step : Limit → Limit
  | .absent => .absent
  | .rows count => .rows count
  | .window given => .window (given.step walk)

def Query.step (query : Query) : Query where
  distinct := query.distinct
  select := query.select.map (ResultColumn.step walk)
  tables := query.tables.map walk.table
  filter := query.filter.map walk.expr
  group := query.group.step walk
  order := query.order.map (OrderTerm.step walk)
  limit := query.limit.step walk
  union := query.union.map walk.query

/-- Both walks do the same to every part of a list. -/
def Walk.AgreeOn (parts : List Node) : Prop :=
  ∀ part ∈ parts, left.node part = right.node part

namespace Walk

variable {left right}

@[simp] theorem agreeOn_nil : left.AgreeOn right [] :=
  fun _ h => absurd h List.not_mem_nil

@[simp] theorem agreeOn_cons {part : Node} {rest : List Node} :
    left.AgreeOn right (part :: rest) ↔
      left.node part = right.node part ∧ left.AgreeOn right rest :=
  List.forall_mem_cons

@[simp] theorem agreeOn_append {first second : List Node} :
    left.AgreeOn right (first ++ second) ↔
      left.AgreeOn right first ∧ left.AgreeOn right second :=
  List.forall_mem_append

@[simp] theorem agreeOn_flatMap {α : Type} {items : List α} {parts : α → List Node} :
    left.AgreeOn right (items.flatMap parts) ↔
      ∀ item ∈ items, left.AgreeOn right (parts item) :=
  List.forall_mem_flatMap

@[simp] theorem agreeOn_map {α : Type} {items : List α} {part : α → Node} :
    left.AgreeOn right (items.map part) ↔
      ∀ item ∈ items, left.node (part item) = right.node (part item) :=
  List.forall_mem_map

@[simp] theorem node_expr_eq_iff {first second : Expr} :
    left.node (.expr first) = right.node (.expr second) ↔
      left.expr first = right.expr second := by
  rw [node, node, Node.expr.injEq]

@[simp] theorem node_table_eq_iff {first second : Table} :
    left.node (.table first) = right.node (.table second) ↔
      left.table first = right.table second := by
  rw [node, node, Node.table.injEq]

@[simp] theorem node_query_eq_iff {first second : Query} :
    left.node (.query first) = right.node (.query second) ↔
      left.query first = right.query second := by
  rw [node, node, Node.query.injEq]

end Walk

section Agreement

variable {left right}

theorem Branch.step_eq_step_iff {branch : Branch} :
    branch.step left = branch.step right ↔ left.AgreeOn right branch.parts := by
  simp [step, parts]

theorem Expr.step_eq_step_iff {expression : Expr} :
    expression.step left = expression.step right ↔ left.AgreeOn right expression.parts := by
  cases expression with
  | branching branches otherwise =>
      cases otherwise with
      | none => simp [step, parts, Branch.step_eq_step_iff]
      | some other => simp [step, parts, Branch.step_eq_step_iff]
  | _ => simp [step, parts]

theorem ResultColumn.step_eq_step_iff {column : ResultColumn} :
    column.step left = column.step right ↔
      left.expr column.expression = right.expr column.expression := by
  simp [step]

theorem Source.step_eq_step_iff {source : Source} :
    source.step left = source.step right ↔ left.AgreeOn right source.parts := by
  cases source with
  | name name => simp [step, parts]
  | derived query => simp [step, parts]

theorem JoinTarget.step_eq_step_iff {target : JoinTarget} :
    target.step left = target.step right ↔ left.AgreeOn right target.parts := by
  cases target with
  | name name => simp [step, parts]
  | table joined => simp [step, parts]

theorem Join.step_eq_step_iff {join : Join} :
    join.step left = join.step right ↔ left.AgreeOn right join.parts := by
  simp [step, parts, JoinTarget.step_eq_step_iff, Clause.map_eq_map_iff]

theorem Table.step_eq_step_iff {table : Table} :
    table.step left = table.step right ↔ left.AgreeOn right (Node.table table).parts := by
  simp [step, Node.parts, Node.scanned, Node.unscanned, joinList, Source.step_eq_step_iff,
    Items.map_eq_map_iff, Join.step_eq_step_iff, and_comm]

theorem Grouping.step_eq_step_iff {grouping : Grouping} :
    grouping.step left = grouping.step right ↔ left.AgreeOn right grouping.parts := by
  simp [step, parts, termList, havingList, Items.map_eq_map_iff, Clause.map_eq_map_iff]

theorem Group.step_eq_step_iff {group : Group} :
    group.step left = group.step right ↔ left.AgreeOn right group.parts := by
  cases group with
  | absent => simp [step, parts]
  | name name => simp [step, parts]
  | «by» grouping => simp [step, parts, Grouping.step_eq_step_iff]

theorem OrderTerm.step_eq_step_iff {term : OrderTerm} :
    term.step left = term.step right ↔
      left.expr term.expression = right.expr term.expression := by
  simp [step]

theorem Bound.step_eq_step_iff {bound : Bound} :
    bound.step left = bound.step right ↔ left.AgreeOn right bound.parts := by
  cases bound with
  | rows count => simp [step, parts]
  | computed expression => simp [step, parts]

theorem Window.step_eq_step_iff {window : Window} :
    window.step left = window.step right ↔ left.AgreeOn right window.parts := by
  obtain ⟨bound, offset⟩ := window
  cases offset with
  | none => simp [step, parts, Bound.step_eq_step_iff]
  | some shift => simp [step, parts, Bound.step_eq_step_iff]

theorem Limit.step_eq_step_iff {limit : Limit} :
    limit.step left = limit.step right ↔ left.AgreeOn right limit.parts := by
  cases limit with
  | absent => simp [step, parts]
  | rows count => simp [step, parts]
  | window given => simp [step, parts, Window.step_eq_step_iff]

theorem Query.step_eq_step_iff {query : Query} :
    query.step left = query.step right ↔ left.AgreeOn right (Node.query query).parts := by
  have hunion : query.union.map left.query = query.union.map right.query ↔
      ∀ next ∈ query.union, left.query next = right.query next := by
    cases query.union with
    | none => simp
    | some next => simp
  simp [step, Node.parts, Node.scanned, Node.unscanned, clauseParts, tailParts, selectList,
    filterList, Clause.map_eq_map_iff, NamedClause.map_eq_map_iff, ResultColumn.step_eq_step_iff,
    Group.step_eq_step_iff, OrderTerm.step_eq_step_iff, Limit.step_eq_step_iff, hunion]

end Agreement

section Idle

namespace Walk

/-- The walk that leaves everything as it is. -/
def idle : Walk := ⟨id, id, id⟩

@[simp] theorem idle_expr : idle.expr = id := rfl

@[simp] theorem idle_table : idle.table = id := rfl

@[simp] theorem idle_query : idle.query = id := rfl

@[simp] theorem idle_node (node : Node) : idle.node node = node := by
  cases node <;> rfl

end Walk

theorem Branch.step_idle : Branch.step .idle = id :=
  funext fun ⟨_, _⟩ => rfl

@[simp] theorem Expr.step_idle (expression : Expr) : expression.step .idle = expression := by
  cases expression <;> simp [step, Branch.step_idle]

theorem Join.step_idle : Join.step .idle = id := by
  funext ⟨kind, target, conditions⟩
  cases target <;> simp [step, JoinTarget.step]

@[simp] theorem Table.step_idle (table : Table) : table.step .idle = table := by
  obtain ⟨source, label, joins⟩ := table
  cases source <;> simp [step, Source.step, Join.step_idle]

@[simp] theorem Group.step_idle (group : Group) : group.step .idle = group := by
  cases group with
  | absent => rfl
  | name given => rfl
  | «by» grouping =>
      obtain ⟨terms, having⟩ := grouping
      simp [step, Grouping.step]

theorem Bound.step_idle : Bound.step .idle = id := by
  funext bound
  cases bound <;> rfl

@[simp] theorem Limit.step_idle (limit : Limit) : limit.step .idle = limit := by
  cases limit with
  | absent => rfl
  | rows count => rfl
  | window given =>
      obtain ⟨bound, offset⟩ := given
      simp [step, Window.step, Bound.step_idle]

@[simp] theorem Query.step_idle (query : Query) : query.step .idle = query := by
  obtain ⟨distinct, select, tables, filter, group, order, limit, union⟩ := query
  have hcolumn : ResultColumn.step .idle = id := funext fun ⟨_, _⟩ => rfl
  have hterm : OrderTerm.step .idle = id := funext fun ⟨_, _⟩ => rfl
  simp [step, hcolumn, hterm]

end Idle

section Composition

variable (first second : Walk)

/-- One walk after another. -/
def Walk.andThen : Walk :=
  ⟨second.expr ∘ first.expr, second.table ∘ first.table, second.query ∘ first.query⟩

namespace Walk

@[simp] theorem andThen_expr : (first.andThen second).expr = second.expr ∘ first.expr := rfl

@[simp] theorem andThen_table : (first.andThen second).table = second.table ∘ first.table := rfl

@[simp] theorem andThen_query : (first.andThen second).query = second.query ∘ first.query := rfl

@[simp] theorem andThen_node (node : Node) :
    (first.andThen second).node node = second.node (first.node node) := by
  cases node <;> rfl

end Walk

theorem Branch.step_comp_step :
    Branch.step second ∘ Branch.step first = Branch.step (first.andThen second) := rfl

theorem Expr.step_step (expression : Expr) :
    (expression.step first).step second = expression.step (first.andThen second) := by
  cases expression <;> simp [step, Branch.step_comp_step]

theorem Join.step_comp_step :
    Join.step second ∘ Join.step first = Join.step (first.andThen second) := by
  funext ⟨kind, target, conditions⟩
  cases target <;> simp [step, JoinTarget.step, Clause.map_map]

theorem Table.step_step (table : Table) :
    (table.step first).step second = table.step (first.andThen second) := by
  obtain ⟨source, label, joins⟩ := table
  cases source <;> simp [step, Source.step, Items.map_map, Join.step_comp_step]

theorem Group.step_step (group : Group) :
    (group.step first).step second = group.step (first.andThen second) := by
  cases group <;> simp [step, Grouping.step, Items.map_map, Clause.map_map]

theorem Bound.step_comp_step :
    Bound.step second ∘ Bound.step first = Bound.step (first.andThen second) := by
  funext bound
  cases bound <;> rfl

theorem Limit.step_step (limit : Limit) :
    (limit.step first).step second = limit.step (first.andThen second) := by
  cases limit <;> simp [step, Window.step, ← Bound.step_comp_step]

theorem Query.step_step (query : Query) :
    (query.step first).step second = query.step (first.andThen second) := by
  have hcolumn : ResultColumn.step second ∘ ResultColumn.step first =
      ResultColumn.step (first.andThen second) := rfl
  have hterm : OrderTerm.step second ∘ OrderTerm.step first =
      OrderTerm.step (first.andThen second) := rfl
  simp [step, Clause.map_map, NamedClause.map_map, Group.step_step, Limit.step_step, hcolumn, hterm]

end Composition

end QueryWeave

import QueryWeave.Proofs.Tree.Clause

/-!
Trees as nodes with parts.  The expressions, tables and queries that stand right under a node are
its parts, and everything in a tree is reached from part to part.  Main statement: `Node.induct`, a
property that passes from the parts of every node to the node holds throughout.
-/

namespace QueryWeave

inductive Node where
  | expr (expression : Expr)
  | table (table : Table)
  | query (query : Query)

def Branch.parts (branch : Branch) : List Node :=
  [.expr branch.guard, .expr branch.result]

def Expr.parts : Expr → List Node
  | .column _ _ | .value _ | .placeholder _ => []
  | .compare left _ right | .arithmetic left _ right => [.expr left, .expr right]
  | .between left _ low high => [.expr left, .expr low, .expr high]
  | .inList left _ right | .like left _ right | .regexp left _ right => [.expr left, .expr right]
  | .inQuery left _ query => [.expr left, .query query]
  | .regexpText left _ _ | .isNull left _ => [.expr left]
  | .branching branches otherwise =>
      branches.flatMap Branch.parts ++ otherwise.toList.map .expr
  | .call _ members | .conjunction members | .disjunction members => members.map .expr
  | .wrapped _ inner _ => [.expr inner]
  | .existence _ query | .scalar query => [.query query]

def Source.parts : Source → List Node
  | .name _ => []
  | .derived query => [.query query]

def JoinTarget.parts : JoinTarget → List Node
  | .name _ => []
  | .table joined => [.table joined]

def Join.parts (join : Join) : List Node :=
  join.target.parts ++ join.conditions.toList.map .expr

def Grouping.parts (grouping : Grouping) : List Node :=
  grouping.termList.map .expr ++ grouping.havingList.map .expr

def Group.parts : Group → List Node
  | .absent | .name _ => []
  | .by grouping => grouping.parts

def Bound.parts : Bound → List Node
  | .rows _ => []
  | .computed expression => [.expr expression]

def Window.parts (window : Window) : List Node :=
  window.limit.parts ++ window.offset.toList.flatMap Bound.parts

def Limit.parts : Limit → List Node
  | .absent | .rows _ => []
  | .window given => given.parts

namespace Query

/-- The parts of a query in the clauses that are scanned, in scan order. -/
def clauseParts (query : Query) : List Node :=
  query.selectList.map (.expr ·.expression) ++ query.tables.given.map .table ++
    query.filterList.map .expr ++ query.group.parts ++ query.order.given.map (.expr ·.expression)

def tailParts (query : Query) : List Node :=
  query.limit.parts ++ query.union.toList.map .query

end Query

namespace Node

/-- The parts that are looked into when a tree is scanned for placeholders, in order. -/
def scanned : Node → List Node
  | expr expression => expression.parts
  | table given => given.joinList.flatMap Join.parts
  | query given => given.clauseParts

/-- The other parts: derived tables, limits and unions. -/
def unscanned : Node → List Node
  | expr _ => []
  | table given => given.source.parts
  | query given => given.tailParts

def parts (node : Node) : List Node := node.scanned ++ node.unscanned

@[simp] theorem parts_expr (expression : Expr) : (expr expression).parts = expression.parts :=
  List.append_nil _

end Node

section Size

variable {α : Type} [SizeOf α] {item : α}

theorem Items.sizeOf_lt_of_mem {items : Items α} (h : item ∈ items.toList) :
    sizeOf item < sizeOf items := by
  cases items with
  | one other =>
      obtain rfl := List.mem_singleton.mp h
      simp
  | many items => exact Nat.lt_trans (List.sizeOf_lt_of_mem h) (by simp)

theorem Clause.sizeOf_lt_of_mem {clause : Clause α} (h : item ∈ clause.toList) :
    sizeOf item < sizeOf clause := by
  cases clause with
  | absent => cases h
  | one other =>
      obtain rfl := List.mem_singleton.mp h
      simp
  | many items => exact Nat.lt_trans (List.sizeOf_lt_of_mem h) (by simp)

theorem NamedClause.sizeOf_lt_of_mem {clause : NamedClause α} (h : item ∈ clause.given) :
    sizeOf item < sizeOf clause := by
  cases clause with
  | absent => cases h
  | name given => cases h
  | one other =>
      obtain rfl := List.mem_singleton.mp h
      simp
  | many items =>
      have : sizeOf item < sizeOf items := List.sizeOf_lt_of_mem h
      simp
      omega

end Size

section Parts

variable {part : Node}

theorem Expr.sizeOf_of_mem_map {members : List Expr} {bound : Nat}
    (hlt : ∀ member ∈ members, sizeOf member < bound) (h : part ∈ members.map Node.expr) :
    sizeOf part ≤ bound := by
  obtain ⟨member, hmem, rfl⟩ := List.mem_map.mp h
  have := hlt member hmem
  simp
  omega

theorem Branch.sizeOf_of_mem_parts {branch : Branch} (h : part ∈ branch.parts) :
    sizeOf part ≤ sizeOf branch := by
  obtain ⟨guard, result⟩ := branch
  revert part
  simp +arith [Branch.parts]

theorem Expr.sizeOf_of_mem_parts {expression : Expr} (h : part ∈ expression.parts) :
    sizeOf part ≤ sizeOf expression := by
  have hmembers (members : List Expr) (h : part ∈ members.map Node.expr) :
      sizeOf part ≤ sizeOf members :=
    sizeOf_of_mem_map (fun member => List.sizeOf_lt_of_mem) h
  cases expression with
  | branching branches otherwise =>
      rcases List.mem_append.mp h with hbranch | hother
      · obtain ⟨branch, hbranch, hpart⟩ := List.mem_flatMap.mp hbranch
        have hlt := List.sizeOf_lt_of_mem hbranch
        have := Branch.sizeOf_of_mem_parts hpart
        simp
        omega
      · cases otherwise with
        | none => cases hother
        | some other =>
            obtain rfl := List.mem_singleton.mp hother
            simp +arith
  | call name members => exact Nat.le_trans (hmembers members h) (by simp)
  | conjunction members => exact Nat.le_trans (hmembers members h) (by simp)
  | disjunction members => exact Nat.le_trans (hmembers members h) (by simp)
  | _ =>
      clear hmembers
      revert part
      simp +arith [Expr.parts]

theorem Source.sizeOf_of_mem_parts {source : Source} (h : part ∈ source.parts) :
    sizeOf part ≤ sizeOf source := by
  cases source with
  | name name => cases h
  | derived query =>
      obtain rfl := List.mem_singleton.mp h
      simp

theorem Join.sizeOf_of_mem_parts {join : Join} (h : part ∈ join.parts) :
    sizeOf part ≤ sizeOf join := by
  obtain ⟨kind, target, conditions⟩ := join
  rcases List.mem_append.mp h with htarget | hcondition
  · cases target with
    | name name => cases htarget
    | table joined =>
        obtain rfl := List.mem_singleton.mp htarget
        simp +arith
  · have : sizeOf part ≤ sizeOf conditions :=
      Expr.sizeOf_of_mem_map (fun member => Clause.sizeOf_lt_of_mem) hcondition
    simp
    omega

theorem Group.sizeOf_of_mem_parts {group : Group} (h : part ∈ group.parts) :
    sizeOf part ≤ sizeOf group := by
  cases group with
  | absent => cases h
  | name name => cases h
  | «by» grouping =>
      obtain ⟨terms, having⟩ := grouping
      rcases List.mem_append.mp h with hterm | hcondition
      · have : sizeOf part ≤ sizeOf terms :=
          Expr.sizeOf_of_mem_map (fun member => Items.sizeOf_lt_of_mem) hterm
        simp
        omega
      · have : sizeOf part ≤ sizeOf having :=
          Expr.sizeOf_of_mem_map (fun member => Clause.sizeOf_lt_of_mem) hcondition
        simp
        omega

theorem Bound.sizeOf_of_mem_parts {bound : Bound} (h : part ∈ bound.parts) :
    sizeOf part ≤ sizeOf bound := by
  cases bound with
  | rows count => cases h
  | computed expression =>
      obtain rfl := List.mem_singleton.mp h
      simp

theorem Limit.sizeOf_of_mem_parts {limit : Limit} (h : part ∈ limit.parts) :
    sizeOf part ≤ sizeOf limit := by
  cases limit with
  | absent => cases h
  | rows count => cases h
  | window given =>
      obtain ⟨bound, offset⟩ := given
      rcases List.mem_append.mp h with hbound | hoffset
      · have : sizeOf part ≤ sizeOf bound := Bound.sizeOf_of_mem_parts hbound
        simp
        omega
      · obtain ⟨shift, hshift, hpart⟩ := List.mem_flatMap.mp hoffset
        obtain rfl : offset = some shift := Option.mem_toList.mp hshift
        have := Bound.sizeOf_of_mem_parts hpart
        simp
        omega

theorem Table.sizeOf_of_mem_parts {table : Table} (h : part ∈ (Node.table table).parts) :
    sizeOf part ≤ sizeOf table := by
  obtain ⟨source, label, joins⟩ := table
  rcases List.mem_append.mp h with hjoin | hsource
  · obtain ⟨join, hmem, hpart⟩ := List.mem_flatMap.mp hjoin
    have : sizeOf join < sizeOf joins := Items.sizeOf_lt_of_mem hmem
    have := Join.sizeOf_of_mem_parts hpart
    simp
    omega
  · have : sizeOf part ≤ sizeOf source := Source.sizeOf_of_mem_parts hsource
    simp
    omega

theorem Query.sizeOf_of_mem_parts {query : Query} (h : part ∈ (Node.query query).parts) :
    sizeOf part ≤ sizeOf query := by
  obtain ⟨distinct, select, tables, filter, group, order, limit, union⟩ := query
  simp only [Node.parts, Node.scanned, Node.unscanned, clauseParts, tailParts, List.mem_append,
    List.mem_map, or_assoc] at h
  rcases h with ⟨⟨expression, label⟩, hmem, rfl⟩ | ⟨table, hmem, rfl⟩ | ⟨condition, hmem, rfl⟩ |
    hgroup | ⟨⟨expression, direction⟩, hmem, rfl⟩ | hlimit | ⟨next, hmem, rfl⟩
  · have : sizeOf (ResultColumn.mk expression label) < sizeOf select :=
      Clause.sizeOf_lt_of_mem hmem
    simp at this ⊢
    omega
  · have : sizeOf table < sizeOf tables := NamedClause.sizeOf_lt_of_mem hmem
    simp
    omega
  · have : sizeOf condition < sizeOf filter := Clause.sizeOf_lt_of_mem hmem
    simp
    omega
  · have := Group.sizeOf_of_mem_parts hgroup
    simp
    omega
  · have : sizeOf (OrderTerm.mk expression direction) < sizeOf order :=
      NamedClause.sizeOf_lt_of_mem hmem
    simp at this ⊢
    omega
  · have : sizeOf part ≤ sizeOf limit := Limit.sizeOf_of_mem_parts hlimit
    simp
    omega
  · obtain rfl : union = some next := Option.mem_toList.mp hmem
    simp

end Parts

namespace Node

theorem sizeOf_lt_of_mem_parts {part node : Node} (h : part ∈ node.parts) :
    sizeOf part < sizeOf node := by
  cases node with
  | expr expression =>
      rw [parts_expr] at h
      have := Expr.sizeOf_of_mem_parts h
      simp
      omega
  | table given =>
      have := Table.sizeOf_of_mem_parts h
      simp
      omega
  | query given =>
      have := Query.sizeOf_of_mem_parts h
      simp
      omega

theorem scanned_subset_parts (node : Node) : node.scanned ⊆ node.parts :=
  List.subset_append_left _ _

/-- Induction on a tree, from the parts of a node to the node. -/
theorem induct {motive : Node → Prop}
    (step : ∀ node, (∀ part ∈ node.parts, motive part) → motive node) (node : Node) :
    motive node :=
  step node fun part _ => induct step part
termination_by sizeOf node
decreasing_by exact sizeOf_lt_of_mem_parts ‹_›

/-- A node and everything below it. -/
def all (node : Node) : List Node :=
  node :: node.parts.attach.flatMap fun part => part.1.all
termination_by sizeOf node
decreasing_by exact sizeOf_lt_of_mem_parts part.2

/-- A node and everything below it that a scan comes to, in scan order. -/
def seen (node : Node) : List Node :=
  node :: node.scanned.attach.flatMap fun part => part.1.seen
termination_by sizeOf node
decreasing_by exact sizeOf_lt_of_mem_parts (node.scanned_subset_parts part.2)

theorem all_eq (node : Node) : node.all = node :: node.parts.flatMap all := by
  rw [all]
  simp only [List.flatMap_subtype, List.unattach_attach]

theorem seen_eq (node : Node) : node.seen = node :: node.scanned.flatMap seen := by
  rw [seen]
  simp only [List.flatMap_subtype, List.unattach_attach]

theorem forall_mem_all_iff {node : Node} {property : Node → Prop} :
    (∀ other ∈ node.all, property other) ↔
      property node ∧ ∀ part ∈ node.parts, ∀ other ∈ part.all, property other := by
  rw [all_eq, List.forall_mem_cons, List.forall_mem_flatMap]

end Node

end QueryWeave

import QueryWeave.Proofs.Tree.Node
import Mathlib.Data.List.Perm.Basic

namespace QueryWeave

namespace Node

/-- What the scan of a node finds. -/
def placeholders : Node → List Datum
  | expr expression => expression.placeholders
  | table given => given.placeholders
  | query given => given.placeholders

/-- What a node holds if it is a placeholder. -/
def held? : Node → Option Datum
  | expr (.placeholder held) => some held
  | _ => none

end Node

def Branch.placeholders (branch : Branch) : List Datum :=
  branch.guard.placeholders ++ branch.result.placeholders

section Clauses

@[simp] theorem Expr.placeholdersAll_eq (expressions : List Expr) :
    Expr.placeholdersAll expressions = expressions.flatMap Expr.placeholders :=
  eq_flatMap_of_cons rfl (fun _ _ => rfl) expressions

@[simp] theorem Expr.placeholdersOption_eq (expression : Option Expr) :
    Expr.placeholdersOption expression = expression.toList.flatMap Expr.placeholders := by
  cases expression <;> simp [placeholdersOption]

@[simp] theorem Expr.placeholdersItems_eq (items : Items Expr) :
    Expr.placeholdersItems items = items.toList.flatMap Expr.placeholders := by
  cases items <;> simp [placeholdersItems]

@[simp] theorem Expr.placeholdersClause_eq (clause : Clause Expr) :
    Expr.placeholdersClause clause = clause.toList.flatMap Expr.placeholders := by
  cases clause <;> simp [placeholdersClause]

@[simp] theorem Branch.placeholdersAll_eq (branches : List Branch) :
    Branch.placeholdersAll branches = branches.flatMap Branch.placeholders :=
  eq_flatMap_of_cons rfl (fun ⟨_, _⟩ _ => rfl) branches

@[simp] theorem ResultColumn.placeholdersAll_eq (columns : List ResultColumn) :
    ResultColumn.placeholdersAll columns = columns.flatMap ResultColumn.placeholders :=
  eq_flatMap_of_cons rfl (fun _ _ => rfl) columns

@[simp] theorem ResultColumn.placeholdersClause_eq (clause : Clause ResultColumn) :
    ResultColumn.placeholdersClause clause =
      clause.toList.flatMap ResultColumn.placeholders := by
  cases clause <;> simp [placeholdersClause]

@[simp] theorem Table.placeholdersAll_eq (tables : List Table) :
    Table.placeholdersAll tables = tables.flatMap Table.placeholders :=
  eq_flatMap_of_cons rfl (fun _ _ => rfl) tables

@[simp] theorem Table.placeholdersClause_eq (clause : NamedClause Table) :
    Table.placeholdersClause clause = clause.given.flatMap Table.placeholders := by
  cases clause <;> simp [placeholdersClause, NamedClause.given]

@[simp] theorem Join.placeholdersAll_eq (joins : List Join) :
    Join.placeholdersAll joins = joins.flatMap Join.placeholders :=
  eq_flatMap_of_cons rfl (fun _ _ => rfl) joins

@[simp] theorem Join.placeholdersItems_eq (items : Items Join) :
    Join.placeholdersItems items = items.toList.flatMap Join.placeholders := by
  cases items <;> simp [placeholdersItems]

@[simp] theorem OrderTerm.placeholdersAll_eq (terms : List OrderTerm) :
    OrderTerm.placeholdersAll terms = terms.flatMap OrderTerm.placeholders :=
  eq_flatMap_of_cons rfl (fun _ _ => rfl) terms

@[simp] theorem OrderTerm.placeholdersClause_eq (clause : NamedClause OrderTerm) :
    OrderTerm.placeholdersClause clause = clause.given.flatMap OrderTerm.placeholders := by
  cases clause <;> simp [placeholdersClause, NamedClause.given]

end Clauses

/-! What is found in a node is found in its parts. -/

theorem Branch.placeholders_eq_parts (branch : Branch) :
    branch.placeholders = branch.parts.flatMap Node.placeholders := by
  simp [placeholders, parts, Node.placeholders]

theorem Join.placeholders_eq_parts (join : Join) :
    join.placeholders = join.parts.flatMap Node.placeholders := by
  obtain ⟨kind, target, conditions⟩ := join
  cases target <;>
    simp [placeholders, JoinTarget.placeholders, parts, JoinTarget.parts, List.flatMap_map,
      Node.placeholders]

theorem Group.placeholders_eq_parts (group : Group) :
    group.placeholders = group.parts.flatMap Node.placeholders := by
  cases group with
  | absent => rfl
  | name given => rfl
  | «by» grouping =>
      obtain ⟨terms, having⟩ := grouping
      simp [placeholders, Grouping.placeholders, parts, Grouping.parts, Grouping.termList,
        Grouping.havingList, List.flatMap_map, Node.placeholders]

theorem Expr.placeholders_eq_parts (expression : Expr) :
    expression.placeholders =
      (Node.expr expression).held?.toList ++ expression.parts.flatMap Node.placeholders := by
  cases expression <;>
    simp [placeholders, parts, List.flatMap_map, List.flatMap_assoc, Node.placeholders,
      Node.held?, ← Branch.placeholders_eq_parts]

theorem Table.placeholders_eq_parts (table : Table) :
    table.placeholders = (Node.table table).scanned.flatMap Node.placeholders := by
  obtain ⟨source, label, joins⟩ := table
  simp [placeholders, Node.scanned, joinList, List.flatMap_assoc, ← Join.placeholders_eq_parts]

theorem Query.placeholders_eq_parts (query : Query) :
    query.placeholders = query.clauseParts.flatMap Node.placeholders := by
  obtain ⟨distinct, select, tables, filter, group, order, limit, union⟩ := query
  have hcolumn : ResultColumn.placeholders = fun column => column.expression.placeholders :=
    funext fun ⟨_, _⟩ => rfl
  have hterm : OrderTerm.placeholders = fun term => term.expression.placeholders :=
    funext fun ⟨_, _⟩ => rfl
  simp [placeholders, clauseParts, selectList, filterList, List.flatMap_map, Node.placeholders,
    Group.placeholders_eq_parts, hcolumn, hterm]

namespace Node

theorem placeholders_eq (node : Node) :
    node.placeholders = node.held?.toList ++ node.scanned.flatMap placeholders := by
  cases node with
  | expr expression => exact expression.placeholders_eq_parts
  | table given => exact given.placeholders_eq_parts
  | query given => exact given.placeholders_eq_parts

/-- Everything that placeholders anywhere in a tree hold. -/
def held (node : Node) : List Datum := node.all.filterMap held?

/-- The parts that a scan leaves aside, wherever it comes by. -/
def aside (node : Node) : List Node := node.seen.flatMap unscanned

theorem held_eq (node : Node) :
    node.held = node.held?.toList ++ node.parts.flatMap held := by
  have hbelow : (node.parts.flatMap all).filterMap held? = node.parts.flatMap held :=
    List.filterMap_flatMap
  rw [held, all_eq, List.filterMap_cons, hbelow]
  cases node.held? <;> rfl

theorem aside_eq (node : Node) :
    node.aside = node.unscanned ++ node.scanned.flatMap aside := by
  have hbelow : (node.scanned.flatMap seen).flatMap unscanned = node.scanned.flatMap aside :=
    List.flatMap_assoc
  rw [aside, seen_eq, List.flatMap_cons, hbelow]

/-- A scan finds what the placeholders it comes to hold, in order. -/
theorem placeholders_eq_seen (node : Node) : node.placeholders = node.seen.filterMap held? := by
  induction node using Node.induct with
  | step node ih =>
      have hbelow : (node.scanned.flatMap seen).filterMap held? =
          node.scanned.flatMap placeholders := by
        rw [List.filterMap_flatMap]
        exact List.flatMap_congr fun part hpart =>
          (ih part (node.scanned_subset_parts hpart)).symm
      rw [placeholders_eq, seen_eq, List.filterMap_cons, hbelow]
      cases node.held? <;> rfl

/-- Nothing is lost or found twice: what a scan does not find is in the parts it leaves aside. -/
theorem held_perm (node : Node) :
    node.held.Perm (node.placeholders ++ node.aside.flatMap held) := by
  induction node using Node.induct with
  | step node ih =>
      have hscanned : (node.scanned.flatMap held).Perm
          (node.scanned.flatMap placeholders ++
            (node.scanned.flatMap aside).flatMap held) := by
        rw [List.flatMap_assoc]
        refine (List.Perm.flatMap_left _ fun part hpart =>
          ih part (node.scanned_subset_parts hpart)).trans ?_
        exact (List.flatMap_append_perm _ _ _).symm
      rw [held_eq, placeholders_eq, aside_eq, parts, List.flatMap_append, List.flatMap_append,
        List.append_assoc]
      refine List.Perm.append_left _ ?_
      refine (hscanned.append_right _).trans ?_
      rw [List.append_assoc]
      exact List.Perm.append_left _ List.perm_append_comm

theorem placeholders_perm_held_iff (node : Node) :
    node.placeholders.Perm node.held ↔ ∀ part ∈ node.aside, part.held = [] := by
  rw [← List.flatMap_eq_nil_iff]
  have hperm := node.held_perm
  constructor
  · intro h
    have hlength := (h.trans hperm).length_eq
    rw [List.length_append] at hlength
    exact List.eq_nil_of_length_eq_zero (by omega)
  · intro h
    rw [h, List.append_nil] at hperm
    exact hperm.symm

end Node

end QueryWeave

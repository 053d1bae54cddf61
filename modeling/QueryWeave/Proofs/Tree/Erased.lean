import QueryWeave.Proofs.Tree.Escape
import QueryWeave.Proofs.Tree.Fill

namespace QueryWeave

namespace Expr

/-- A placeholder that holds nothing; other expressions are left alone. -/
def emptied : Expr → Expr
  | .placeholder _ => .placeholder .null
  | expression => expression

def erased (expression : Expr) : Expr := expression.recast fun _ => emptied

end Expr

/-- The query with nothing in its placeholders. -/
def Query.erased (query : Query) : Query := query.recast fun _ => Expr.emptied

namespace Walk

def erase : Walk := recast fun _ => Expr.emptied

@[simp] theorem erase_expr : erase.expr = Expr.erased := rfl

end Walk

theorem Expr.erased_eq_step (expression : Expr) :
    expression.erased = (expression.step .erase).emptied :=
  recast_eq_step _ expression

theorem Table.erase_eq_step (table : Table) : Walk.erase.table table = table.step .erase :=
  recast_eq_step _ table

theorem Query.erase_eq_step (query : Query) : Walk.erase.query query = query.step .erase :=
  recast_eq_step _ query

section Fill

variable {walk : Walk} {supply : Supply}

/-- The walk does not see what is put into the parts of a list. -/
def Walk.BlindOn (walk : Walk) (parts : List Node) : Prop :=
  ∀ part ∈ parts, ∀ supply, walk.node (part.fill supply) = walk.node part

namespace Walk

@[simp] theorem blindOn_append {first second : List Node} :
    walk.BlindOn (first ++ second) ↔ walk.BlindOn first ∧ walk.BlindOn second :=
  List.forall_mem_append

@[simp] theorem blindOn_map {α : Type} {items : List α} {part : α → Node} :
    walk.BlindOn (items.map part) ↔
      ∀ item ∈ items, ∀ supply, walk.node ((part item).fill supply) = walk.node (part item) :=
  List.forall_mem_map

@[simp] theorem blindOn_flatMap {α : Type} {items : List α} {parts : α → List Node} :
    walk.BlindOn (items.flatMap parts) ↔ ∀ item ∈ items, walk.BlindOn (parts item) :=
  List.forall_mem_flatMap

@[simp] theorem blindOn_nil : walk.BlindOn [] :=
  fun _ h => absurd h List.not_mem_nil

@[simp] theorem blindOn_cons {part : Node} {rest : List Node} :
    walk.BlindOn (part :: rest) ↔
      (∀ supply, walk.node (part.fill supply) = walk.node part) ∧ walk.BlindOn rest :=
  List.forall_mem_cons

end Walk

theorem Branch.step_fill {branch : Branch} (h : walk.BlindOn branch.parts) (supply : Supply) :
    (branch.fill supply).step walk = branch.step walk := by
  simp [parts, Node.fill] at h
  simp [fill, step, h]

theorem Expr.step_fill {expression : Expr} (h : walk.BlindOn expression.parts)
    (hheld : (Node.expr expression).held? = none) :
    (expression.fill supply).step walk = expression.step walk := by
  cases expression with
  | placeholder held => simp [Node.held?] at hheld
  | branching branches otherwise =>
      rw [parts, Walk.blindOn_append, Walk.blindOn_flatMap] at h
      obtain ⟨hbranches, hother⟩ := h
      have hsame : (deal Branch.fill Branch.placeholders branches supply).map (Branch.step walk) =
          branches.map (Branch.step walk) :=
        map_deal_eq (fun branch hmem => Branch.step_fill (hbranches branch hmem)) supply
      cases otherwise with
      | none => simp [fill, step, hsame]
      | some other =>
          simp [Node.fill] at hother
          simp [fill, step, hsame, hother]
  | call name members =>
      simp [parts, Node.fill] at h
      simp [fill, step, map_deal_eq h]
  | conjunction members =>
      simp [parts, Node.fill] at h
      simp [fill, step, map_deal_eq h]
  | disjunction members =>
      simp [parts, Node.fill] at h
      simp [fill, step, map_deal_eq h]
  | _ =>
      simp [parts, Node.fill] at h
      simp [fill, step, h]

theorem Join.step_fill {join : Join} (h : walk.BlindOn join.parts) (supply : Supply) :
    (join.fill supply).step walk = join.step walk := by
  obtain ⟨kind, target, conditions⟩ := join
  rw [parts, Walk.blindOn_append] at h
  obtain ⟨htarget, hconditions⟩ := h
  simp [Node.fill] at hconditions
  cases target with
  | name name => simp [fill, step, JoinTarget.fill, JoinTarget.step, Clause.map_deal_eq hconditions]
  | table joined =>
      simp [JoinTarget.parts, Node.fill] at htarget
      simp [fill, step, JoinTarget.fill, JoinTarget.step, Clause.map_deal_eq hconditions, htarget]

theorem Table.step_fill {table : Table} (h : walk.BlindOn (Node.table table).scanned) :
    (table.fill supply).step walk = table.step walk := by
  obtain ⟨source, label, joins⟩ := table
  rw [Node.scanned, Walk.blindOn_flatMap] at h
  simp [fill, step, Items.map_deal_eq fun join hmem => Join.step_fill (h join hmem)]

theorem Group.step_fill {group : Group} (h : walk.BlindOn group.parts) :
    (group.fill supply).step walk = group.step walk := by
  cases group with
  | absent => rfl
  | name given => rfl
  | «by» grouping =>
      obtain ⟨terms, having⟩ := grouping
      rw [parts, Grouping.parts, Walk.blindOn_append] at h
      obtain ⟨hterms, hhaving⟩ := h
      simp [Node.fill, Grouping.termList] at hterms
      simp [Node.fill, Grouping.havingList] at hhaving
      simp [fill, Grouping.fill, step, Grouping.step, Items.map_deal_eq hterms,
        Clause.map_deal_eq hhaving]

theorem Query.step_fill {query : Query} (h : walk.BlindOn query.clauseParts) :
    (query.fill supply).step walk = query.step walk := by
  obtain ⟨distinct, select, tables, filter, group, order, limit, union⟩ := query
  simp only [clauseParts, Walk.blindOn_append, Walk.blindOn_map, Node.fill,
    Walk.node_expr_eq_iff, Walk.node_table_eq_iff] at h
  obtain ⟨⟨⟨⟨hselect, htables⟩, hfilter⟩, hgroup⟩, horder⟩ := h
  have hcolumn : ∀ column ∈ select.toList, ∀ supply,
      (ResultColumn.fill column supply).step walk = column.step walk := by
    rintro ⟨expression, label⟩ hmem supply
    simp [ResultColumn.fill, ResultColumn.step, hselect _ hmem supply]
  have hterm : ∀ term ∈ order.given, ∀ supply,
      (OrderTerm.fill term supply).step walk = term.step walk := by
    rintro ⟨expression, direction⟩ hmem supply
    simp [OrderTerm.fill, OrderTerm.step, horder _ hmem supply]
  simp [fill, step, Clause.map_deal_eq hcolumn, NamedClause.map_deal_eq htables,
    Clause.map_deal_eq hfilter, Group.step_fill hgroup, NamedClause.map_deal_eq hterm]

end Fill

namespace Node

/-- What is put into placeholders does not show once they are emptied. -/
theorem erase_fill (node : Node) (supply : Supply) :
    Walk.erase.node (node.fill supply) = Walk.erase.node node := by
  induction node using Node.induct generalizing supply with
  | step node ih =>
      have hblind : Walk.erase.BlindOn node.scanned :=
        fun part hpart => ih part (node.scanned_subset_parts hpart)
      cases node with
      | expr expression =>
          rw [fill, Walk.node_expr_eq_iff, Walk.erase_expr]
          cases hheld : (Node.expr expression).held? with
          | none =>
              rw [Expr.erased_eq_step, Expr.step_fill hblind hheld, ← Expr.erased_eq_step]
          | some held =>
              unfold held? at hheld
              split at hheld
              next heq =>
                cases heq
                cases supply <;> rfl
              next => cases hheld
      | table given =>
          rw [fill, Walk.node_table_eq_iff, Table.erase_eq_step, Table.step_fill hblind,
            ← Table.erase_eq_step]
      | query given =>
          rw [fill, Walk.node_query_eq_iff, Query.erase_eq_step, Query.step_fill hblind,
            ← Query.erase_eq_step]

end Node

theorem Query.erased_fill (query : Query) (supply : Supply) :
    (query.fill supply).erased = query.erased :=
  Walk.node_query_eq_iff.mp (Node.erase_fill (.query query) supply)

section Escape

theorem Expr.erased_escapeLiteral (expression : Expr) :
    expression.escapeLiteral.erased = expression.erased.escapeLiteral := by
  cases expression <;> rfl

theorem Expr.erased_escapePatterns_of_parts {expression : Expr}
    (h : (Walk.escape.andThen .erase).AgreeOn (Walk.erase.andThen .escape) expression.parts) :
    expression.escapePatterns.erased = expression.erased.escapePatterns := by
  have hstep := step_eq_step_iff.mpr h
  rw [← step_step, ← step_step] at hstep
  cases expression with
  | placeholder held => rfl
  | like left negated right =>
      simp only [step, like.injEq] at hstep
      exact congrArg (like · negated right.erased) hstep.1
  | regexp left negated right =>
      simp only [step, regexp.injEq, true_and] at hstep
      obtain ⟨hleft, hright⟩ := hstep
      have hliteral : right.escapePatterns.escapeLiteral.erased =
          right.erased.escapePatterns.escapeLiteral :=
        right.escapePatterns.erased_escapeLiteral.trans (congrArg escapeLiteral hright)
      exact congrArg₂ (regexp · negated) hleft hliteral
  | regexpText left negated pattern =>
      simp only [step, regexpText.injEq, and_true] at hstep
      exact congrArg (regexpText · negated (Text.Pattern.escape pattern)) hstep
  | _ =>
      rw [escapePatterns_eq_step, erased_eq_step, erased_eq_step, escapePatterns_eq_step]
      exact hstep

/-- Emptying the placeholders of an escaped node escapes the emptied node. -/
theorem Node.erase_escape (node : Node) :
    Walk.erase.node (Walk.escape.node node) = Walk.escape.node (Walk.erase.node node) := by
  induction node using Node.induct with
  | step node ih =>
      have hagree : (Walk.escape.andThen .erase).AgreeOn (Walk.erase.andThen .escape)
          node.parts := by
        intro part hpart
        rw [Walk.andThen_node, Walk.andThen_node]
        exact ih part hpart
      cases node with
      | expr expression =>
          rw [parts_expr] at hagree
          exact congrArg expr (Expr.erased_escapePatterns_of_parts hagree)
      | table given =>
          have hstep := Table.step_eq_step_iff.mpr hagree
          rw [← Table.step_step, ← Table.step_step] at hstep
          simp only [Walk.node, Table.escape_eq_step, Table.erase_eq_step, hstep]
      | query given =>
          have hstep := Query.step_eq_step_iff.mpr hagree
          rw [← Query.step_step, ← Query.step_step] at hstep
          simp only [Walk.node, Query.escape_eq_step, Query.erase_eq_step, hstep]

end Escape

theorem Query.erased_escapePatterns (query : Query) :
    query.escapePatterns.erased = query.erased.escapePatterns :=
  Walk.node_query_eq_iff.mp (Node.erase_escape (.query query))

end QueryWeave

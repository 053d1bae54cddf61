import QueryWeave.Proofs.Tree.Escape

/-!
Which patterns are escaped.  Main statement: `Query.escapePatterns_eq_escaped_iff`, all of them are,
unless the right side of a `LIKE` holds one that escaping changes.
-/

namespace QueryWeave

namespace Expr

/-- A value or a placeholder. -/
def isLiteral : Expr → Bool
  | .value _ | .placeholder _ => true
  | _ => false

/-- The expression with every pattern in it escaped. -/
def escaped (expression : Expr) : Expr := expression.recast fun _ => escapeHere

variable {expression left right : Expr}

theorem escapeLiteral_of_not_isLiteral (h : expression.isLiteral = false) :
    expression.escapeLiteral = expression := by
  cases expression <;> first | rfl | cases h

theorem isLiteral_escapePatterns : expression.escapePatterns.isLiteral = expression.isLiteral := by
  cases expression <;> rfl

theorem isLiteral_escaped : expression.escaped.isLiteral = expression.isLiteral := by
  cases expression <;> rfl

theorem escapePatterns_of_isLiteral (h : expression.isLiteral = true) :
    expression.escapePatterns = expression := by
  cases expression <;> first | rfl | cases h

theorem escaped_of_isLiteral (h : expression.isLiteral = true) :
    expression.escaped = expression := by
  cases expression <;> first | rfl | cases h

/-- The escaping of a literal tells apart what is no literal. -/
theorem escapeLiteral_eq_iff (hkind : left.isLiteral = right.isLiteral)
    (hliteral : right.isLiteral = true → left = right) :
    left.escapeLiteral = right.escapeLiteral ↔ left = right := by
  constructor
  · intro h
    cases hright : right.isLiteral with
    | true => exact hliteral hright
    | false =>
        rw [escapeLiteral_of_not_isLiteral (hkind.trans hright),
          escapeLiteral_of_not_isLiteral hright] at h
        exact h
  · exact congrArg escapeLiteral

end Expr

namespace Walk

def escapeAll : Walk := recast fun _ => Expr.escapeHere

@[simp] theorem escapeAll_expr : escapeAll.expr = Expr.escaped := rfl

end Walk

theorem Table.escapeAll_eq_step (table : Table) :
    Walk.escapeAll.table table = table.step .escapeAll :=
  recast_eq_step _ table

theorem Query.escapeAll_eq_step (query : Query) :
    Walk.escapeAll.query query = query.step .escapeAll :=
  recast_eq_step _ query

namespace Expr

variable {expression : Expr}

theorem escaped_eq_step : expression.escaped = (expression.step .escapeAll).escapeHere :=
  recast_eq_step _ expression

theorem escapeRule_of_not_like (h : ∀ left negated right, expression ≠ .like left negated right)
    (rewritten : Expr) : escapeRule expression rewritten = rewritten.escapeHere := by
  unfold escapeRule
  split
  next left negated right _ _ _ => exact absurd rfl (h left negated right)
  next => rfl

/-- Up to the pattern of a match itself, both escapings agree where they agree on the parts. -/
theorem escapeHere_step_eq_iff :
    (expression.step .escape).escapeHere = (expression.step .escapeAll).escapeHere ↔
      expression.step .escape = expression.step .escapeAll := by
  cases expression with
  | regexp left negated right =>
      have hkind : right.escapePatterns.isLiteral = right.escaped.isLiteral :=
        isLiteral_escapePatterns.trans isLiteral_escaped.symm
      have hliteral (h : right.escaped.isLiteral = true) :
          right.escapePatterns = right.escaped := by
        rw [isLiteral_escaped] at h
        rw [escapePatterns_of_isLiteral h, escaped_of_isLiteral h]
      simp [step, escapeHere, escapeLiteral_eq_iff hkind hliteral]
  | regexpText left negated pattern => simp [step, escapeHere]
  | _ => rfl

theorem step_escapeAll_of_escaped (h : expression.escaped = expression) :
    expression.step .escapeAll = expression := by
  rw [escaped_eq_step] at h
  cases expression with
  | regexp left negated right =>
      simp only [step, escapeHere, regexp.injEq, true_and] at h ⊢
      refine ⟨h.1, ?_⟩
      cases hright : right.isLiteral with
      | true => exact escaped_of_isLiteral hright
      | false =>
          have hsame := escapeLiteral_of_not_isLiteral (isLiteral_escaped.trans hright)
          exact hsame.symm.trans h.2
  | regexpText left negated pattern =>
      simp only [step, escapeHere, regexpText.injEq, true_and, and_true] at h ⊢
      exact h.1
  | _ => exact h

end Expr

namespace Node

/-- The right side of a `LIKE` stays as it is when every pattern is escaped. -/
def LikeSettled : Node → Prop
  | .expr (.like _ _ right) => right.escaped = right
  | _ => True

/-- What stays as it is does so in every part. -/
theorem escapeAll_part {node : Node} (h : Walk.escapeAll.node node = node) :
    ∀ part ∈ node.parts, Walk.escapeAll.node part = part := by
  have hagree : Walk.escapeAll.AgreeOn .idle node.parts := by
    cases node with
    | expr expression =>
        rw [parts_expr, ← Expr.step_eq_step_iff, Expr.step_idle]
        exact Expr.step_escapeAll_of_escaped (expr.inj h)
    | table given =>
        rw [← Table.step_eq_step_iff, Table.step_idle]
        exact given.escapeAll_eq_step.symm.trans (table.inj h)
    | query given =>
        rw [← Query.step_eq_step_iff, Query.step_idle]
        exact given.escapeAll_eq_step.symm.trans (query.inj h)
  exact fun part hpart => (hagree part hpart).trans (Walk.idle_node part)

theorem likeSettled_of_escapeAll {node : Node} (h : Walk.escapeAll.node node = node) :
    ∀ other ∈ node.all, other.LikeSettled := by
  induction node using Node.induct with
  | step node ih =>
      have hparts := escapeAll_part h
      rw [forall_mem_all_iff]
      refine ⟨?_, fun part hpart => ih part hpart (hparts part hpart)⟩
      unfold LikeSettled
      split
      next left negated right => exact expr.inj (hparts (.expr right) (by simp [Expr.parts]))
      next => trivial

/-- The escaping escapes every pattern exactly where no right side of a `LIKE` holds one that it
changes. -/
theorem escape_eq_escapeAll_iff (node : Node) :
    Walk.escape.node node = Walk.escapeAll.node node ↔ ∀ other ∈ node.all, other.LikeSettled := by
  induction node using Node.induct with
  | step node ih =>
      have hbelow : Walk.escape.AgreeOn .escapeAll node.parts ↔
          ∀ part ∈ node.parts, ∀ other ∈ part.all, other.LikeSettled :=
        forall₂_congr ih
      rw [forall_mem_all_iff, ← hbelow]
      -- One step of each walk is compared: they agree on a node if they agree on its parts, and
      -- on a `LIKE` only if nothing happens on its right side.
      cases node with
      | table given =>
          rw [Walk.node_table_eq_iff, ← Table.step_eq_step_iff, Table.escape_eq_step,
            Table.escapeAll_eq_step]
          exact (and_iff_right trivial).symm
      | query given =>
          rw [Walk.node_query_eq_iff, ← Query.step_eq_step_iff, Query.escape_eq_step,
            Query.escapeAll_eq_step]
          exact (and_iff_right trivial).symm
      | expr expression =>
          rw [Walk.node_expr_eq_iff, Walk.escape_expr, Walk.escapeAll_expr, parts_expr,
            Expr.escapePatterns_eq_step, Expr.escaped_eq_step]
          cases expression with
          | like left negated right =>
              -- The right side is not walked, so it has to be settled as a whole.
              have hright : Expr.escaped right = right → right.escapePatterns = right.escaped := by
                intro hsettled
                have hagree := ih (.expr right) (by simp [Expr.parts])
                rw [Walk.node_expr_eq_iff] at hagree
                exact hagree.mpr (likeSettled_of_escapeAll (congrArg Node.expr hsettled))
              simp only [Expr.step, Expr.escapeRule, Expr.escapeHere, Expr.like.injEq, true_and,
                Expr.parts, Walk.agreeOn_cons, Walk.agreeOn_nil, Walk.node_expr_eq_iff,
                Walk.escape_expr, Walk.escapeAll_expr, and_true, LikeSettled]
              constructor
              · rintro ⟨hleft, hsettled⟩
                exact ⟨hsettled.symm, hleft, hright hsettled.symm⟩
              · rintro ⟨hsettled, hleft, _⟩
                exact ⟨hleft, hsettled.symm⟩
          | _ =>
              rw [Expr.escapeRule_of_not_like (by simp), Expr.escapeHere_step_eq_iff,
                Expr.step_eq_step_iff]
              exact (and_iff_right trivial).symm

end Node

/-- The query with every pattern in it escaped. -/
def Query.escaped (query : Query) : Query := query.recast fun _ => Expr.escapeHere

namespace Query

/-- The escaping follows one rule everywhere, and it escapes every pattern exactly where no right
side of a `LIKE` holds one that escaping changes. -/
theorem escapePatterns_eq_escaped_iff (query : Query) :
    query.escapePatterns = query.recast Expr.escapeRule ∧
      (query.escapePatterns = query.escaped ↔
        ∀ left negated right, .expr (.like left negated right) ∈ (Node.query query).all →
          right.escaped = right) := by
  refine ⟨query.escapePatterns_eq_recast, ?_⟩
  have hsettled := Node.escape_eq_escapeAll_iff (.query query)
  rw [Walk.node_query_eq_iff] at hsettled
  refine hsettled.trans ?_
  constructor
  · intro h left negated right hmem
    exact h _ hmem
  · intro h other hmem
    unfold Node.LikeSettled
    split
    next left negated right => exact h left negated right hmem
    next => trivial

/-- A match inside the right side of a `LIKE`. -/
def nestedMatch (pattern : String) : Query :=
  { empty with
    filter := .one (.like (.named "title") false
      (.regexpText (.named "code") false pattern)) }

theorem nestedMatch_not_escaped :
    (nestedMatch "a.b").escapePatterns = nestedMatch "a.b" ∧
      (nestedMatch "a.b").escaped = nestedMatch "a\\.b" ∧
        (nestedMatch "a.b").escapePatterns ≠ (nestedMatch "a.b").escaped := by
  have hkept : (nestedMatch "a.b").escapePatterns = nestedMatch "a.b" := rfl
  have hescaped : (nestedMatch "a.b").escaped = nestedMatch "a\\.b" := rfl
  refine ⟨hkept, hescaped, ?_⟩
  rw [hkept, hescaped]
  simp [nestedMatch]

end Query

end QueryWeave

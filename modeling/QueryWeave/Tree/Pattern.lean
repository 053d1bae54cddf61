import QueryWeave.Text.Pattern
import QueryWeave.Tree

/-!
Literal patterns.  A text on the right of a regular-expression match, raw or held by a literal or
a placeholder, is escaped so that it matches itself.  The right side of a `LIKE` is not searched.
-/

namespace QueryWeave

def Datum.escapePattern : Datum → Datum
  | .text pattern => .text (Text.Pattern.escape pattern)
  | value => value

/-- Escapes the text of a literal; other expressions are left alone. -/
def Expr.escapeLiteral : Expr → Expr
  | .value held => .value held.escapePattern
  | .placeholder held => .placeholder held.escapePattern
  | expression => expression

mutual

def Expr.escapePatterns : Expr → Expr
  | .column table name => .column table name
  | .value value => .value value
  | .placeholder held => .placeholder held
  | .compare left operator right => .compare left.escapePatterns operator right.escapePatterns
  | .arithmetic left operator right =>
      .arithmetic left.escapePatterns operator right.escapePatterns
  | .between left negated low high =>
      .between left.escapePatterns negated low.escapePatterns high.escapePatterns
  | .inList left negated right => .inList left.escapePatterns negated right.escapePatterns
  | .inQuery left negated query => .inQuery left.escapePatterns negated query.escapePatterns
  | .like left negated right => .like left.escapePatterns negated right
  | .regexp left negated right =>
      .regexp left.escapePatterns negated right.escapePatterns.escapeLiteral
  | .regexpText left negated pattern =>
      .regexpText left.escapePatterns negated (Text.Pattern.escape pattern)
  | .isNull left negated => .isNull left.escapePatterns negated
  | .branching branches otherwise =>
      .branching (Branch.escapePatternsAll branches) (Expr.escapePatternsOption otherwise)
  | .call name parameters => .call name (Expr.escapePatternsAll parameters)
  | .conjunction members => .conjunction (Expr.escapePatternsAll members)
  | .disjunction members => .disjunction (Expr.escapePatternsAll members)
  | .wrapped before inner after => .wrapped before inner.escapePatterns after
  | .existence negated query => .existence negated query.escapePatterns
  | .scalar query => .scalar query.escapePatterns

def Expr.escapePatternsAll : List Expr → List Expr
  | [] => []
  | expression :: rest => expression.escapePatterns :: Expr.escapePatternsAll rest

def Expr.escapePatternsOption : Option Expr → Option Expr
  | none => none
  | some expression => some expression.escapePatterns

def Expr.escapePatternsItems : Items Expr → Items Expr
  | .one expression => .one expression.escapePatterns
  | .many expressions => .many (Expr.escapePatternsAll expressions)

def Expr.escapePatternsClause : Clause Expr → Clause Expr
  | .absent => .absent
  | .one expression => .one expression.escapePatterns
  | .many expressions => .many (Expr.escapePatternsAll expressions)

def Branch.escapePatternsAll : List Branch → List Branch
  | [] => []
  | ⟨guard, result⟩ :: rest =>
      ⟨guard.escapePatterns, result.escapePatterns⟩ :: Branch.escapePatternsAll rest

def ResultColumn.escapePatterns : ResultColumn → ResultColumn
  | ⟨expression, label⟩ => ⟨expression.escapePatterns, label⟩

def ResultColumn.escapePatternsAll : List ResultColumn → List ResultColumn
  | [] => []
  | column :: rest => column.escapePatterns :: ResultColumn.escapePatternsAll rest

def ResultColumn.escapePatternsClause : Clause ResultColumn → Clause ResultColumn
  | .absent => .absent
  | .one column => .one column.escapePatterns
  | .many columns => .many (ResultColumn.escapePatternsAll columns)

def Source.escapePatterns : Source → Source
  | .name name => .name name
  | .derived query => .derived query.escapePatterns

def Table.escapePatterns : Table → Table
  | ⟨source, label, joins⟩ => ⟨source.escapePatterns, label, Join.escapePatternsItems joins⟩

def Table.escapePatternsAll : List Table → List Table
  | [] => []
  | table :: rest => table.escapePatterns :: Table.escapePatternsAll rest

def Table.escapePatternsClause : NamedClause Table → NamedClause Table
  | .absent => .absent
  | .name name => .name name
  | .one table => .one table.escapePatterns
  | .many tables => .many (Table.escapePatternsAll tables)

def JoinTarget.escapePatterns : JoinTarget → JoinTarget
  | .name name => .name name
  | .table table => .table table.escapePatterns

def Join.escapePatterns : Join → Join
  | ⟨kind, target, conditions⟩ =>
      ⟨kind, target.escapePatterns, Expr.escapePatternsClause conditions⟩

def Join.escapePatternsAll : List Join → List Join
  | [] => []
  | join :: rest => join.escapePatterns :: Join.escapePatternsAll rest

def Join.escapePatternsItems : Items Join → Items Join
  | .one join => .one join.escapePatterns
  | .many joins => .many (Join.escapePatternsAll joins)

def Grouping.escapePatterns : Grouping → Grouping
  | ⟨terms, having⟩ => ⟨Expr.escapePatternsItems terms, Expr.escapePatternsClause having⟩

def Group.escapePatterns : Group → Group
  | .absent => .absent
  | .name name => .name name
  | .by grouping => .by grouping.escapePatterns

def OrderTerm.escapePatterns : OrderTerm → OrderTerm
  | ⟨expression, direction⟩ => ⟨expression.escapePatterns, direction⟩

def OrderTerm.escapePatternsAll : List OrderTerm → List OrderTerm
  | [] => []
  | term :: rest => term.escapePatterns :: OrderTerm.escapePatternsAll rest

def OrderTerm.escapePatternsClause : NamedClause OrderTerm → NamedClause OrderTerm
  | .absent => .absent
  | .name name => .name name
  | .one term => .one term.escapePatterns
  | .many terms => .many (OrderTerm.escapePatternsAll terms)

def Bound.escapePatterns : Bound → Bound
  | .rows count => .rows count
  | .computed expression => .computed expression.escapePatterns

def Bound.escapePatternsOption : Option Bound → Option Bound
  | none => none
  | some bound => some bound.escapePatterns

def Window.escapePatterns : Window → Window
  | ⟨limit, offset⟩ => ⟨limit.escapePatterns, Bound.escapePatternsOption offset⟩

def Limit.escapePatterns : Limit → Limit
  | .absent => .absent
  | .rows count => .rows count
  | .window window => .window window.escapePatterns

def Query.escapePatterns : Query → Query
  | ⟨distinct, select, tables, filter, group, order, limit, union⟩ =>
      ⟨distinct, ResultColumn.escapePatternsClause select, Table.escapePatternsClause tables,
        Expr.escapePatternsClause filter, group.escapePatterns,
        OrderTerm.escapePatternsClause order, limit.escapePatterns,
        Query.escapePatternsOption union⟩

def Query.escapePatternsOption : Option Query → Option Query
  | none => none
  | some query => some query.escapePatterns

end

end QueryWeave

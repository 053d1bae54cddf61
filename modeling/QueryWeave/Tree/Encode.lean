import QueryWeave.Datum.Style
import QueryWeave.Tree

namespace QueryWeave

mutual

def Expr.encode (style : Style) : Expr → Datum
  | .column table name => style.node "ColumnExpression"
      [("table", table.map .text), ("name", some (.text name))]
  | .value value => style.node "Value"
      [("value", value.present?)]
  | .placeholder held => style.node "Unknown"
      [("value", held.present?)]
  | .compare left operator right => style.node "BinaryExpression"
      [("left", some (left.encode style)), ("operator", some (.text operator.word)),
        ("right", some (right.encode style))]
  | .arithmetic left operator right => style.node "MathExpression"
      [("left", some (left.encode style)), ("operator", some (.text operator.word)),
        ("right", some (right.encode style))]
  | .between left negated low high => style.node "BetweenExpression"
      [("left", some (left.encode style)), ("negated", some (.bool negated)),
        ("start", some (low.encode style)), ("end", some (high.encode style))]
  | .inList left negated right => style.node "InExpression"
      [("left", some (left.encode style)), ("negated", some (.bool negated)),
        ("right", some (right.encode style))]
  | .inQuery left negated query => style.node "InExpression"
      [("left", some (left.encode style)), ("negated", some (.bool negated)),
        ("right", some (query.encode style))]
  | .like left negated right => style.node "LikeExpression"
      [("left", some (left.encode style)), ("negated", some (.bool negated)),
        ("right", some (right.encode style))]
  | .regexp left negated right => style.node "RegexpExpression"
      [("left", some (left.encode style)), ("negated", some (.bool negated)),
        ("right", some (right.encode style))]
  | .regexpText left negated pattern => style.node "RegexpExpression"
      [("left", some (left.encode style)), ("negated", some (.bool negated)),
        ("right", some (.text pattern))]
  | .isNull left negated => style.node "IsNullExpression"
      [("left", some (left.encode style)), ("negated", some (.bool negated))]
  | .branching branches otherwise => style.node "CaseExpression"
      [("cases", some (.list (Branch.encodeAll style branches))),
        (style.elseKey, Expr.encodeOption style otherwise)]
  | .call name parameters => style.node "FunctionExpression"
      [("name", some (.text name)), ("parameters", some (.list (Expr.encodeAll style parameters)))]
  | .conjunction members => style.node "AndExpressions"
      [("expressions", some (.list (Expr.encodeAll style members)))]
  | .disjunction members => style.node "OrExpressions"
      [("expressions", some (.list (Expr.encodeAll style members)))]
  | .wrapped before inner after => style.node "ParameterExpression"
      [("prefix", before.map .text), ("expression", some (inner.encode style)),
        ("suffix", after.map .text)]
  | .existence negated query => style.node "ExistsExpression"
      [("negated", some (.bool negated)), ("query", some (query.encode style))]
  | .scalar query => style.node "QueryExpression"
      [("query", some (query.encode style))]

def Expr.encodeAll (style : Style) : List Expr → List Datum
  | [] => []
  | expression :: rest => expression.encode style :: Expr.encodeAll style rest

def Expr.encodeOption (style : Style) : Option Expr → Option Datum
  | none => none
  | some expression => some (expression.encode style)

def Expr.encodeItems (style : Style) : Items Expr → Datum
  | .one expression => expression.encode style
  | .many expressions => .list (Expr.encodeAll style expressions)

def Expr.encodeClause (style : Style) : Clause Expr → Option Datum
  | .absent => none
  | .one expression => some (expression.encode style)
  | .many expressions => some (.list (Expr.encodeAll style expressions))

def Branch.encode (style : Style) : Branch → Datum
  | ⟨guard, result⟩ => style.object "Case"
      [("when", some (guard.encode style)), ("then", some (result.encode style))]

def Branch.encodeAll (style : Style) : List Branch → List Datum
  | [] => []
  | branch :: rest => branch.encode style :: Branch.encodeAll style rest

def ResultColumn.encode (style : Style) : ResultColumn → Datum
  | ⟨expression, label⟩ => style.object "ResultColumn"
      [("expression", some (expression.encode style)), ("alias", label.map .text)]

def ResultColumn.encodeAll (style : Style) : List ResultColumn → List Datum
  | [] => []
  | column :: rest => column.encode style :: ResultColumn.encodeAll style rest

def ResultColumn.encodeClause (style : Style) : Clause ResultColumn → Option Datum
  | .absent => none
  | .one column => some (column.encode style)
  | .many columns => some (.list (ResultColumn.encodeAll style columns))

def Source.encode (style : Style) : Source → Datum
  | .name name => .text name
  | .derived query => query.encode style

def Table.encode (style : Style) : Table → Datum
  | ⟨source, label, joins⟩ => style.object "FromTable"
      [("table", some (source.encode style)), ("alias", label.map .text),
        ("join_clauses", some (Join.encodeItems style joins))]

def Table.encodeAll (style : Style) : List Table → List Datum
  | [] => []
  | table :: rest => table.encode style :: Table.encodeAll style rest

def Table.encodeClause (style : Style) : NamedClause Table → Option Datum
  | .absent => none
  | .name name => some (.text name)
  | .one table => some (table.encode style)
  | .many tables => some (.list (Table.encodeAll style tables))

def JoinTarget.encode (style : Style) : JoinTarget → Datum
  | .name name => .text name
  | .table table => table.encode style

def Join.encode (style : Style) : Join → Datum
  | ⟨kind, target, conditions⟩ => style.object "JoinClause"
      [("operator", some (.text kind.word)), ("table", some (target.encode style)),
        ("on", Expr.encodeClause style conditions)]

def Join.encodeAll (style : Style) : List Join → List Datum
  | [] => []
  | join :: rest => join.encode style :: Join.encodeAll style rest

def Join.encodeItems (style : Style) : Items Join → Datum
  | .one join => join.encode style
  | .many joins => .list (Join.encodeAll style joins)

def Grouping.encode (style : Style) : Grouping → Datum
  | ⟨terms, having⟩ => style.object "GroupBy"
      [("expressions", some (Expr.encodeItems style terms)),
        ("having", Expr.encodeClause style having)]

def Group.encode (style : Style) : Group → Option Datum
  | .absent => none
  | .name name => some (.text name)
  | .by grouping => some (grouping.encode style)

def OrderTerm.encode (style : Style) : OrderTerm → Datum
  | ⟨expression, direction⟩ => style.object "OrderBy"
      [("expression", some (expression.encode style)), ("direction", some (.text direction.word))]

def OrderTerm.encodeAll (style : Style) : List OrderTerm → List Datum
  | [] => []
  | term :: rest => term.encode style :: OrderTerm.encodeAll style rest

def OrderTerm.encodeClause (style : Style) : NamedClause OrderTerm → Option Datum
  | .absent => none
  | .name name => some (.text name)
  | .one term => some (term.encode style)
  | .many terms => some (.list (OrderTerm.encodeAll style terms))

def Bound.encode (style : Style) : Bound → Datum
  | .rows count => .int count
  | .computed expression => expression.encode style

def Bound.encodeOption (style : Style) : Option Bound → Option Datum
  | none => none
  | some bound => some (bound.encode style)

def Window.encode (style : Style) : Window → Datum
  | ⟨limit, offset⟩ => style.object "LimitOffset"
      [("limit", some (limit.encode style)), ("offset", Bound.encodeOption style offset)]

def Limit.encode (style : Style) : Limit → Option Datum
  | .absent => none
  | .rows count => some (.int count)
  | .window window => some (window.encode style)

def Query.encode (style : Style) : Query → Datum
  | ⟨distinct, select, tables, filter, group, order, limit, union⟩ => style.object "Query"
      [("distinct", some (.bool distinct)), ("select", ResultColumn.encodeClause style select),
        (style.fromKey, Table.encodeClause style tables),
        ("where", Expr.encodeClause style filter), ("group", group.encode style),
        ("order", OrderTerm.encodeClause style order), ("limit", limit.encode style),
        ("union", Query.encodeOption style union)]

def Query.encodeOption (style : Style) : Option Query → Option Datum
  | none => none
  | some query => some (query.encode style)

end

end QueryWeave

import QueryWeave.Datum.Read
import QueryWeave.Tree.Encode
import QueryWeave.Tree.Nesting

namespace QueryWeave

open Read

mutual

/-- An object is told by its `classname`.  Members that its form does not have are refused, and so is a
member of the wrong form. -/
def Expr.read (value : Datum) : Option Expr := do
  let ⟨members, _⟩ ← value.nodeMembers?
  let classname ← text members "classname"
  match classname with
  | "ColumnExpression" => do
      only members ["classname", "table", "name"]
      return .column (← optionalText members "table") (← text members "name")
  | "Value" => do
      only members ["classname", "value"]
      return .value (Datum.member members "value")
  | "Unknown" => do
      only members ["classname", "value"]
      return .placeholder (Datum.member members "value")
  | "BinaryExpression" => do
      only members ["classname", "left", "operator", "right"]
      let left ← required members "left" fun value _ => Expr.read value
      let operator ← wordWithDefault members "operator" .equal Comparison.ofWord?
      let right ← required members "right" fun value _ => Expr.read value
      return .compare left operator right
  | "MathExpression" => do
      only members ["classname", "left", "operator", "right"]
      let left ← required members "left" fun value _ => Expr.read value
      let operator ← word members "operator" Arithmetic.ofWord?
      let right ← required members "right" fun value _ => Expr.read value
      return .arithmetic left operator right
  | "BetweenExpression" => do
      only members ["classname", "left", "negated", "start", "end"]
      let left ← required members "left" fun value _ => Expr.read value
      let negated ← flag members "negated"
      let low ← required members "start" fun value _ => Expr.read value
      let high ← required members "end" fun value _ => Expr.read value
      return .between left negated low high
  | "InExpression" => do
      only members ["classname", "left", "negated", "right"]
      let left ← required members "left" fun value _ => Expr.read value
      let negated ← flag members "negated"
      required members "right" fun value _ =>
        match Expr.read value with
        | some right => some (.inList left negated right)
        | none => (Query.read value).map (.inQuery left negated ·)
  | "LikeExpression" => do
      only members ["classname", "left", "negated", "right"]
      let left ← required members "left" fun value _ => Expr.read value
      let negated ← flag members "negated"
      let right ← required members "right" fun value _ => Expr.read value
      return .like left negated right
  | "RegexpExpression" => do
      only members ["classname", "left", "negated", "right"]
      let left ← required members "left" fun value _ => Expr.read value
      let negated ← flag members "negated"
      required members "right" fun value _ =>
        match value.toText? with
        | some pattern => some (.regexpText left negated pattern)
        | none => (Expr.read value).map (.regexp left negated ·)
  | "IsNullExpression" => do
      only members ["classname", "left", "negated"]
      let left ← required members "left" fun value _ => Expr.read value
      return .isNull left (← flag members "negated")
  | "CaseExpression" => do
      only members ["classname", "cases", spelling members "else" "else_"]
      let branches ← required members "cases" fun value _ =>
        value.readList fun item _ => Branch.read item
      let otherwise ← optional members (spelling members "else" "else_") fun value _ =>
        Expr.read value
      return .branching branches otherwise
  | "FunctionExpression" => do
      only members ["classname", "name", "parameters"]
      let name ← text members "name"
      let parameters ← withDefault members "parameters" [] fun value _ =>
        value.readList fun item _ => Expr.read item
      return .call name parameters
  | "AndExpressions" => do
      only members ["classname", "expressions"]
      let inner ← withDefault members "expressions" [] fun value _ =>
        value.readList fun item _ => Expr.read item
      return .conjunction inner
  | "OrExpressions" => do
      only members ["classname", "expressions"]
      let inner ← withDefault members "expressions" [] fun value _ =>
        value.readList fun item _ => Expr.read item
      return .disjunction inner
  | "ParameterExpression" => do
      only members ["classname", "prefix", "expression", "suffix"]
      let before ← optionalText members "prefix"
      let inner ← required members "expression" fun value _ => Expr.read value
      let after ← optionalText members "suffix"
      return .wrapped before inner after
  | "ExistsExpression" => do
      only members ["classname", "negated", "query"]
      let negated ← flag members "negated"
      let query ← required members "query" fun value _ => Query.read value
      return .existence negated query
  | "QueryExpression" => do
      only members ["classname", "query"]
      let query ← required members "query" fun value _ => Query.read value
      return .scalar query
  | _ => none
termination_by sizeOf value
decreasing_by all_goals omega

def Branch.read (value : Datum) : Option Branch := do
  let ⟨members, _⟩ ← value.membersOf? "Case"
  only members ["when", "then"]
  let guard ← required members "when" fun value _ => Expr.read value
  let result ← required members "then" fun value _ => Expr.read value
  return ⟨guard, result⟩
termination_by sizeOf value
decreasing_by all_goals omega

def ResultColumn.read (value : Datum) : Option ResultColumn := do
  let ⟨members, _⟩ ← value.membersOf? "ResultColumn"
  only members ["expression", "alias"]
  let expression ← required members "expression" fun value _ => Expr.read value
  return ⟨expression, ← optionalText members "alias"⟩
termination_by sizeOf value
decreasing_by all_goals omega

def Table.read (value : Datum) : Option Table := do
  let ⟨members, _⟩ ← value.membersOf? "FromTable"
  only members ["table", "alias", "join_clauses"]
  let source ← required members "table" fun value _ =>
    match value.toText? with
    | some name => some (.name name)
    | none => (Query.read value).map Source.derived
  let label ← optionalText members "alias"
  let joins ← withDefault members "join_clauses" (.many []) fun value _ =>
    value.readItems fun item _ => Join.read item
  return ⟨source, label, joins⟩
termination_by sizeOf value
decreasing_by all_goals omega

def Join.read (value : Datum) : Option Join := do
  let ⟨members, _⟩ ← value.membersOf? "JoinClause"
  only members ["operator", "table", "on"]
  let kind ← wordWithDefault members "operator" .inner JoinKind.ofWord?
  let target ← required members "table" fun value _ =>
    match value.toText? with
    | some name => some (.name name)
    | none => (Table.read value).map JoinTarget.table
  let conditions ← withDefault members "on" .absent fun value _ =>
    value.readClause fun item _ => Expr.read item
  return ⟨kind, target, conditions⟩
termination_by sizeOf value
decreasing_by all_goals omega

def Grouping.read (value : Datum) : Option Grouping := do
  let ⟨members, _⟩ ← value.membersOf? "GroupBy"
  only members ["expressions", "having"]
  let terms ← withDefault members "expressions" (.many []) fun value _ =>
    value.readItems fun item _ => Expr.read item
  let having ← withDefault members "having" .absent fun value _ =>
    value.readClause fun item _ => Expr.read item
  return ⟨terms, having⟩
termination_by sizeOf value
decreasing_by all_goals omega

def OrderTerm.read (value : Datum) : Option OrderTerm := do
  let ⟨members, _⟩ ← value.membersOf? "OrderBy"
  only members ["expression", "direction"]
  let expression ← required members "expression" fun value _ => Expr.read value
  let direction ← wordWithDefault members "direction" .ascending Direction.ofWord?
  return ⟨expression, direction⟩
termination_by sizeOf value
decreasing_by all_goals omega

def Window.read (value : Datum) : Option Window := do
  let ⟨members, _⟩ ← value.membersOf? "LimitOffset"
  only members ["limit", "offset"]
  let limit ← required members "limit" fun value _ =>
    match value.toInt? with
    | some count => some (.rows count)
    | none => (Expr.read value).map Bound.computed
  let offset ← optional members "offset" fun value _ =>
    match value.toInt? with
    | some count => some (.rows count)
    | none => (Expr.read value).map Bound.computed
  return ⟨limit, offset⟩
termination_by sizeOf value
decreasing_by all_goals omega

def Query.read (value : Datum) : Option Query := do
  let ⟨members, _⟩ ← value.membersOf? "Query"
  let tablesKey := spelling members "from" "from_"
  only members
    ["distinct", "select", tablesKey, "where", "group", "order", "limit", "union"]
  let distinct ← flag members "distinct"
  let select ← withDefault members "select" .absent fun value _ =>
    value.readClause fun item _ => ResultColumn.read item
  let tables ← withDefault members tablesKey .absent fun value _ =>
    value.readNamedClause fun item _ => Table.read item
  let filter ← withDefault members "where" .absent fun value _ =>
    value.readClause fun item _ => Expr.read item
  let group ← withDefault members "group" .absent fun value _ =>
    match value with
    | .null => some .absent
    | .text name => some (.name name)
    | value => (Grouping.read value).map Group.by
  let order ← withDefault members "order" .absent fun value _ =>
    value.readNamedClause fun item _ => OrderTerm.read item
  let limit ← withDefault members "limit" .absent fun value _ =>
    if value.isNull then some .absent
    else
      match value.toInt? with
      | some count => some (.rows count)
      | none => (Window.read value).map Limit.window
  let union ← optional members "union" fun value _ => Query.read value
  return ⟨distinct, select, tables, filter, group, order, limit, union⟩
termination_by sizeOf value
decreasing_by all_goals omega

end

def Expr.decode (value : Datum) : Option Expr :=
  (Expr.read value).filter fun given => Nesting.fits .other (given.encode .record)

def Query.decode (value : Datum) : Option Query :=
  (Query.read value).filter fun given => Nesting.fits .query (given.encode .record)

def Table.decode (value : Datum) : Option Table :=
  (Table.read value).filter fun given => Nesting.fits .table (given.encode .record)

end QueryWeave

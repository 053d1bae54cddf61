import QueryWeave.Tree

/-!
Placeholders of a tree, in order: result columns, join conditions of the tables, conditions,
grouping terms, grouping conditions, order terms.  Nested queries are scanned where they stand;
derived tables, limits and unions are not scanned.
-/

namespace QueryWeave

mutual

def Expr.placeholders : Expr → List Datum
  | .column _ _ => []
  | .value _ => []
  | .placeholder held => [held]
  | .compare left _ right => left.placeholders ++ right.placeholders
  | .arithmetic left _ right => left.placeholders ++ right.placeholders
  | .between left _ low high => left.placeholders ++ low.placeholders ++ high.placeholders
  | .inList left _ right => left.placeholders ++ right.placeholders
  | .inQuery left _ query => left.placeholders ++ query.placeholders
  | .like left _ right => left.placeholders ++ right.placeholders
  | .regexp left _ right => left.placeholders ++ right.placeholders
  | .regexpText left _ _ => left.placeholders
  | .isNull left _ => left.placeholders
  | .branching branches otherwise =>
      Branch.placeholdersAll branches ++ Expr.placeholdersOption otherwise
  | .call _ parameters => Expr.placeholdersAll parameters
  | .conjunction members => Expr.placeholdersAll members
  | .disjunction members => Expr.placeholdersAll members
  | .wrapped _ inner _ => inner.placeholders
  | .existence _ query => query.placeholders
  | .scalar query => query.placeholders

def Expr.placeholdersAll : List Expr → List Datum
  | [] => []
  | expression :: rest => expression.placeholders ++ Expr.placeholdersAll rest

def Expr.placeholdersOption : Option Expr → List Datum
  | none => []
  | some expression => expression.placeholders

def Expr.placeholdersItems : Items Expr → List Datum
  | .one expression => expression.placeholders
  | .many expressions => Expr.placeholdersAll expressions

def Expr.placeholdersClause : Clause Expr → List Datum
  | .absent => []
  | .one expression => expression.placeholders
  | .many expressions => Expr.placeholdersAll expressions

def Branch.placeholdersAll : List Branch → List Datum
  | [] => []
  | ⟨guard, result⟩ :: rest =>
      guard.placeholders ++ result.placeholders ++ Branch.placeholdersAll rest

def ResultColumn.placeholders : ResultColumn → List Datum
  | ⟨expression, _⟩ => expression.placeholders

def ResultColumn.placeholdersAll : List ResultColumn → List Datum
  | [] => []
  | column :: rest => column.placeholders ++ ResultColumn.placeholdersAll rest

def ResultColumn.placeholdersClause : Clause ResultColumn → List Datum
  | .absent => []
  | .one column => column.placeholders
  | .many columns => ResultColumn.placeholdersAll columns

def Table.placeholders : Table → List Datum
  | ⟨_, _, joins⟩ => Join.placeholdersItems joins

def Table.placeholdersAll : List Table → List Datum
  | [] => []
  | table :: rest => table.placeholders ++ Table.placeholdersAll rest

def Table.placeholdersClause : NamedClause Table → List Datum
  | .absent => []
  | .name _ => []
  | .one table => table.placeholders
  | .many tables => Table.placeholdersAll tables

def JoinTarget.placeholders : JoinTarget → List Datum
  | .name _ => []
  | .table table => table.placeholders

def Join.placeholders : Join → List Datum
  | ⟨_, target, conditions⟩ => target.placeholders ++ Expr.placeholdersClause conditions

def Join.placeholdersAll : List Join → List Datum
  | [] => []
  | join :: rest => join.placeholders ++ Join.placeholdersAll rest

def Join.placeholdersItems : Items Join → List Datum
  | .one join => join.placeholders
  | .many joins => Join.placeholdersAll joins

def Grouping.placeholders : Grouping → List Datum
  | ⟨terms, having⟩ => Expr.placeholdersItems terms ++ Expr.placeholdersClause having

def Group.placeholders : Group → List Datum
  | .absent => []
  | .name _ => []
  | .by grouping => grouping.placeholders

def OrderTerm.placeholders : OrderTerm → List Datum
  | ⟨expression, _⟩ => expression.placeholders

def OrderTerm.placeholdersAll : List OrderTerm → List Datum
  | [] => []
  | term :: rest => term.placeholders ++ OrderTerm.placeholdersAll rest

def OrderTerm.placeholdersClause : NamedClause OrderTerm → List Datum
  | .absent => []
  | .name _ => []
  | .one term => term.placeholders
  | .many terms => OrderTerm.placeholdersAll terms

def Query.placeholders : Query → List Datum
  | ⟨_, select, tables, filter, group, order, _, _⟩ =>
      ResultColumn.placeholdersClause select ++ Table.placeholdersClause tables ++
        Expr.placeholdersClause filter ++ group.placeholders ++
        OrderTerm.placeholdersClause order

end

abbrev Supply := List Datum

mutual

/-- Puts the values of a supply into the placeholders, in order; placeholders past its end keep
what they hold. -/
def Expr.fill : Expr → Supply → Expr
  | .column table name, _ => .column table name
  | .value value, _ => .value value
  | .placeholder held, [] => .placeholder held
  | .placeholder _, value :: _ => .placeholder value
  | .compare left operator right, supply =>
      .compare (left.fill supply) operator (right.fill (supply.drop left.placeholders.length))
  | .arithmetic left operator right, supply =>
      .arithmetic (left.fill supply) operator (right.fill (supply.drop left.placeholders.length))
  | .between left negated low high, supply =>
      .between (left.fill supply) negated (low.fill (supply.drop left.placeholders.length))
        (high.fill (supply.drop (left.placeholders ++ low.placeholders).length))
  | .inList left negated right, supply =>
      .inList (left.fill supply) negated (right.fill (supply.drop left.placeholders.length))
  | .inQuery left negated query, supply =>
      .inQuery (left.fill supply) negated (query.fill (supply.drop left.placeholders.length))
  | .like left negated right, supply =>
      .like (left.fill supply) negated (right.fill (supply.drop left.placeholders.length))
  | .regexp left negated right, supply =>
      .regexp (left.fill supply) negated (right.fill (supply.drop left.placeholders.length))
  | .regexpText left negated pattern, supply => .regexpText (left.fill supply) negated pattern
  | .isNull left negated, supply => .isNull (left.fill supply) negated
  | .branching branches otherwise, supply =>
      .branching (Branch.fillAll branches supply)
        (Expr.fillOption otherwise (supply.drop (Branch.placeholdersAll branches).length))
  | .call name parameters, supply => .call name (Expr.fillAll parameters supply)
  | .conjunction members, supply => .conjunction (Expr.fillAll members supply)
  | .disjunction members, supply => .disjunction (Expr.fillAll members supply)
  | .wrapped before inner after, supply => .wrapped before (inner.fill supply) after
  | .existence negated query, supply => .existence negated (query.fill supply)
  | .scalar query, supply => .scalar (query.fill supply)

def Expr.fillAll : List Expr → Supply → List Expr
  | [], _ => []
  | expression :: rest, supply =>
      expression.fill supply ::
        Expr.fillAll rest (supply.drop expression.placeholders.length)

def Expr.fillOption : Option Expr → Supply → Option Expr
  | none, _ => none
  | some expression, supply => some (expression.fill supply)

def Expr.fillItems : Items Expr → Supply → Items Expr
  | .one expression, supply => .one (expression.fill supply)
  | .many expressions, supply => .many (Expr.fillAll expressions supply)

def Expr.fillClause : Clause Expr → Supply → Clause Expr
  | .absent, _ => .absent
  | .one expression, supply => .one (expression.fill supply)
  | .many expressions, supply => .many (Expr.fillAll expressions supply)

def Branch.fillAll : List Branch → Supply → List Branch
  | [], _ => []
  | ⟨guard, result⟩ :: rest, supply =>
      ⟨guard.fill supply, result.fill (supply.drop guard.placeholders.length)⟩ ::
        Branch.fillAll rest (supply.drop (guard.placeholders ++ result.placeholders).length)

def ResultColumn.fill : ResultColumn → Supply → ResultColumn
  | ⟨expression, label⟩, supply => ⟨expression.fill supply, label⟩

def ResultColumn.fillAll : List ResultColumn → Supply → List ResultColumn
  | [], _ => []
  | column :: rest, supply =>
      column.fill supply :: ResultColumn.fillAll rest (supply.drop column.placeholders.length)

def ResultColumn.fillClause : Clause ResultColumn → Supply → Clause ResultColumn
  | .absent, _ => .absent
  | .one column, supply => .one (column.fill supply)
  | .many columns, supply => .many (ResultColumn.fillAll columns supply)

def Table.fill : Table → Supply → Table
  | ⟨source, label, joins⟩, supply => ⟨source, label, Join.fillItems joins supply⟩

def Table.fillAll : List Table → Supply → List Table
  | [], _ => []
  | table :: rest, supply =>
      table.fill supply :: Table.fillAll rest (supply.drop table.placeholders.length)

def Table.fillClause : NamedClause Table → Supply → NamedClause Table
  | .absent, _ => .absent
  | .name name, _ => .name name
  | .one table, supply => .one (table.fill supply)
  | .many tables, supply => .many (Table.fillAll tables supply)

def JoinTarget.fill : JoinTarget → Supply → JoinTarget
  | .name name, _ => .name name
  | .table table, supply => .table (table.fill supply)

def Join.fill : Join → Supply → Join
  | ⟨kind, target, conditions⟩, supply =>
      ⟨kind, target.fill supply,
        Expr.fillClause conditions (supply.drop target.placeholders.length)⟩

def Join.fillAll : List Join → Supply → List Join
  | [], _ => []
  | join :: rest, supply =>
      join.fill supply :: Join.fillAll rest (supply.drop join.placeholders.length)

def Join.fillItems : Items Join → Supply → Items Join
  | .one join, supply => .one (join.fill supply)
  | .many joins, supply => .many (Join.fillAll joins supply)

def Grouping.fill : Grouping → Supply → Grouping
  | ⟨terms, having⟩, supply =>
      ⟨Expr.fillItems terms supply,
        Expr.fillClause having (supply.drop (Expr.placeholdersItems terms).length)⟩

def Group.fill : Group → Supply → Group
  | .absent, _ => .absent
  | .name name, _ => .name name
  | .by grouping, supply => .by (grouping.fill supply)

def OrderTerm.fill : OrderTerm → Supply → OrderTerm
  | ⟨expression, direction⟩, supply => ⟨expression.fill supply, direction⟩

def OrderTerm.fillAll : List OrderTerm → Supply → List OrderTerm
  | [], _ => []
  | term :: rest, supply =>
      term.fill supply :: OrderTerm.fillAll rest (supply.drop term.placeholders.length)

def OrderTerm.fillClause : NamedClause OrderTerm → Supply → NamedClause OrderTerm
  | .absent, _ => .absent
  | .name name, _ => .name name
  | .one term, supply => .one (term.fill supply)
  | .many terms, supply => .many (OrderTerm.fillAll terms supply)

def Query.fill : Query → Supply → Query
  | ⟨distinct, select, tables, filter, group, order, limit, union⟩, supply =>
      let selected := ResultColumn.placeholdersClause select
      let joined := selected ++ Table.placeholdersClause tables
      let filtered := joined ++ Expr.placeholdersClause filter
      let grouped := filtered ++ group.placeholders
      ⟨distinct, ResultColumn.fillClause select supply,
        Table.fillClause tables (supply.drop selected.length),
        Expr.fillClause filter (supply.drop joined.length),
        group.fill (supply.drop filtered.length),
        OrderTerm.fillClause order (supply.drop grouped.length), limit, union⟩

end

end QueryWeave

import QueryWeave.Datum
import QueryWeave.Tree.Clause
import QueryWeave.Tree.Operator

namespace QueryWeave

mutual

inductive Expr where
  | column (table : Option String) (name : String)
  | value (value : Datum)
  /-- A literal whose value is filled in later. -/
  | placeholder (value : Datum)
  | compare (left : Expr) (operator : Comparison) (right : Expr)
  | arithmetic (left : Expr) (operator : Arithmetic) (right : Expr)
  | between (left : Expr) (negated : Bool) (low high : Expr)
  | inList (left : Expr) (negated : Bool) (right : Expr)
  | inQuery (left : Expr) (negated : Bool) (query : Query)
  | like (left : Expr) (negated : Bool) (right : Expr)
  | regexp (left : Expr) (negated : Bool) (right : Expr)
  | regexpText (left : Expr) (negated : Bool) (pattern : String)
  | isNull (left : Expr) (negated : Bool)
  | branching (branches : List Branch) (otherwise : Option Expr)
  | call (name : String) (parameters : List Expr)
  | conjunction (members : List Expr)
  | disjunction (members : List Expr)
  /-- An expression between raw texts. -/
  | wrapped (before : Option String) (inner : Expr) (after : Option String)
  | existence (negated : Bool) (query : Query)
  | scalar (query : Query)

structure Branch where
  guard : Expr
  result : Expr

structure ResultColumn where
  expression : Expr
  /-- The alias. -/
  label : Option String

inductive Source where
  | name (name : String)
  | derived (query : Query)

structure Table where
  source : Source
  /-- The alias. -/
  label : Option String
  joins : Items Join

inductive JoinTarget where
  | name (name : String)
  | table (table : Table)

structure Join where
  kind : JoinKind
  target : JoinTarget
  conditions : Clause Expr

structure Grouping where
  terms : Items Expr
  having : Clause Expr

inductive Group where
  | absent
  | name (name : String)
  | by (grouping : Grouping)

structure OrderTerm where
  expression : Expr
  direction : Direction

inductive Bound where
  | rows (count : Int)
  | computed (expression : Expr)

structure Window where
  limit : Bound
  offset : Option Bound

inductive Limit where
  | absent
  | rows (count : Int)
  | window (window : Window)

/-- A query may be partial: every clause can be absent. -/
structure Query where
  distinct : Bool
  select : Clause ResultColumn
  tables : NamedClause Table
  filter : Clause Expr
  group : Group
  order : NamedClause OrderTerm
  limit : Limit
  union : Option Query

end

def Query.empty : Query where
  distinct := false
  select := .absent
  tables := .absent
  filter := .absent
  group := .absent
  order := .absent
  limit := .absent
  union := none

instance : Inhabited Query := ⟨Query.empty⟩

namespace Expr

def named (name : String) : Expr := .column none name

/-- An unqualified `*`. -/
def isWildcard : Expr → Bool
  | column none name => name == "*"
  | column (some table) name => name == "*" && table == ""
  | _ => false

end Expr

namespace Table

def ofName (name : String) : Table := ⟨.name name, none, .many []⟩

/-- What identifies a table when table lists are merged: its name, or the alias of a derived
table. -/
def key? (table : Table) : Option String :=
  match table.source with
  | .name name => some name
  | .derived _ => table.label

def joinList (table : Table) : List Join := table.joins.toList

end Table

namespace Grouping

def termList (grouping : Grouping) : List Expr := grouping.terms.toList

def havingList (grouping : Grouping) : List Expr := grouping.having.toList

/-- The same grouping with both clauses as lists, an empty condition list included. -/
def listed (grouping : Grouping) : Grouping :=
  ⟨.many grouping.termList, .many grouping.havingList⟩

end Grouping

namespace OrderTerm

def ofName (name : String) : OrderTerm := ⟨.named name, .ascending⟩

end OrderTerm

namespace Query

def selectList (query : Query) : List ResultColumn := query.select.toList

def tableList (query : Query) : List Table := query.tables.toList Table.ofName

def filterList (query : Query) : List Expr := query.filter.toList

def orderList (query : Query) : List OrderTerm := query.order.toList OrderTerm.ofName

/-- The grouping with its clauses as lists; a bare name groups by that column. -/
def grouping? (query : Query) : Option Grouping :=
  match query.group with
  | .absent => none
  | .name name => some ⟨.many [.named name], .absent⟩
  | .by grouping => some grouping.listed

def groupTerms (query : Query) : List Expr :=
  (query.grouping?.map Grouping.termList).getD []

def havingList (query : Query) : List Expr :=
  (query.grouping?.map Grouping.havingList).getD []

def window? (query : Query) : Option Window :=
  match query.limit with
  | .absent => none
  | .rows count => some ⟨.rows count, none⟩
  | .window window => some window

end Query

end QueryWeave

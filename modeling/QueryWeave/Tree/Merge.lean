import QueryWeave.Tree

/-!
Merging of partial queries, clause by clause.

* Result columns, grouping terms, grouping conditions and order terms are concatenated.
* A table whose key is already there only adds its joins to the first table of that key.
* Conditions join one conjunction: a lone conjunction is extended, anything else is wrapped.
* The first limit wins, and a union is hung on the end of the union chain.
-/

namespace QueryWeave

namespace Expr

/-- `additions` joined to `conditions` in one conjunction. -/
def andAll (conditions additions : List Expr) : Expr :=
  match conditions with
  | [.conjunction members] => .conjunction (members ++ additions)
  | _ => .conjunction (conditions ++ additions)

/-- Whether `andAll` extends a conjunction that is already there. -/
def extendsConjunction : List Expr → Bool
  | [.conjunction _] => true
  | _ => false

/-- No condition, the only one, or the conjunction of several. -/
def combine : List Expr → Option Expr
  | [] => none
  | [condition] => some condition
  | conditions => some (.conjunction conditions)

end Expr

namespace Table

def addJoins (table : Table) (joins : List Join) : Table :=
  { table with joins := .many (table.joinList ++ joins) }

def addJoinsAt (key : String) (joins : List Join) : List Table → List Table
  | [] => []
  | table :: rest =>
      if table.key? = some key then table.addJoins joins :: rest
      else table :: addJoinsAt key joins rest

def mergeOne (tables : List Table) (table : Table) : List Table :=
  match table.key? with
  | none => tables ++ [table]
  | some key =>
      if tables.any (·.key? == some key) then
        match table.joinList with
        | [] => tables
        | joins => addJoinsAt key joins tables
      else tables ++ [table]

def mergeAll (tables additions : List Table) : List Table :=
  additions.foldl mergeOne tables

@[simp] theorem mergeAll_nil (tables : List Table) : mergeAll tables [] = tables := rfl

@[simp] theorem mergeAll_cons (tables : List Table) (table : Table) (rest : List Table) :
    mergeAll tables (table :: rest) = mergeAll (mergeOne tables table) rest := rfl

end Table

namespace Grouping

def append (left right : Grouping) : Grouping where
  terms := .many (left.termList ++ right.termList)
  having := .ofNonempty (left.havingList ++ right.havingList)

def empty : Grouping := ⟨.many [], .absent⟩

end Grouping

namespace Query

def mergeSelect (base addition : Query) : Clause ResultColumn :=
  match addition.selectList with
  | [] => base.select
  | columns => .many (base.selectList ++ columns)

def mergeTables (base addition : Query) : NamedClause Table :=
  match addition.tables with
  | .absent => base.tables
  | _ => .many (Table.mergeAll base.tableList addition.tableList)

def mergeFilter (base addition : Query) : Clause Expr :=
  match addition.filterList with
  | [] => base.filter
  | conditions => .one (Expr.andAll base.filterList conditions)

def mergeGroup (base addition : Query) : Group :=
  match addition.grouping? with
  | none => base.group
  | some grouping => .by ((base.grouping?.getD .empty).append grouping)

def mergeOrder (base addition : Query) : NamedClause OrderTerm :=
  match addition.orderList with
  | [] => base.order
  | terms => .many (base.orderList ++ terms)

def mergeLimit (base addition : Query) : Limit :=
  match base.limit with
  | .absent => addition.limit
  | limit => limit

mutual

/-- The query with a union hung on the end of its union chain. -/
def attachUnion (union : Query) : Query → Query
  | ⟨distinct, select, tables, filter, group, order, limit, next⟩ =>
      ⟨distinct, select, tables, filter, group, order, limit, some (attachUnionTo union next)⟩

def attachUnionTo (union : Query) : Option Query → Query
  | none => union
  | some query => attachUnion union query

end

def mergeUnion (base addition : Query) : Option Query :=
  match addition.union with
  | none => base.union
  | some union => some (attachUnionTo union base.union)

/-- `addition` folded into `base`. -/
def merge (base addition : Query) : Query where
  distinct := base.distinct || addition.distinct
  select := mergeSelect base addition
  tables := mergeTables base addition
  filter := mergeFilter base addition
  group := mergeGroup base addition
  order := mergeOrder base addition
  limit := mergeLimit base addition
  union := mergeUnion base addition

/-- Turns a list of grouping conditions into one condition, or none. -/
def collapseHaving (query : Query) : Query :=
  match query.group with
  | .by ⟨terms, .many conditions⟩ =>
      { query with group := .by ⟨terms, .ofOption (Expr.combine conditions)⟩ }
  | _ => query

/-- Drops the result columns that are an unqualified `*`. -/
def withoutWildcard (query : Query) : Query :=
  { query with
    select := .ofNonempty (query.selectList.filter fun column => !column.expression.isWildcard) }

end Query

end QueryWeave

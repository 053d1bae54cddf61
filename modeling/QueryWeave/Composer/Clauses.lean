import QueryWeave.Closure
import QueryWeave.Options

namespace QueryWeave

structure Context where
  registry : Registry
  request : Request
  options : Options

namespace Context

def key (kind : Kind) (name : String) : String := (Key.mk kind name).render

def find? (context : Context) (kind : Kind) (name : String) : Option Fragment :=
  Entries.get? context.registry (key kind name)

/-- What a field entry contributes: its columns, and whether the query becomes distinct. -/
def columnsOf (context : Context) : FieldEntry → Journaled (List ResultColumn × Bool)
  | .name name =>
      match context.find? .field name with
      | none =>
          if context.options.skipUnregistered.holds then pure ([], false)
          else pure ([⟨.named name, none⟩], false)
      | some fragment => do
          let partly ← liftExcept (fragment.apply context.request)
          if partly.selectList.isEmpty then note (.noColumns (key .field name))
          return (partly.selectList, partly.distinct)
  | .pair table column => pure ([⟨.column (some table) column, none⟩], false)
  | .labelled table column label => pure ([⟨.column (some table) column, label⟩], false)
  | .column given => pure ([given], false)

def addFields (context : Context) (base : Query) : Journaled Query :=
  match context.request.fieldList with
  | [] => pure base
  | entries => do
      let parts ← entries.mapM context.columnsOf
      let columns := parts.flatMap Prod.fst
      return { base with
        select := .ofNonempty (base.selectList ++ columns)
        distinct := base.distinct || parts.any Prod.snd }

/-- Of a table fragment only the tables and the conditions are used. -/
def addTable (context : Context) (base : Query) (name : String) : Journaled Query :=
  match context.find? .table name with
  | none => pure base
  | some fragment => do
      let partly ← liftExcept (fragment.apply context.request)
      note (.applied (key .table name))
      return base.merge { Query.empty with tables := partly.tables, filter := partly.filter }

def addTables (context : Context) (base : Query) : Journaled Query :=
  context.request.tableList.foldlM context.addTable base

def addFilter (context : Context) (base : Query) (name : String) : Journaled Query :=
  match Entries.get? context.registry name with
  | none => pure base
  | some fragment => do return base.merge (← fragment.applyFilter name context.request)

def addFilters (context : Context) (base : Query) : Journaled Query :=
  (Entries.keys context.request.filters).foldlM context.addFilter base

def addCondition (context : Context) (base : Query) : Query :=
  match context.request.condition?, base.filterList with
  | none, _ => base
  | some condition, [] => { base with filter := .one condition }
  | some condition, conditions => { base with filter := .one (Expr.andAll conditions [condition]) }

def groupingOf (context : Context) : GroupEntry → Journaled (List Expr × List Expr)
  | .grouping given => pure (given.termList, given.havingList)
  | .name name =>
      match context.find? .group name with
      | none => pure ([.named name], [])
      | some fragment => do
          let partly ← liftExcept (fragment.apply context.request)
          if partly.groupTerms.isEmpty then note (.noGrouping (key .group name))
          else note (.applied (key .group name))
          return (partly.groupTerms, partly.havingList)

def addGroupings (context : Context) (base : Query) : Journaled Query :=
  match context.request.groupList with
  | [] => pure base
  | entries => do
      let parts ← entries.mapM context.groupingOf
      let terms := base.groupTerms ++ parts.flatMap Prod.fst
      let having := base.havingList ++ parts.flatMap Prod.snd
      return { base with
        group := .by ⟨.many terms, .ofOption (Expr.combine having)⟩ }

/-- A direction asked for replaces that of a fragment's only term. -/
def redirect (direction : Option Direction) (terms : List OrderTerm) : List OrderTerm :=
  match direction, terms with
  | some direction, [term] => [{ term with direction }]
  | _, terms => terms

def orderBy (context : Context) (name : String) (direction : Option Direction) :
    Journaled (List OrderTerm) :=
  match context.find? .order name with
  | none => pure [⟨.named name, direction.getD .ascending⟩]
  | some fragment => do
      let partly ← liftExcept (fragment.apply context.request)
      if partly.orderList.isEmpty then throw (.emptyFragment (key .order name) "ORDER BY")
      note (.applied (key .order name))
      return redirect direction partly.orderList

def orderOf (context : Context) : SortEntry → Journaled (List OrderTerm)
  | .term given => pure [given]
  | .key given => context.orderBy given.key given.direction
  | .name name => context.orderBy name none

def addOrder (context : Context) (base : Query) : Journaled Query :=
  match context.request.sortList with
  | [] => pure base
  | entries => do
      let parts ← entries.mapM context.orderOf
      return { base with order := .many (base.orderList ++ parts.flatten) }

def addClauses (context : Context) (base : Query) : Journaled Query := do
  let query ← context.addFields base
  let query ← context.addTables query
  let query ← context.addFilters query
  let query ← context.addGroupings (context.addCondition query)
  context.addOrder query

/-- The limit of the request over that of the query; a bare count becomes a window. -/
def addLimit (context : Context) (query : Query) : Query :=
  match context.request.rowLimit with
  | .absent => query
  | .rows count => { query with limit := .window ⟨.rows count, none⟩ }
  | .window window => { query with limit := .window window }

def addDistinct (context : Context) (query : Query) : Query :=
  { query with distinct := query.distinct || context.request.distinct }

end Context

end QueryWeave

import QueryWeave.Key
import QueryWeave.Tree

namespace QueryWeave

inductive FieldEntry where
  | name (name : String)
  | pair (table column : String)
  | labelled (table column : String) (label : Option String)
  | column (column : ResultColumn)

inductive GroupEntry where
  | name (name : String)
  | grouping (grouping : Grouping)

structure SortKey where
  key : String
  direction : Option Direction
  deriving DecidableEq

inductive SortEntry where
  | name (name : String)
  | key (key : SortKey)
  | term (term : OrderTerm)

def FieldEntry.name? : FieldEntry → Option String
  | name given => some given
  | _ => none

def GroupEntry.name? : GroupEntry → Option String
  | name given => some given
  | _ => none

def SortEntry.name? : SortEntry → Option String
  | name given => some given
  | _ => none

/-- The name of an entry that asks for a fragment or a column by name. -/
def SortEntry.sortName? : SortEntry → Option String
  | name given => some given
  | key given => some given.key
  | term _ => none

/-- What a caller asks for by name, and the values bound to filters.  A request is also a patch for
another one: in the last three members the outer option tells whether the member was given at all. -/
structure Request where
  distinct : Bool := false
  fields : Option (List FieldEntry) := none
  tables : Option (List String) := none
  filters : Entries Datum := []
  grouping : Option (List GroupEntry) := none
  sorting : Clause SortEntry := .absent
  condition : Option (Option Expr) := none
  limit : Option Limit := none
  constants : Option Datum := none

namespace Request

instance : Inhabited Request := ⟨{}⟩

def fieldList (request : Request) : List FieldEntry := request.fields.getD []

def tableList (request : Request) : List String := request.tables.getD []

def groupList (request : Request) : List GroupEntry := request.grouping.getD []

def sortList (request : Request) : List SortEntry := request.sorting.toList

def condition? (request : Request) : Option Expr := request.condition.join

def rowLimit (request : Request) : Limit := request.limit.getD .absent

def constant (request : Request) : Datum := request.constants.getD .null

def keys (request : Request) : List String :=
  (request.fieldList.filterMap FieldEntry.name?).map (fun name => (Key.mk .field name).render) ++
    request.tableList.map (fun name => (Key.mk .table name).render) ++
    Entries.keys request.filters ++
    (request.groupList.filterMap GroupEntry.name?).map (fun name => (Key.mk .group name).render) ++
    (request.sortList.filterMap SortEntry.sortName?).map fun name => (Key.mk .order name).render

end Request

section Concatenation

universe u

variable {α : Type u}

/-- Appends an item, unless it is a bare name that is there already. -/
def addEntry (name? : α → Option String) (entries : List α) (item : α) : List α :=
  match name? item with
  | none => entries ++ [item]
  | some name => if entries.any (name? · == some name) then entries else entries ++ [item]

def addEntries (name? : α → Option String) (entries additions : List α) : List α :=
  additions.foldl (addEntry name?) entries

/-- A list clause of a request after a patch; an empty patch list changes nothing. -/
def patchList (name? : α → Option String) (own patch : Option (List α)) : Option (List α) :=
  match patch with
  | none | some [] => own
  | some additions => some (addEntries name? (own.getD []) additions)

@[simp] theorem addEntries_nil (name? : α → Option String) (entries : List α) :
    addEntries name? entries [] = entries := rfl

@[simp] theorem addEntries_cons (name? : α → Option String) (entries : List α) (item : α)
    (rest : List α) :
    addEntries name? entries (item :: rest) =
      addEntries name? (addEntry name? entries item) rest := rfl

end Concatenation

namespace Request

def patchSorting (own patch : Clause SortEntry) : Clause SortEntry :=
  match patch with
  | .absent => own
  | patch => .many (addEntries SortEntry.name? own.toList patch.toList)

/-- A request after a patch.  Lists grow, filters merge at every depth, and the last three members
are replaced when the patch gives them, even as null. -/
def update (request patch : Request) : Request where
  distinct := request.distinct || patch.distinct
  fields := patchList FieldEntry.name? request.fields patch.fields
  tables := patchList some request.tables patch.tables
  filters := Datum.deepMerge request.filters patch.filters
  grouping := patchList GroupEntry.name? request.grouping patch.grouping
  sorting := patchSorting request.sorting patch.sorting
  condition := patch.condition <|> request.condition
  limit := patch.limit <|> request.limit
  constants := patch.constants <|> request.constants

end Request

end QueryWeave

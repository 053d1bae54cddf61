import QueryWeave.Request.Encode
import QueryWeave.Tree.Decode

namespace QueryWeave

open Read

def readLabelled (members : Entries Datum) : Option FieldEntry := do
  only members ["column", "alias"]
  let (table, column) ← required members "column" fun value _ => value.toPair?
  return .labelled table column (← optionalText members "alias")

def FieldEntry.read (value : Datum) : Option FieldEntry :=
  match value with
  | .text given => some (.name given)
  | .list _ | .pair _ _ => value.toPair?.map fun pair => .pair pair.1 pair.2
  | .object members => readLabelled members <|> (ResultColumn.read value).map .column
  | value => (ResultColumn.read value).map .column

def GroupEntry.read (value : Datum) : Option GroupEntry :=
  match value with
  | .text given => some (.name given)
  | value => (Grouping.read value).map .grouping

def readSortKey (members : Entries Datum) : Option SortEntry := do
  only members ["key", "direction"]
  let key ← text members "key"
  let direction ← optional members "direction" fun value _ => value.toText?.bind Direction.ofWord?
  return .key ⟨key, direction⟩

def SortEntry.read (value : Datum) : Option SortEntry :=
  match value with
  | .text given => some (.name given)
  | .object members => readSortKey members <|> (OrderTerm.read value).map .term
  | value => (OrderTerm.read value).map .term

namespace Request

def readLimit (value : Datum) : Option Limit :=
  if value.isNull then some .absent
  else
    match value.toInt? with
    | some count => some (.rows count)
    | none => (Window.read value).map .window

/-- A member of which it matters whether it was given. -/
def given {α : Type} (members : Entries Datum) (key : String)
    (read : Datum → Option α) : Option (Option α) :=
  match Entries.get? members key with
  | none => some none
  | some value => (read value).map some

def read : Datum → Option Request
  | .object members => do
      only members
        ["distinct", "fields", "tables", "subqueries", "conditions", "group_by", "sorting",
          "limit", "constants"]
      let distinct ← flag members "distinct"
      let fields ← optional members "fields" fun value _ =>
        value.readList fun item _ => FieldEntry.read item
      let tables ← optional members "tables" fun value _ =>
        value.readList fun item _ => item.toText?
      let filters ← withDefault members "subqueries" [] fun value _ => value.toObject?
      let condition ← given members "conditions" fun value =>
        if value.isNull then some none else (Expr.read value).map some
      let grouping ← optional members "group_by" fun value _ =>
        value.readList fun item _ => GroupEntry.read item
      let sorting ← withDefault members "sorting" .absent fun value _ =>
        value.readClause fun item _ => SortEntry.read item
      let limit ← given members "limit" readLimit
      return {
        distinct, fields, tables, filters, grouping, sorting, condition, limit
        constants := Entries.get? members "constants" }
  | _ => none

def decode (value : Datum) : Option Request :=
  (read value).filter fun given =>
    Nesting.fits .other ({ given with constants := none }.encode .record)

end Request

end QueryWeave

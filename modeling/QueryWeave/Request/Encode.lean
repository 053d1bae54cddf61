import QueryWeave.Request
import QueryWeave.Tree.Encode

namespace QueryWeave

def FieldEntry.encode (style : Style) : FieldEntry → Datum
  | name given => .text given
  | pair table member => style.pair table member
  | labelled table member label => style.object "ResultColumnShortcut"
      [("column", some (style.pair table member)), ("alias", label.map .text)]
  | column given => given.encode style

def GroupEntry.encode (style : Style) : GroupEntry → Datum
  | name given => .text given
  | grouping given => given.encode style

def SortEntry.encode (style : Style) : SortEntry → Datum
  | name given => .text given
  | key given => style.object "SortKey"
      [("key", some (.text given.key)),
        ("direction", given.direction.map fun direction => .text direction.word)]
  | term given => given.encode style

namespace Request

def encodeSorting (style : Style) : Clause SortEntry → Option Datum
  | .absent => none
  | .one entry => some (entry.encode style)
  | .many entries => some (.list (entries.map (SortEntry.encode style)))

def leading (style : Style) (request : Request) : List (String × Option Datum) :=
  [("distinct", some (.bool request.distinct)),
    ("fields", request.fields.map fun entries => .list (entries.map (FieldEntry.encode style))),
    ("tables", request.tables.map fun names => .list (names.map .text)),
    ("subqueries", some (.object request.filters))]

def trailing (style : Style) (request : Request) : List (String × Option Datum) :=
  [("group_by",
      request.grouping.map fun entries => .list (entries.map (GroupEntry.encode style))),
    ("sorting", encodeSorting style request.sorting),
    ("limit", request.rowLimit.encode style)]

def encode (style : Style) (request : Request) : Datum :=
  style.object "QueryParams"
    (leading style request ++
      [("conditions", request.condition?.map (Expr.encode style))] ++
      trailing style request ++ [("constants", request.constant.present?)])

/-- The request in full style, its condition and constants hidden. -/
def masked (request : Request) : Datum :=
  Datum.restyle .full (Style.full.object "QueryParams"
    (leading .full request ++ trailing .full request ++
      [("conditions", some (.text "<masked>")), ("constants", some (.text "<masked>"))]))

end Request

end QueryWeave

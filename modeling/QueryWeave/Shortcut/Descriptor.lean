import QueryWeave.Draft

namespace QueryWeave

inductive Unknowns where
  | none
  | flag (value : Bool)
  | counted (count : Option Int) (fromTo : Bool)
  | places (places : List (String × Int))

inductive Shortcut where
  | field (expression query : Option Draft) (published : Bool)
  | table (tables : NamedClause Table) (computed query : Option Draft)
  | filter (expression query : Option Draft) (unknowns : Unknowns)
  | group (expression query : Option Draft)
  | order (expression query : Option Draft) (direction : Direction)
  | combo (expression computed : Option Draft) (published : Bool)

structure Descriptor where
  name : String
  prerequisite : Draft
  shortcut : Shortcut

namespace Shortcut

/-- The kinds that there are from the start. -/
def builtIn : List String := ["field", "table", "subquery", "groupBy", "orderBy", "combo"]

def typeName : Shortcut → String
  | field _ _ _ => "field"
  | table _ _ _ => "table"
  | filter _ _ _ => "subquery"
  | group _ _ => "groupBy"
  | order _ _ _ => "orderBy"
  | combo _ _ _ => "combo"

end Shortcut

namespace Descriptor

section Decoding

variable (members : Entries Draft)

def member (key : String) : Draft := (Entries.get? members key).getD default

private def isNull (draft : Draft) : Bool :=
  match draft with
  | .plain .null => true
  | _ => false

private def only (keys : List String) : Option Unit :=
  if (Entries.keys members).all keys.contains then some () else none

private def function? (key : String) : Option (Option Draft) :=
  match member members key with
  | .plain .null => some none
  | .function takesRequest call => some (some (.function takesRequest call))
  | _ => none

/-- A member that is an expression, a function or left out. -/
private def expression? (key : String) : Option (Option Draft) :=
  match member members key with
  | .plain .null => some none
  | .function takesRequest call => some (some (.function takesRequest call))
  | draft => (draft.toExpr.toOption).map fun given => some (.expression given)

private def flag? (key : String) : Option Bool :=
  match Entries.get? members key with
  | none => some false
  | some draft => draft.datum.toBool?

private def direction? (key : String) : Option Direction :=
  match Entries.get? members key with
  | none => some .ascending
  | some draft => draft.datum.toText?.bind Direction.ofWord?

/-- Tables as they are written in a query, a bare list or name included. -/
def readTables (value : Datum) : Option (NamedClause Table) :=
  value.readNamedClause fun item _ => Table.read item

def tables? (value : Datum) : Option (NamedClause Table) :=
  (readTables value).filter fun tables =>
    Nesting.fits .other (Datum.ofOption (Table.encodeClause .record tables))

private def place? : Datum → Option (String × Int)
  | .list [.text name, place] => place.toInt?.map (name, ·)
  | _ => none

private def count? (spec : Entries Datum) : Option (Option Int) :=
  Read.optional spec "no_of_unknowns" fun value _ => value.toInt?

def unknowns? : Datum → Option Unknowns
  | .null => some .none
  | .list places => (places.mapM place?).map .places
  | .object spec => do
      Read.only spec ["no_of_unknowns", "from_to"]
      return .counted (← count? spec) (← Read.flag spec "from_to")
  | value => value.toBool?.map .flag

def shortcut? (type : String) : Option (List String × Option Shortcut) :=
  match type with
  | "field" => some (["expression", "query_arg", "registered"], do
      return .field (← expression? members "expression") (← function? members "query_arg")
        (← flag? members "registered"))
  | "table" => some (["from_table", "query_arg"], do
      let query ← function? members "query_arg"
      match member members "from_table" with
      | .function takesRequest call =>
          return .table .absent (some (.function takesRequest call)) query
      | draft => return .table (← tables? draft.datum) none query)
  | "subquery" => some (["expression", "subquery_arg", "unknowns"], do
      return .filter (← expression? members "expression") (← function? members "subquery_arg")
        (← unknowns? (member members "unknowns").datum))
  | "groupBy" => some (["expression", "query_arg"], do
      return .group (← expression? members "expression") (← function? members "query_arg"))
  | "orderBy" => some (["expression", "query_arg", "direction"], do
      return .order (← expression? members "expression") (← function? members "query_arg")
        (← direction? members "direction"))
  | "combo" => some (["expression", "expr_arg", "registered"], do
      return .combo (← expression? members "expression") (← function? members "expr_arg")
        (← flag? members "registered"))
  | _ => none

def decodeMembers : Option Descriptor := do
  let type ← (member members "type").datum.toText?
  let (own, shortcut) ← shortcut? members type
  only members (["type", "name", "prerequisite"] ++ own)
  let name ← (member members "name").datum.toText?
  return { name, prerequisite := member members "prerequisite", shortcut := ← shortcut }

end Decoding

def decode (draft : Draft) : Except Failure Descriptor :=
  match draft.members?.bind decodeMembers with
  | some descriptor => .ok descriptor
  | none => .error .malformed

/-- A draft in compact style, nothing for a function. -/
private def dataOf (draft : Draft) : Option Datum :=
  if draft.isFunction then none else (draft.datum.restyle .compact).present?

private def encodeUnknowns : Unknowns → Option Datum
  | .none => Option.none
  | .flag value => some (.bool value)
  | .counted count fromTo => some (Style.compact.object "UnknownsSpec"
      [("no_of_unknowns", count.map .int), ("from_to", some (.bool fromTo))])
  | .places places =>
      some (.list (places.map fun pair => .list [.text pair.1, .int pair.2]))

private def encodeShortcut : Shortcut → List (String × Option Datum)
  | .field expression _ published =>
      [("expression", expression.bind dataOf), ("registered", some (.bool published))]
  | .table tables _ _ => [("from_table", Table.encodeClause .compact tables)]
  | .filter expression _ unknowns =>
      [("expression", expression.bind dataOf), ("unknowns", encodeUnknowns unknowns)]
  | .group expression _ => [("expression", expression.bind dataOf)]
  | .order expression _ direction =>
      [("expression", expression.bind dataOf), ("direction", some (.text direction.word))]
  | .combo expression _ published =>
      [("expression", expression.bind dataOf), ("registered", some (.bool published))]

/-- A descriptor as plain data, its functions left out. -/
def encode (descriptor : Descriptor) : Datum :=
  Style.compact.object "Shortcut"
    ([("name", some (.text descriptor.name)),
      ("prerequisite", dataOf descriptor.prerequisite),
      ("type", some (.text descriptor.shortcut.typeName))] ++ encodeShortcut descriptor.shortcut)

end Descriptor

end QueryWeave

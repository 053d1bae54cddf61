import QueryWeave.Builder

/-!
Scripts: drafts with functions, written as plain data.  An object of one member whose key starts
with a dollar sign is a form; anything else stands for itself, its parts evaluated.
-/

namespace QueryWeave

/-- What a function written as data declares about its arguments. -/
structure Parameters where
  names : List String
  variadic : Bool
  /-- Nothing can be found out about the parameters. -/
  hidden : Bool

namespace Parameters

private def isMarked (name : String) : Bool :=
  match name.toList with
  | '*' :: _ | '!' :: _ => true
  | _ => false

private def isVariadic (name : String) : Bool :=
  match name.toList with
  | '*' :: _ => true
  | _ => false

/-- A name with a star takes any number of arguments, one with an exclamation mark none. -/
def ofNames (names : List String) (hidden : Bool) : Parameters where
  names :=
    match names with
    | first :: _ =>
        if isVariadic first then ["value", "params"]
        else names.filter fun name => !isMarked name
    | [] => []
  variadic := names.any isVariadic
  hidden := hidden

def ofMembers (members : Entries Datum) : Parameters :=
  let names := match Datum.member members "args" with
    | .list names => (Datum.toTexts? names).getD []
    | _ => ["params"]
  ofNames names (Datum.member members "opaque").holds

/-- Whether a filter passes the request beside the bound value. -/
def takesRequest (parameters : Parameters) : Bool :=
  parameters.hidden || parameters.variadic || 2 ≤ parameters.names.length

end Parameters

inductive Script where
  | literal (value : Datum)
  | list (items : List Script)
  | object (members : List (String × Script))
  | function (parameters : Parameters) (body : Script)
  | get (name : String) (path : List Datum)
  | choice (test yes no : Script)
  | equal (left right : Script)
  | joined (parts : List Script)
  | raise (text : String)
  | lookup (name : String)
  | find (name : String)
  | has (name : String)
  | matching (left : Script)
  | comparing (left : Script)
  | anyValue (inner : Script)
  | request (inner : Script)

namespace Script

private def bodyOf (members : List (String × Script)) : Script :=
  ((members.find? fun pair => pair.1 == "body").map Prod.snd).getD (literal .null)

mutual

def ofDatum : Datum → Script
  | .list items => list (ofData items)
  | .object [("$lit", value)] => literal value
  | .object [("$fn", .object spec)] => function (Parameters.ofMembers spec) (bodyOf (ofMembers spec))
  | .object [("$get", .list (.text name :: path))] => get name path
  | .object [("$if", .list [test, yes, no])] => choice (ofDatum test) (ofDatum yes) (ofDatum no)
  | .object [("$eq", .list [left, right])] => equal (ofDatum left) (ofDatum right)
  | .object [("$cat", .list parts)] => joined (ofData parts)
  | .object [("$raise", .text text)] => raise text
  | .object [("$reg", .text name)] => lookup name
  | .object [("$find", .text name)] => find name
  | .object [("$has", .text name)] => has name
  | .object [("$equal_or_in", left)] => matching (ofDatum left)
  | .object [("$combo", left)] => comparing (ofDatum left)
  | .object [("$any_value", inner)] => anyValue (ofDatum inner)
  | .object [("$params", inner)] => request (ofDatum inner)
  | .object members => object (ofMembers members)
  | value => literal value

def ofData : List Datum → List Script
  | [] => []
  | item :: rest => ofDatum item :: ofData rest

def ofMembers : List (String × Datum) → List (String × Script)
  | [] => []
  | (key, value) :: rest => (key, ofDatum value) :: ofMembers rest

end

/-- The names that a script can refer to, the innermost first. -/
abbrev Scope := Entries Argument

/-- An argument as data that a path can be followed in: a finished part is an object in compact
style. -/
private def opened (argument : Argument) : Datum :=
  match argument.datum with
  | .record form members => (Datum.record form members).restyle .compact
  | value => value

/-- The datum under a path of member names and places; null as soon as something is missing. -/
def follow (value : Datum) : List Datum → Datum
  | [] => value
  | .text key :: rest =>
      match value with
      | .object members => follow (Datum.member members key) rest
      | _ => .null
  | .int place :: rest =>
      match value with
      | .list items => if place < 0 then .null else follow (items[place.toNat]?.getD .null) rest
      | _ => .null
  | _ => .null

def inCatalogue {α : Type} (scope : Scope) (action : Lookup α) : Lookup α :=
  match Entries.get? scope "registered" with
  | some .catalogue => action
  | _ => throw Failure.wrongType

mutual

def eval (scope : Scope) : Script → Lookup Draft
  | literal value => pure (.plain value)
  | list items => do return .list (← evalAll scope items)
  | object members => do return .object (← evalMembers scope members)
  | function parameters body =>
      pure (.function parameters.takesRequest fun arguments =>
        eval (parameters.names.zip arguments ++ scope) body)
  | get name path =>
      match Entries.get? scope name with
      | some entry => pure (.plain (follow (opened entry) path))
      | none => pure (.plain .null)
  | choice test yes no => do
      let value ← eval scope test
      if value.holds then eval scope yes else eval scope no
  | equal left right => do
      let first ← eval scope left
      let second ← eval scope right
      return .plain (.bool (first.datum.identical second.datum))
  | joined parts => do
      let values ← evalAll scope parts
      return .plain (.text (String.join (values.map fun value => value.datum.display)))
  | raise text => throw (.raised text)
  | lookup name => inCatalogue scope fun catalogue => do
      let (expression, catalogue) ← catalogue.lookup name
      return (.expression expression, catalogue)
  | find name => inCatalogue scope fun catalogue =>
      match catalogue.find? name with
      | some expression => return (.expression expression, catalogue)
      | none => return (.plain .null, catalogue)
  | has name => inCatalogue scope fun catalogue =>
      return (.plain (.bool (catalogue.has name)), catalogue)
  | matching left => do
      let value ← eval scope left
      return .matching (← liftExcept value.toExpr)
  | comparing left => do return .comparing (← eval scope left)
  | anyValue inner => do return .anyValue (← eval scope inner)
  | request inner => do
      let value ← eval scope inner
      return .request (← liftExcept value.toRequest)

def evalAll (scope : Scope) : List Script → Lookup (List Draft)
  | [] => pure []
  | item :: rest => do
      let first ← eval scope item
      let others ← evalAll scope rest
      return first :: others

def evalMembers (scope : Scope) : List (String × Script) → Lookup (List (String × Draft))
  | [] => pure []
  | (key, item) :: rest => do
      let first ← eval scope item
      let others ← evalMembers scope rest
      return (key, first) :: others

end

/-- The draft that plain data describe. -/
def draft (value : Datum) : Except Failure Draft :=
  (eval [] (ofDatum value) {}).map Prod.fst

end Script

end QueryWeave

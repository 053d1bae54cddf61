import QueryWeave.Fragment

namespace QueryWeave

abbrev Registry := Entries Fragment

namespace Registry

def validName (name : String) : Bool :=
  name != "" && !name.toList.contains ':'

def nameOf (name : Datum) : Except Failure String :=
  match name with
  | .text given => if validName given then .ok given else .error (.invalidName given)
  | name => .error (.invalidName name.display)

/-- A registering action: the registry and the journal. -/
structure Shelf where
  registry : Registry
  journal : Journal := []

abbrev Registering := Action Shelf

def noting (entry : Entry) : Registering Unit :=
  modify fun shelf => { shelf with journal := shelf.journal ++ [entry] }

/-- Registers what an action makes, under a key that is free or may be overwritten. -/
def registerWith (kind : Kind) (name : Datum) (overwrite : Bool)
    (make : Except Failure Fragment) : Registering String := do
  let name ← liftExcept (nameOf name)
  let key := (Key.mk kind name).render
  if Entries.has (← get).registry key then
    if overwrite then noting (.overwritten key)
    else throw (.alreadyRegistered key)
  let fragment ← liftExcept make
  modify fun shelf => { shelf with registry := Entries.put shelf.registry key fragment }
  noting (.registered key)
  return key

def register (kind : Kind) (name : Datum) (source prerequisite : Draft) (overwrite : Bool) :
    Registering String :=
  registerWith kind name overwrite (Fragment.ofDraft source prerequisite)

/-- Changes the fragment under a key, if there is one. -/
def modifyAt (key : String) (change : Fragment → Fragment) (registry : Registry) : Registry :=
  match Entries.get? registry key with
  | some fragment => Entries.put registry key (change fragment)
  | none => registry

end Registry

/-! A pair of a field and a grouping for one expression. -/

namespace GroupField

def grouped (name : String) (request : Request) : Bool :=
  request.fieldList.any (·.name? == some name) && request.groupList.any (·.name? == some name)

/-- Whether entries of a request that is held as data list a bare name. -/
def lists (name : String) (entries : Datum) : Bool :=
  match entries with
  | .list items => items.any fun item => item.toText? == some name
  | _ => false

/-- `grouped` for a bound value; what is no request has no such members. -/
def groupedIn (name : String) (bound : Datum) : Except Failure Bool :=
  match bound with
  | .record "QueryParams" members =>
      .ok (lists name (Datum.member members "fields") &&
        lists name (Datum.member members "group_by"))
  | _ => .error .noMembers

/-- An expression that may be computed from what a fragment is called with. -/
abbrev Computed := Catalogue → Argument → Except Failure Expr

/-- The column, under the alias when it is grouped by and under the name otherwise. -/
def column (name label : String) (resolve : Computed) : Recipe :=
  .computed
    (fun catalogue request => do
      let expression ← resolve catalogue (.request request)
      let shown := if grouped name request then label else name
      return { Query.empty with select := .many [⟨expression, some shown⟩] })
    fun catalogue bound _ => do
      let expression ← resolve catalogue (.bound bound)
      let shown := if ← groupedIn name bound then label else name
      return { Query.empty with select := .many [⟨expression, some shown⟩] }

/-- The grouping, by the alias when the column is selected and by the expression otherwise. -/
def grouping (name label : String) (resolve : Computed) : Recipe :=
  .computed
    (fun catalogue request => do
      let term ←
        if grouped name request then .ok (Expr.named label)
        else resolve catalogue (.request request)
      return { Query.empty with group := .by ⟨.many [term], .absent⟩ })
    fun catalogue bound _ => do
      let term ←
        if ← groupedIn name bound then .ok (Expr.named label)
        else resolve catalogue (.bound bound)
      return { Query.empty with group := .by ⟨.many [term], .absent⟩ }

end GroupField

namespace Registry

/-- Registers a field and a grouping that share an expression and a prerequisite. -/
def registerGroupField (name : Datum) (expression : Draft) (labelStart : String)
    (prerequisite : Prerequisite) (overwrite : Bool) : Registering Unit := do
  let shown := name.display
  let label := labelStart ++ shown
  let resolve : GroupField.Computed := fun catalogue argument =>
    (expression.resolveExpr argument catalogue).map Prod.fst
  let field := GroupField.column shown label resolve
  let group := GroupField.grouping shown label resolve
  let _ ← registerWith .field name overwrite (.ok { recipe := field, prerequisite })
  let _ ← registerWith .group name overwrite (.ok { recipe := group, prerequisite })

end Registry

end QueryWeave

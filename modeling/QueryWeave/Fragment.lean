import QueryWeave.Draft
import QueryWeave.Tree.Merge
import QueryWeave.Tree.Placeholder

namespace QueryWeave

/-- A text with holes, known by what it makes of a value.  How a text is rendered is left open: it is
for the renderer to say, and so is why it cannot be. -/
structure Template where
  text : String
  render : Datum → Except String String

/-- A named value for a placeholder. -/
structure Slot where
  name : String
  default : Datum
  format : Option Template

namespace Slot

/-- A format is rendered with the whole value; without one a member is taken from an object and
anything else is taken as it is. -/
def resolve (slot : Slot) (value : Datum) : Except Failure Datum :=
  match slot.format with
  | some format =>
      match format.render value with
      | .ok text => .ok (.text text)
      | .error reason => .error (.unrendered reason)
  | none =>
      match value with
      | .object members => .ok (Datum.member members slot.name)
      | value => .ok value

end Slot

/-- Where the query of a fragment comes from. -/
inductive Recipe where
  | fixed (query : Query)
  /-- What is neither a query nor a function; applying it fails. -/
  | unusable
  /-- Functions of what is published: of the request, and of the bound value and the request. -/
  | computed (ofRequest : Catalogue → Request → Except Failure Query)
      (ofBound : Catalogue → Datum → Request → Except Failure Query)

namespace Recipe

private def toQuery (outcome : Except Failure (Draft × Catalogue)) : Except Failure Query := do
  (← outcome).1.toQuery

/-- A function is called with the request, or, for a filter, with the bound value and, if it
takes it, the request. -/
def ofFunction (takesRequest : Bool)
    (call : List Argument → Catalogue → Except Failure (Draft × Catalogue)) : Recipe :=
  .computed (fun catalogue request => toQuery (call [.request request] catalogue))
    fun catalogue bound request =>
      let arguments :=
        if takesRequest then [.bound bound, .request request] else [.bound bound]
      toQuery (call arguments catalogue)

/-- An object has to be a query; other unfit values show when the fragment is applied. -/
def ofDraft (draft : Draft) : Except Failure Recipe :=
  match draft with
  | .function takesRequest call => .ok (ofFunction takesRequest call)
  | .query query => .ok (.fixed query)
  | .plain .null => .ok (.fixed .empty)
  | draft =>
      match draft.members? with
      | some _ => draft.toQuery.map .fixed
      | none => .ok .unusable

end Recipe

/-- A named source of partial queries.  A filter binds values to the placeholders of its query: that at
a place takes the value of the slot registered there. -/
structure Fragment where
  recipe : Recipe
  prerequisite : Prerequisite
  /-- The slots by place, in ascending order. -/
  slots : List (Int × Slot) := []
  /-- The expressions that a computed recipe can look up. -/
  catalogue : Catalogue := {}

namespace Fragment

def ofDraft (source prerequisite : Draft) : Except Failure Fragment := do
  let recipe ← Recipe.ofDraft source
  return { recipe, prerequisite := ← prerequisite.toPrerequisite }

private def putSlot (place : Int) (slot : Slot) :
    List (Int × Slot) → List (Int × Slot)
  | [] => [(place, slot)]
  | (other, held) :: rest =>
      if place < other then (place, slot) :: (other, held) :: rest
      else if place = other then (place, slot) :: rest
      else (other, held) :: putSlot place slot rest

/-- Binds the placeholder at a place to a slot, instead of any other. -/
def register (fragment : Fragment) (place : Int) (slot : Slot) : Fragment :=
  { fragment with slots := putSlot place slot fragment.slots }

/-- A copy that has every slot registered anew. -/
def copy (fragment : Fragment) : Fragment :=
  fragment.slots.foldl (fun copied pair => copied.register pair.1 pair.2)
    { fragment with slots := [] }

def slotAt? (fragment : Fragment) (place : Nat) : Option Slot :=
  (fragment.slots.find? fun pair => pair.1 == (place : Int)).map Prod.snd

def defaults (fragment : Fragment) : Entries Datum :=
  Entries.ofPairs (fragment.slots.map fun pair => (pair.2.name, pair.2.default))

/-- What is bound when a caller asks for a filter without a value. -/
def default (fragment : Fragment) : Datum :=
  if fragment.slots.isEmpty then .bool true else .object fragment.defaults

/-- The value that slots are resolved against: what the caller bound, over the defaults. -/
def effectiveValue (fragment : Fragment) (bound : Datum) : Datum :=
  match bound with
  | .null | .bool true => fragment.default
  | .object members =>
      if fragment.slots.isEmpty then .object members
      else .object (Entries.overlay fragment.defaults members)
  | value =>
      if fragment.slots.isEmpty then value
      else .object (Entries.put fragment.defaults "value" value)

/-- The partial query for a clause other than the filters. -/
def apply (fragment : Fragment) (request : Request) : Except Failure Query :=
  match fragment.recipe with
  | .fixed query => .ok query.withoutWildcard
  | .unusable => .error .malformed
  | .computed ofRequest _ => (ofRequest fragment.catalogue request).map Query.withoutWildcard

/-- The partial query of a filter before its placeholders are bound. -/
def produce (fragment : Fragment) (bound : Datum) (request : Request) : Except Failure Query :=
  match fragment.recipe with
  | .fixed query => .ok query.withoutWildcard
  | .unusable => .error .malformed
  | .computed _ ofBound => (ofBound fragment.catalogue bound request).map Query.withoutWildcard

/-- The name and the value of every placeholder, `place` being that of the first. -/
def bindings (fragment : Fragment) (value : Datum) (place : Nat) :
    List Datum → Except Failure (List (String × Datum))
  | [] => .ok []
  | held :: rest => do
      let first ← match fragment.slotAt? place with
        | some slot => (slot.resolve value).map (slot.name, ·)
        | none => .ok ("(not-registered)", held)
      let others ← bindings fragment value (place + 1) rest
      return first :: others

private def shownBindings (bound : List (String × Datum)) (value : Datum) :
    List (String × Datum) :=
  match bound, value with
  | [], .object members => members
  | bound, _ => bound

/-- The partial query of a filter with its placeholders bound. -/
def applyFilter (fragment : Fragment) (name : String) (request : Request) : Journaled Query := do
  let bound := Datum.member request.filters name
  let query ← liftExcept (fragment.produce bound request)
  let value := fragment.effectiveValue bound
  let pairs ← liftExcept (fragment.bindings value 0 query.placeholders)
  note (.filterApplied name (shownBindings pairs value))
  return query.fill (pairs.map Prod.snd)

end Fragment

end QueryWeave

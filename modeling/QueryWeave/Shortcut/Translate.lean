import QueryWeave.Builder
import QueryWeave.Registry
import QueryWeave.Shortcut.Descriptor

namespace QueryWeave

structure Desk where
  registry : Registry
  catalogue : Catalogue := {}
  /-- What the caller passes through to the handlers. -/
  options : Entries Datum := []
  journal : Journal := []

abbrev Translating := Action Desk

namespace Translating

def note (entry : Entry) : Translating Unit :=
  modify fun desk => { desk with journal := desk.journal ++ [entry] }

def looking {α : Type} (step : Lookup α) : Translating α := do
  let (value, catalogue) ← liftExcept (step (← get).catalogue)
  modify fun desk => { desk with catalogue }
  return value

def registering {α : Type} (action : Registry.Registering α) : Translating α :=
  fun desk =>
    let (outcome, shelf) := action ⟨desk.registry, desk.journal⟩
    (outcome, { desk with registry := shelf.registry, journal := shelf.journal })

/-- A draft's own value: a function is called with the lookup. -/
def evaluate (draft : Draft) : Translating Draft :=
  looking (draft.evaluate [.catalogue])

def evaluateExpr (draft : Draft) : Translating Expr := do
  let value ← evaluate draft
  liftExcept value.toExpr

/-- The prerequisite of a descriptor with those of the expressions it has read. -/
def prerequisiteOf (own : Draft) : Translating Prerequisite := do
  let own ← liftExcept own.toPrerequisite
  looking fun catalogue => catalogue.withReads own

def publish (name : String) (expression : Expr) (prerequisite : Prerequisite) :
    Translating Unit :=
  modify fun desk => { desk with catalogue := desk.catalogue.add name expression prerequisite }

def register (kind : Kind) (name : String) (recipe : Except Failure Recipe)
    (prerequisite : Prerequisite) : Translating Unit := do
  let fragment := recipe.map fun recipe => { recipe, prerequisite }
  let _ ← registering (Registry.registerWith kind (.text name) false fragment)

def registerQuery (kind : Kind) (name : String) (query : Query) (prerequisite : Prerequisite) :
    Translating Unit :=
  register kind name (.ok (.fixed query)) prerequisite

/-- Registers what a function of the lookup makes. -/
def registerComputed (kind : Kind) (name : String) (source prerequisite : Draft) :
    Translating Unit := do
  let source ← evaluate source
  let prerequisite ← prerequisiteOf prerequisite
  register kind name (Recipe.ofDraft source) prerequisite

end Translating

namespace Descriptor

open Translating

variable (name : String) (prerequisite : Draft)

def invalid (type : String) : Translating Unit :=
  Translating.note (.unknownShortcut type name)

def translateField (expression query : Option Draft) (published : Bool) :
    Translating Unit := do
  match expression, query with
  | some draft, _ =>
      let expression ← evaluateExpr draft
      let prerequisite ← prerequisiteOf prerequisite
      if published then publish name expression prerequisite
      let columns := Clause.many [ResultColumn.mk expression (some name)]
      registerQuery .field name { Query.empty with select := columns } prerequisite
  | none, some source => registerComputed .field name source prerequisite
  | none, none => invalid name "field"

/-- Whether tables are not nested too deeply to stand in a query. -/
private def fits (tables : NamedClause Table) : Bool :=
  Nesting.fits .query ({ Query.empty with tables }.encode .record)

private def tablesOf (value : Draft) : Except Failure (NamedClause Table) :=
  match (readTables value.datum).filter fits with
  | some tables => .ok tables
  | none => .error .malformed

def translateTable (tables : NamedClause Table) (computed query : Option Draft) :
    Translating Unit := do
  match tables, computed, query with
  | .absent, some source, _ =>
      let value ← evaluate source
      let tables ← liftExcept (tablesOf value)
      registerQuery .table name { Query.empty with tables } (← prerequisiteOf prerequisite)
  | .absent, none, some source => registerComputed .table name source prerequisite
  | .absent, none, none => invalid name "table"
  | tables, _, _ =>
      registerQuery .table name { Query.empty with tables } (← prerequisiteOf prerequisite)

/-- The places of a filter's placeholders with the names they are bound to. -/
def placesOf : Unknowns → List (String × Int)
  | .none | .flag false => []
  | .flag true => [("value", 0)]
  | .places places => places
  | .counted count true =>
      let count := if count.getD 0 = 0 then 2 else (count.getD 0).toNat
      (List.range ((count + 1) / 2)).flatMap fun i =>
        [("from", Int.ofNat (2 * i)), ("to", Int.ofNat (2 * i + 1))]
  | .counted count false =>
      let count := if count.getD 0 = 0 then 1 else (count.getD 0).toNat
      (List.range count).map fun i => ("value", Int.ofNat i)

def bindPlaces (places : List (String × Int)) : Translating Unit :=
  modify fun desk =>
    { desk with
      registry := Registry.modifyAt name (fun fragment =>
        places.foldl (fun fragment pair => fragment.register pair.2 ⟨pair.1, .null, none⟩)
          fragment) desk.registry }

def translateFilter (expression query : Option Draft) (unknowns : Unknowns) :
    Translating Unit := do
  match expression, query with
  | some draft, _ =>
      let condition ← evaluateExpr draft
      let prerequisite ← prerequisiteOf prerequisite
      registerQuery .filter name { Query.empty with filter := .many [condition] } prerequisite
      bindPlaces name (placesOf unknowns)
  | none, some source =>
      registerComputed .filter name source prerequisite
      bindPlaces name (placesOf unknowns)
  | none, none => invalid name "subquery"

def translateGroup (expression query : Option Draft) : Translating Unit := do
  match expression, query with
  | some draft, _ =>
      let term ← evaluateExpr draft
      let group := Group.by ⟨.many [term], .absent⟩
      registerQuery .group name { Query.empty with group } (← prerequisiteOf prerequisite)
  | none, some source => registerComputed .group name source prerequisite
  | none, none => invalid name "groupBy"

def translateOrder (expression query : Option Draft) (direction : Direction) :
    Translating Unit := do
  match expression, query with
  | some draft, _ =>
      let expression ← evaluateExpr draft
      let order := NamedClause.many [OrderTerm.mk expression direction]
      registerQuery .order name { Query.empty with order } (← prerequisiteOf prerequisite)
  | none, some source => registerComputed .order name source prerequisite
  | none, none => invalid name "orderBy"

/-- A finished expression, unless it is a function. -/
def settleExpr (draft : Draft) : Except Failure Draft :=
  if draft.isFunction then .ok draft else draft.toExpr.map .expression

def publishDraft (published : Bool) (draft : Draft) (prerequisite : Prerequisite) :
    Translating Unit :=
  match published, draft with
  | true, .expression given => publish name given prerequisite
  | _, _ => pure ()

def registerGrouped (name : String) (expression : Draft) (prerequisite : Prerequisite) :
    Translating Unit :=
  registering (Registry.registerGroupField (.text name) expression "group_" prerequisite false)

def translateCombo (expression computed : Option Draft) (published : Bool) :
    Translating Unit := do
  match expression <|> computed with
  | none => throw (.raised s!"combo '{name}' has no expression")
  | some draft =>
      let value ← evaluate draft
      let value ← liftExcept (settleExpr value)
      let prerequisite ← prerequisiteOf prerequisite
      publishDraft name published value prerequisite
      registerGrouped name value prerequisite
      registerGrouped (name ++ "Any") (.anyValue value) prerequisite
      register .filter name (Recipe.ofDraft (.comparing value)) prerequisite

def translate (descriptor : Descriptor) : Translating Unit :=
  let name := descriptor.name
  let prerequisite := descriptor.prerequisite
  match descriptor.shortcut with
  | .field expression query published =>
      translateField name prerequisite expression query published
  | .table tables computed query => translateTable name prerequisite tables computed query
  | .filter expression query unknowns =>
      translateFilter name prerequisite expression query unknowns
  | .group expression query => translateGroup name prerequisite expression query
  | .order expression query direction =>
      translateOrder name prerequisite expression query direction
  | .combo expression computed published =>
      translateCombo name prerequisite expression computed published

end Descriptor

end QueryWeave

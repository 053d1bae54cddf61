import QueryWeave.Composer.Clauses
import QueryWeave.Shortcut.Handlers
import QueryWeave.Tree.Pattern

namespace QueryWeave

inductive Base where
  | fixed (query : Query)
  | computed (make : Request → Except Failure Query)

namespace Base

/-- A function of the request stays one; anything else has to be a query. -/
def ofDraft (draft : Draft) : Except Failure Base :=
  match draft with
  | .function _ call => .ok (.computed fun request => do
      (← call [.request request] {}).1.toQuery)
  | draft => draft.toQuery.map .fixed

def query (base : Base) (request : Request) : Except Failure Query :=
  match base with
  | fixed given => .ok given
  | computed make => make request

end Base

/-- What is done to a query once every clause is in place. -/
abbrev Finisher := Query → Except Failure Query

namespace Finisher

/-- Makes every text that stands in a pattern match itself. -/
def escapePatterns : Finisher := fun query => .ok query.escapePatterns

def runAll (finishers : List Finisher) (query : Query) : Except Failure Query :=
  finishers.foldlM (fun query finisher => finisher query) query

end Finisher

/-- A base query and the fragments from which a request picks. -/
structure Composer where
  base : Base := .fixed .empty
  registry : Registry := []
  finishers : List Finisher := [Finisher.escapePatterns]
  handlers : Handlers := {}

namespace Composer

instance : Inhabited Composer := ⟨{}⟩

/-- The filter that is applied on every call, once one is registered under this name. -/
def defaultFilter : String := "default"

/-- A request with its closure written into it. -/
def close (registry : Registry) (request : Request) : Journaled Request :=
  fun journal =>
    let (outcome, search) := Closure.search registry { request, journal }
    (outcome.map fun keys => Closure.writeBack registry keys search.request, search.journal)

def withDefaultFilter (registry : Registry) (options : Options) (request : Request) : Request :=
  if options.withDefault.holds && Entries.has registry defaultFilter then
    { request with filters := Entries.put request.filters defaultFilter (.bool true) }
  else request

def prepare (composer : Composer) (options : Options) (request : Request) :
    Journaled Request := do
  note (.request .before request.masked)
  let closed ← close composer.registry request
  let working := withDefaultFilter composer.registry options closed
  note (.request .after working.masked)
  return working

def compose (composer : Composer) (options : Options) (request : Request) : Journaled Query := do
  let working ← composer.prepare options request
  let base ← liftExcept (composer.base.query working)
  let context : Context := { registry := composer.registry, request := working, options }
  let query ← context.addClauses base.withoutWildcard
  let query := context.addDistinct (context.addLimit query)
  liftExcept (Finisher.runAll composer.finishers query.collapseHaving)

/-- A copy with copies of the fragments, under their keys in order. -/
def copy (composer : Composer) : Composer :=
  { composer with
    registry := Entries.ofPairs (composer.registry.map fun pair => (pair.1, pair.2.copy)) }

def addFinisher (composer : Composer) (finisher : Finisher) : Composer :=
  { composer with finishers := composer.finishers ++ [finisher] }

end Composer

/-- A composer under construction, with the journal of what is done to it. -/
structure Workbench where
  composer : Composer
  journal : Journal := []

abbrev Building := Action Workbench

namespace Building

def registering {α : Type} (action : Registry.Registering α) : Building α :=
  fun bench =>
    let (outcome, shelf) := action ⟨bench.composer.registry, bench.journal⟩
    (outcome, ⟨{ bench.composer with registry := shelf.registry }, shelf.journal⟩)

def register (kind : Kind) (name : Datum) (source prerequisite : Draft) (overwrite : Bool) :
    Building Unit := do
  let _ ← registering (Registry.register kind name source prerequisite overwrite)

def registerGroupField (name : Datum) (expression : Draft) (labelStart : String)
    (prerequisite : Draft) (overwrite : Bool) : Building Unit := do
  let prerequisite ← liftExcept prerequisite.toPrerequisite
  registering (Registry.registerGroupField name expression labelStart prerequisite overwrite)

def bind (key : String) (place : Int) (slot : Slot) : Building Fragment := do
  match Entries.get? (← get).composer.registry key with
  | none => throw (.missingKey key)
  | some fragment =>
      let bound := fragment.register place slot
      modify fun bench =>
        { bench with
          composer := { bench.composer with
            registry := Entries.put bench.composer.registry key bound } }
      return bound

def useShortcuts (descriptors : Draft) (options : Entries Datum) : Building Unit := do
  let descriptors ← liftExcept (Handlers.descriptors descriptors)
  fun bench =>
    let handlers := bench.composer.handlers
    let (outcome, desk) := handlers.translateAll descriptors
      { registry := bench.composer.registry, options, journal := bench.journal }
    (outcome, ⟨{ bench.composer with registry := desk.registry }, desk.journal⟩)

end Building

end QueryWeave

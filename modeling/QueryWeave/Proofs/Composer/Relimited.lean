import QueryWeave.Proofs.Closure.Trail
import QueryWeave.Proofs.Composer.Stages

namespace QueryWeave

/-- The query with another limit, if one is given. -/
def Query.relimited (query : Query) : Option Limit → Query
  | none => query
  | some limit => { query with limit }

namespace Fragment

/-- A fragment whose queries have another limit, if one is given. -/
def relimited (fragment : Fragment) : Option Limit → Fragment
  | none => fragment
  | some limit =>
      { fragment with
        recipe := match fragment.recipe with
          | .fixed query => .fixed { query with limit }
          | .unusable => .unusable
          | .computed ofRequest ofBound =>
              .computed
                (fun catalogue request => (ofRequest catalogue request).map ({ · with limit }))
                fun catalogue bound request =>
                  (ofBound catalogue bound request).map ({ · with limit }) }

variable (fragment : Fragment) (limit : Option Limit)

@[simp] theorem prerequisite_relimited :
    (fragment.relimited limit).prerequisite = fragment.prerequisite := by
  cases limit <;> rfl

@[simp] theorem default_relimited : (fragment.relimited limit).default = fragment.default := by
  cases limit <;> rfl

theorem apply_relimited (request : Request) :
    (fragment.relimited limit).apply request =
      (fragment.apply request).map fun query => query.relimited limit := by
  cases limit with
  | none =>
      change fragment.apply request = (fragment.apply request).map id
      cases fragment.apply request <;> rfl
  | some limit =>
      rw [apply, apply, relimited]
      cases fragment.recipe with
      | fixed query => rfl
      | unusable => rfl
      | computed ofRequest ofBound =>
          dsimp only
          cases ofRequest fragment.catalogue request <;> rfl

end Fragment

/-- The registry with other limits for some of its fragments. -/
def Registry.relimited (registry : Registry) (limits : String → Option Limit) : Registry :=
  registry.map fun pair => (pair.1, pair.2.relimited (limits pair.1))

namespace Registry

variable {limits : String → Option Limit} {registry : Registry}

theorem get?_relimited (key : String) :
    Entries.get? (registry.relimited limits) key =
      (Entries.get? registry key).map fun fragment => fragment.relimited (limits key) := by
  induction registry with
  | nil => rfl
  | cons pair rest ih =>
      obtain ⟨held, fragment⟩ := pair
      rw [relimited, List.map_cons, Entries.get?, Entries.get?]
      split
      next heq =>
        rw [heq]
        rfl
      next => exact ih

theorem has_relimited : Entries.has (registry.relimited limits) = Entries.has registry := by
  funext key
  rw [Entries.has, Entries.has, get?_relimited, Option.isSome_map]

end Registry

namespace Closure

variable {limits : String → Option Limit} {registry : Registry}

theorem requirements_relimited (key : String) (fragment : Fragment) (limit : Option Limit) :
    requirements (registry.relimited limits) key (fragment.relimited limit) =
      requirements registry key fragment := by
  have hrequired : required (registry.relimited limits) = required registry := by
    funext key requirement
    unfold required
    rw [Registry.has_relimited]
  rw [requirements, requirements, hrequired, Fragment.prerequisite_relimited]

theorem visitAll_relimited (path keys : List String) :
    visitAll (registry.relimited limits) path keys = visitAll registry path keys := by
  induction path, keys using visitAll.induct registry with
  | case1 path => rw [visitAll, visitAll]
  | case2 path key rest hcycle => rw [visitAll_cons_of_mem hcycle, visitAll_cons_of_mem hcycle]
  | case3 path key rest hfresh hmissing hempty ih =>
      have hmissing' : Entries.get? (registry.relimited limits) key = none := by
        rw [Registry.get?_relimited, hmissing, Option.map_none]
      rw [visitAll_cons_of_missing hfresh hmissing', visitAll_cons_of_missing hfresh hmissing, ih]
  | case4 path key rest hfresh hmissing hempty =>
      have hmissing' : Entries.get? (registry.relimited limits) key = none := by
        rw [Registry.get?_relimited, hmissing, Option.map_none]
      rw [visitAll_cons_of_missing hfresh hmissing', visitAll_cons_of_missing hfresh hmissing,
        if_neg hempty, if_neg hempty]
  | case5 path key rest hfresh fragment hfound ihnames ihrest =>
      have hfound' : Entries.get? (registry.relimited limits) key =
          some (fragment.relimited (limits key)) := by
        rw [Registry.get?_relimited, hfound, Option.map_some]
      rw [visitAll_cons_of_get? hfresh hfound', visitAll_cons_of_get? hfresh hfound,
        requirements_relimited, ihrest]
      simp only [ihnames]

theorem search_relimited : search (registry.relimited limits) = search registry := by
  simp only [search, visitAll_relimited]

theorem writeBack_relimited (keys : List String) (request : Request) :
    writeBack (registry.relimited limits) keys request = writeBack registry keys request := by
  have hfilter : addFilter (registry.relimited limits) = addFilter registry := by
    funext filters name
    rw [addFilter, addFilter, Registry.get?_relimited]
    cases Entries.get? registry name with
    | none => rfl
    | some fragment =>
        simp only [Option.map_some, Fragment.default_relimited]
  rw [writeBack, writeBack, hfilter]

end Closure

namespace Context

variable {limits : String → Option Limit} {registry : Registry} {request : Request}
  {options : Options}

theorem liftExcept_map_bind {α β γ σ : Type} (outcome : Except Failure α) (f : α → β)
    (next : β → Action σ γ) :
    (liftExcept (outcome.map f) >>= next) = (liftExcept outcome >>= fun value => next (f value)) := by
  cases outcome <;> rfl

theorem find?_relimited (kind : Kind) (name : String) :
    (Context.mk (registry.relimited limits) request options).find? kind name =
      ((Context.mk registry request options).find? kind name).map fun fragment =>
        fragment.relimited (limits (key kind name)) :=
  Registry.get?_relimited _

theorem columnsOf_relimited :
    (Context.mk (registry.relimited limits) request options).columnsOf =
      (Context.mk registry request options).columnsOf := by
  funext entry
  cases entry with
  | name name =>
      rw [columnsOf, columnsOf, find?_relimited]
      cases (Context.mk registry request options).find? .field name with
      | none => rfl
      | some fragment =>
          dsimp only [Option.map_some]
          rw [Fragment.apply_relimited, liftExcept_map_bind]
          cases limits (key .field name) <;> rfl
  | pair table column => rfl
  | labelled table column label => rfl
  | column given => rfl

theorem groupingOf_relimited :
    (Context.mk (registry.relimited limits) request options).groupingOf =
      (Context.mk registry request options).groupingOf := by
  funext entry
  cases entry with
  | grouping given => rfl
  | name name =>
      rw [groupingOf, groupingOf, find?_relimited]
      cases (Context.mk registry request options).find? .group name with
      | none => rfl
      | some fragment =>
          dsimp only [Option.map_some]
          rw [Fragment.apply_relimited, liftExcept_map_bind]
          cases limits (key .group name) <;> rfl

theorem orderBy_relimited :
    (Context.mk (registry.relimited limits) request options).orderBy =
      (Context.mk registry request options).orderBy := by
  funext name direction
  rw [orderBy, orderBy, find?_relimited]
  cases (Context.mk registry request options).find? .order name with
  | none => rfl
  | some fragment =>
      dsimp only [Option.map_some]
      rw [Fragment.apply_relimited, liftExcept_map_bind]
      cases limits (key .order name) <;> rfl

theorem orderOf_relimited :
    (Context.mk (registry.relimited limits) request options).orderOf =
      (Context.mk registry request options).orderOf := by
  funext entry
  cases entry with
  | term given => rfl
  | key given => rw [orderOf, orderOf, orderBy_relimited]
  | name name => rw [orderOf, orderOf, orderBy_relimited]

theorem addTable_relimited :
    (Context.mk (registry.relimited limits) request options).addTable =
      (Context.mk registry request options).addTable := by
  funext base name
  rw [addTable, addTable, find?_relimited]
  cases (Context.mk registry request options).find? .table name with
  | none => rfl
  | some fragment =>
      dsimp only [Option.map_some]
      rw [Fragment.apply_relimited, liftExcept_map_bind]
      cases limits (key .table name) <;> rfl

theorem addFilters_relimited (hfilters : ∀ name ∈ Entries.keys request.filters, limits name = none)
    (base : Query) :
    (Context.mk (registry.relimited limits) request options).addFilters base =
      (Context.mk registry request options).addFilters base := by
  apply Action.foldlM_congr
  intro query name hname
  rw [addFilter, addFilter, Registry.get?_relimited, hfilters name hname]
  cases Entries.get? registry name <;> rfl

/-- The clause steps use no limits but those of filters. -/
theorem addClauses_relimited (hfilters : ∀ name ∈ Entries.keys request.filters, limits name = none)
    (base : Query) :
    (Context.mk (registry.relimited limits) request options).addClauses base =
      (Context.mk registry request options).addClauses base := by
  have hcondition : (Context.mk (registry.relimited limits) request options).addCondition =
      (Context.mk registry request options).addCondition := rfl
  simp only [addClauses, addFields, addTables, addGroupings, addOrder, columnsOf_relimited,
    groupingOf_relimited, orderOf_relimited, addTable_relimited, addFilters_relimited hfilters,
    hcondition]

end Context

namespace Composer

/-- The composer with other limits for some of its fragments. -/
def relimited (composer : Composer) (limits : String → Option Limit) : Composer :=
  { composer with registry := composer.registry.relimited limits }

variable {composer : Composer} {limits : String → Option Limit} {options : Options}
  {request : Request} {journal : Journal}

theorem prepare_relimited :
    (composer.relimited limits).prepare options request = composer.prepare options request := by
  have hclose : close (composer.registry.relimited limits) = close composer.registry := by
    funext request journal
    simp only [close, Closure.search_relimited, Closure.writeBack_relimited]
  have hdefault : withDefaultFilter (composer.registry.relimited limits) =
      withDefaultFilter composer.registry := by
    funext options request
    simp only [withDefaultFilter, Registry.has_relimited]
  simp only [prepare, relimited, hclose, hdefault]

/-- Limits of fragments that are no filters of the working request show nowhere. -/
theorem compose_relimited {working : Request}
    (hprepared : (composer.prepare options request journal).1 = .ok working)
    (hfilters : ∀ name ∈ Entries.keys working.filters, limits name = none) :
    (composer.relimited limits).compose options request journal =
      composer.compose options request journal := by
  obtain ⟨left, hworking⟩ : ∃ left, composer.prepare options request journal = (.ok working, left) :=
    ⟨_, Prod.ext hprepared rfl⟩
  rw [compose, compose, prepare_relimited, Action.bind_of_ok hworking, Action.bind_of_ok hworking]
  simp only [relimited, Context.addClauses_relimited hfilters]
  rfl

end Composer

end QueryWeave

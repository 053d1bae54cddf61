import QueryWeave.Proofs.Closure.Settles
import QueryWeave.Proofs.Composer.Assembly
import QueryWeave.Proofs.Composer.Relimited

/-!
The limit of a composed tree.  Main statement: `Composer.compose_limit`, the caller's limit wins over
that of the base, which wins over those of the filters, the first of them first; no other fragment
has a say.
-/

namespace QueryWeave

namespace Limit

/-- A bare count as a window. -/
def boxed : Limit → Limit
  | .rows count => .window ⟨.rows count, none⟩
  | limit => limit

theorem first_pair_first (limit : Limit) (rest : List Limit) :
    first [limit, first rest] = first (limit :: rest) := by
  cases limit with
  | absent => exact first_singleton (first rest)
  | rows count => rfl
  | window given => rfl

end Limit

namespace Query

theorem limit_foldl_tablePart (base : Query) (tables : List Query) :
    ((tables.map tablePart).foldl merge base).limit = base.limit := by
  induction tables generalizing base with
  | nil => rfl
  | cons table rest ih =>
      rw [List.map_cons, List.foldl_cons, ih, limit_merge]
      change Limit.first [base.limit, .absent] = base.limit
      cases base.limit <;> rfl

end Query

namespace Context

variable (context : Context)

theorem limit_addLimit (query : Query) :
    (context.addLimit query).limit =
      Limit.first [context.request.rowLimit.boxed, query.limit] := by
  unfold addLimit
  split
  next hlimit =>
    rw [hlimit]
    cases query.limit <;> rfl
  next hlimit =>
    rw [hlimit]
    rfl
  next hlimit =>
    rw [hlimit]
    rfl

theorem limit_complete (query : Query) :
    (context.complete query).limit =
      Limit.first [context.request.rowLimit.boxed, query.limit] := by
  rw [complete, Query.collapseHaving_eq]
  exact context.limit_addLimit query

theorem limit_addCondition (query : Query) : (context.addCondition query).limit = query.limit := by
  obtain ⟨filter, hfilter⟩ := context.addCondition_eq query
  rw [hfilter]

end Context

namespace Composer

theorem limit_treeFrom (composer : Composer) (options : Options) (working : Request) (base : Query)
    (parts : Context.Parts) :
    (composer.treeFrom options working base parts).limit =
      Limit.first (working.rowLimit.boxed :: base.limit :: parts.filters.map Query.limit) := by
  have hassembled : ((composer.contextOf options working).assemble base.withoutWildcard
      parts).limit = Limit.first (base.limit :: parts.filters.map Query.limit) := by
    change ((composer.contextOf options working).addCondition (gathered base parts)).limit = _
    rw [Context.limit_addCondition, gathered, Query.limit_foldl_merge,
      Query.limit_foldl_tablePart]
    rfl
  rw [treeFrom, Context.limit_complete, hassembled]
  exact Limit.first_pair_first _ _

variable {composer : Composer} {options : Options} {request : Request} {journal : Journal}

/-- The limit of a request is that of its working request, unless a settled patch sets one. -/
theorem rowLimit_working
    (hpatches : ∀ key change,
      Closure.Settles composer.registry [] request.keys (opening request journal) key
        (.patch change) → change.limit = none)
    {working : Request} (h : (composer.prepare options request journal).1 = .ok working) :
    working.rowLimit = request.rowLimit := by
  obtain ⟨keys, left, hsearch, rfl⟩ := prepare_ok_inv h
  have hlimit : left.request.limit = request.limit := by
    refine Closure.request_visitAll Request.limit ?_ (Closure.search_ok_inv hsearch)
    intro key change hsettled held
    rw [Request.update, hpatches key change hsettled]
    rfl
  unfold withDefaultFilter
  split
  · exact congrArg (Option.getD · .absent) hlimit
  · exact congrArg (Option.getD · .absent) hlimit

/-- Unless a settled patch sets a limit, the limit of the tree is the first that is set of those of
the request, of the base and of the trees of filters in order.  Other limits for fragments that are
no filters leave the composition as it is. -/
theorem compose_limit (composer : Composer) (options : Options) (request : Request)
    (journal : Journal) (result : Query)
    (hpatches : ∀ key change,
      Closure.Settles composer.registry [] request.keys (opening request journal) key
        (.patch change) → change.limit = none)
    (h : (composer.compose options request journal).1 = .ok result) :
    ∃ stages : Stages composer options request journal result, ∃ filters,
      (composer.contextOf options stages.working).filterTrees = .ok filters ∧
      stages.tree.limit =
        Limit.first (request.rowLimit.boxed :: stages.base.limit :: filters.map Query.limit) ∧
      ∀ limits : String → Option Limit,
        (∀ name ∈ Entries.keys stages.working.filters, limits name = none) →
          (composer.relimited limits).compose options request journal =
            composer.compose options request journal := by
  obtain ⟨stages⟩ := exists_stages h
  obtain ⟨_, _, hfilters, _⟩ := Context.parts_eq_ok_iff.mp stages.parted
  refine ⟨stages, stages.parts.filters, hfilters, ?_, ?_⟩
  · rw [stages.tree_eq, limit_treeFrom, rowLimit_working hpatches stages.prepared]
  · intro limits hunused
    exact compose_relimited stages.prepared hunused

/-- Sailings, a few or a page of them. -/
def sailings : Composer where
  registry :=
    [("table:ships",
        .ofQuery { Query.empty with tables := .name "ships", limit := .rows 5 } .none),
      ("recent", .ofQuery { Query.empty with filter := .one (.named "recent") }
        (.patch { filters := [("paged", .bool true), ("few", .bool true)] })),
      ("few", .ofQuery { Query.empty with limit := .rows 3 } .none),
      ("paged", .ofQuery { Query.empty with limit := .window ⟨.rows 20, none⟩ } .none)]

def lookup : Request where
  tables := some ["ships"]
  filters := [("recent", .bool true)]

def lookedUp : Request where
  fields := some []
  tables := some ["ships"]
  filters := [("recent", .bool true), ("paged", .bool true), ("few", .bool true)]
  grouping := some []
  sorting := .many []

def page : Query :=
  { Query.empty with
    tables := .many [.ofName "ships"]
    filter := .one (.conjunction [.named "recent"])
    limit := .window ⟨.rows 20, none⟩ }

theorem walk_lookup : Closure.walk sailings.registry lookup =
    ⟨[⟨[], "table:ships"⟩, ⟨[], "recent"⟩, ⟨["recent"], "paged"⟩, ⟨["recent"], "few"⟩], none⟩ := by
  cbv

theorem sailings_prepared : (sailings.prepare {} lookup []).1 = .ok lookedUp := by
  have hstatic : sailings.registry.Static :=
    Registry.static_of_forall (by simp [sailings, Fragment.ofQuery, Prerequisite.Static])
  rw [prepare_of_walk hstatic walk_lookup ["paged", "few", "table:ships", "recent"]
    { lookup with filters := lookedUp.filters } (fun journal => by cbv) fun _ => rfl]
  rfl

theorem sailings_composed : (sailings.compose {} lookup []).1 = .ok page := by
  rw [compose_outcome, unfinished_outcome, sailings_prepared]
  rfl

theorem sailings_patches (key : String) (change : Request)
    (h : Closure.Settles sailings.registry [] lookup.keys (opening lookup []) key
      (.patch change)) : change.limit = none := by
  obtain ⟨fragment, request, journal, entries, hfound, hresolved⟩ := h.resolved
  have hmem := Entries.mem_of_get? hfound
  simp only [sailings, List.mem_cons, List.not_mem_nil, or_false] at hmem
  rcases hmem with hpair | hpair | hpair | hpair
  · cases hpair
    cases hresolved
  · cases hpair
    cases hresolved
    rfl
  · cases hpair
    cases hresolved
  · cases hpair
    cases hresolved

/-- The page of the patch wins over its few, and the limit of the table shows nowhere. -/
theorem sailings_limit :
    (sailings.compose {} lookup []).1 = .ok page ∧
      (∃ stages : Stages sailings {} lookup [] page,
        stages.tree.limit = .window ⟨.rows 20, none⟩) ∧
      ((sailings.relimited fun key => if key = "table:ships" then some (.rows 1) else none).compose
        {} lookup []).1 = .ok page := by
  obtain ⟨stages, filters, hfilters, hlimit, hother⟩ :=
    compose_limit sailings {} lookup [] page sailings_patches sailings_composed
  have hworking : stages.working = lookedUp :=
    Except.ok.inj (stages.prepared.symm.trans sailings_prepared)
  have hbase : Query.empty = stages.base := Except.ok.inj stages.based
  rw [hworking] at hfilters
  cases hfilters
  refine ⟨sailings_composed, ⟨stages, ?_⟩, ?_⟩
  · rw [hlimit, ← hbase]
    rfl
  · rw [hother _ (by rw [hworking]; decide), sailings_composed]

end Composer

end QueryWeave

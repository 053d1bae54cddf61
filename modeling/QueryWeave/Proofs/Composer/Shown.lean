import QueryWeave.Proofs.Closure.Shown
import QueryWeave.Proofs.Composer.Assembly
import QueryWeave.Proofs.Composer.Rebound

/-!
What a condition and constants can show.  Main statement: `Composer.compose_shown`, over fixed
queries and static requirements they show in no journal and no failure, and only the condition
shows in the result, in its filter.
-/

namespace QueryWeave

namespace Query

def unfiltered (query : Query) : Query :=
  { query with filter := .absent }

/-- The same query up to the filter; `same` is whether the filters agree too. -/
structure Alike (same : Prop) (query other : Query) : Prop where
  unfiltered : query.unfiltered = other.unfiltered
  equal : same → query = other

variable {same : Prop} {query other : Query}

theorem Alike.eq_withFilter (h : query.Alike same other) :
    other = { query with filter := other.filter } := by
  have hclauses := h.unfiltered
  obtain ⟨distinct, select, tables, filter, group, order, limit, union⟩ := query
  obtain ⟨distinct', select', tables', filter', group', order', limit', union'⟩ := other
  rw [Query.unfiltered, Query.unfiltered, Query.mk.injEq] at hclauses
  obtain ⟨rfl, rfl, rfl, -, rfl, rfl, rfl, rfl⟩ := hclauses
  rfl

/-- A change that reads the filter for nothing but the filter. -/
theorem Alike.map (h : query.Alike same other) {change : Query → Query}
    (hchange : ∀ query filter, ∃ next, change { query with filter } =
      { change query with filter := next }) : (change query).Alike same (change other) where
  unfiltered := by
    obtain ⟨next, hnext⟩ := hchange query other.filter
    rw [h.eq_withFilter, hnext]
    rfl
  equal hsame := congrArg change (h.equal hsame)

end Query

theorem Fragment.applyFilter_congr {fragment : Fragment} (hfixed : fragment.recipe.Fixed)
    {left right : Request} (hfilters : left.filters = right.filters) (name : String) :
    fragment.applyFilter name left = fragment.applyFilter name right := by
  unfold applyFilter produce
  rw [hfilters]
  cases h : fragment.recipe with
  | fixed query => rfl
  | unusable => rfl
  | computed ofRequest ofBound =>
      rw [h] at hfixed
      exact hfixed.elim

namespace Context

variable {registry : Registry} {options : Options} {same : Prop} {left right : Request}
  {query other : Query}

section Steps

variable (hfixed : registry.Fixed) (left right)

include hfixed

theorem columnsOf_congr :
    (Context.mk registry left options).columnsOf =
      (Context.mk registry right options).columnsOf := by
  funext entry
  cases entry with
  | name name =>
      have hfind : (Context.mk registry left options).find? .field name =
          (Context.mk registry right options).find? .field name := rfl
      rw [columnsOf, columnsOf, hfind]
      cases hfound : (Context.mk registry right options).find? .field name with
      | none => rfl
      | some fragment =>
          dsimp only
          rw [fragment.apply_congr (find?_fixed hfixed hfound) left right]
  | pair table column => rfl
  | labelled table column label => rfl
  | column given => rfl

theorem addTable_congr :
    (Context.mk registry left options).addTable = (Context.mk registry right options).addTable := by
  funext query name
  have hfind : (Context.mk registry left options).find? .table name =
      (Context.mk registry right options).find? .table name := rfl
  rw [addTable, addTable, hfind]
  cases hfound : (Context.mk registry right options).find? .table name with
  | none => rfl
  | some fragment =>
      dsimp only
      rw [fragment.apply_congr (find?_fixed hfixed hfound) left right]

theorem groupingOf_congr :
    (Context.mk registry left options).groupingOf =
      (Context.mk registry right options).groupingOf := by
  funext entry
  cases entry with
  | name name =>
      have hfind : (Context.mk registry left options).find? .group name =
          (Context.mk registry right options).find? .group name := rfl
      rw [groupingOf, groupingOf, hfind]
      cases hfound : (Context.mk registry right options).find? .group name with
      | none => rfl
      | some fragment =>
          dsimp only
          rw [fragment.apply_congr (find?_fixed hfixed hfound) left right]
  | grouping given => rfl

theorem orderOf_congr :
    (Context.mk registry left options).orderOf = (Context.mk registry right options).orderOf := by
  have hterms : (Context.mk registry left options).orderBy =
      (Context.mk registry right options).orderBy := by
    funext name direction
    have hfind : (Context.mk registry left options).find? .order name =
        (Context.mk registry right options).find? .order name := rfl
    rw [orderBy, orderBy, hfind]
    cases hfound : (Context.mk registry right options).find? .order name with
    | none => rfl
    | some fragment =>
        dsimp only
        rw [fragment.apply_congr (find?_fixed hfixed hfound) left right]
  funext entry
  cases entry with
  | name name => rw [orderOf, orderOf, hterms]
  | key given => rw [orderOf, orderOf, hterms]
  | term given => rfl

end Steps

section Alike

variable (h : left.Alike same right)

include h

theorem addFields_alike (hfixed : registry.Fixed) :
    (Context.mk registry left options).addFields =
      (Context.mk registry right options).addFields := by
  funext base
  unfold addFields
  dsimp only
  rw [h.view_eq Request.fieldList fun _ => rfl, columnsOf_congr left right hfixed]

theorem addTables_alike (hfixed : registry.Fixed) :
    (Context.mk registry left options).addTables =
      (Context.mk registry right options).addTables := by
  funext base
  unfold addTables
  dsimp only
  rw [h.view_eq Request.tableList fun _ => rfl, addTable_congr left right hfixed]

theorem addFilters_alike (hfixed : registry.Fixed) :
    (Context.mk registry left options).addFilters =
      (Context.mk registry right options).addFilters := by
  have hfilters : left.filters = right.filters := h.view_eq Request.filters fun _ => rfl
  funext base
  unfold addFilters
  dsimp only
  rw [hfilters]
  apply Action.foldlM_congr
  intro held name _
  rw [addFilter, addFilter]
  dsimp only
  cases hfound : Entries.get? registry name with
  | none => rfl
  | some fragment =>
      dsimp only
      rw [fragment.applyFilter_congr (hfixed name fragment hfound) hfilters]

/-- Only here a condition gets into the query. -/
theorem addCondition_alike (query : Query) :
    ((Context.mk registry left options).addCondition query).Alike same
      ((Context.mk registry right options).addCondition query) := by
  obtain ⟨first, hfirst⟩ := (Context.mk registry left options).addCondition_eq query
  obtain ⟨second, hsecond⟩ := (Context.mk registry right options).addCondition_eq query
  constructor
  · rw [hfirst, hsecond]
    rfl
  · intro hsame
    unfold addCondition
    dsimp only
    rw [h.condition hsame]

theorem addGroupings_alike (hfixed : registry.Fixed) (hquery : query.Alike same other) :
    ((Context.mk registry left options).addGroupings query).Alike (Query.Alike same)
      ((Context.mk registry right options).addGroupings other) := by
  unfold addGroupings
  dsimp only
  rw [h.view_eq Request.groupList fun _ => rfl, groupingOf_congr left right hfixed]
  cases right.groupList with
  | nil => exact Action.alike_pure hquery
  | cons first rest =>
      apply Action.alike_bind
      intro parts
      apply Action.alike_pure
      apply hquery.map
      exact fun query filter => ⟨filter, rfl⟩

theorem addOrder_alike (hfixed : registry.Fixed) (hquery : query.Alike same other) :
    ((Context.mk registry left options).addOrder query).Alike (Query.Alike same)
      ((Context.mk registry right options).addOrder other) := by
  unfold addOrder
  dsimp only
  rw [h.view_eq Request.sortList fun _ => rfl, orderOf_congr left right hfixed]
  cases right.sortList with
  | nil => exact Action.alike_pure hquery
  | cons first rest =>
      apply Action.alike_bind
      intro parts
      apply Action.alike_pure
      apply hquery.map
      exact fun query filter => ⟨filter, rfl⟩

theorem addClauses_alike (hfixed : registry.Fixed) (base : Query) :
    ((Context.mk registry left options).addClauses base).Alike (Query.Alike same)
      ((Context.mk registry right options).addClauses base) := by
  unfold addClauses
  rw [addFields_alike h hfixed, addTables_alike h hfixed, addFilters_alike h hfixed]
  apply Action.alike_bind
  intro fielded
  apply Action.alike_bind
  intro tabled
  apply Action.alike_bind
  intro filtered
  apply (addGroupings_alike h hfixed (addCondition_alike h filtered)).bind
  intro query other hquery
  exact addOrder_alike h hfixed hquery

theorem complete_alike (hquery : query.Alike same other) :
    ((Context.mk registry left options).complete query).Alike same
      ((Context.mk registry right options).complete other) := by
  have hcomplete : (Context.mk registry left options).complete =
      (Context.mk registry right options).complete := by
    funext query
    unfold complete addDistinct addLimit
    dsimp only
    rw [h.view_eq Request.distinct fun _ => rfl, h.view_eq Request.rowLimit fun _ => rfl]
  rw [hcomplete]
  apply hquery.map
  intro query filter
  refine ⟨filter, ?_⟩
  rw [complete, complete, Query.collapseHaving_eq, Query.collapseHaving_eq]
  unfold addDistinct addLimit
  split
  · rfl
  · rfl
  · rfl

end Alike

end Context

namespace Composer

variable {composer : Composer} {options : Options} {left right : Request}

theorem alike_runAll_escapePatterns {same : Prop} {query other : Query}
    (hquery : query.Alike same other) :
    Action.Alike (Query.Alike same)
      (liftExcept (Finisher.runAll [Finisher.escapePatterns] query) : Journaled Query)
      (liftExcept (Finisher.runAll [Finisher.escapePatterns] other)) := by
  have hescaped : query.escapePatterns.Alike same other.escapePatterns := by
    apply hquery.map
    rintro ⟨distinct, select, tables, _, group, order, limit, union⟩ filter
    refine ⟨Expr.escapePatternsClause filter, ?_⟩
    rw [Query.escapePatterns, Query.escapePatterns]
  exact Action.alike_pure hescaped

theorem compose_alike {base : Query} (hbase : composer.base = .fixed base)
    (hfixed : composer.registry.Fixed) (hstatic : composer.registry.Static)
    (hfinishers : composer.finishers = [Finisher.escapePatterns]) {same : Prop}
    (h : left.Alike same right) :
    (composer.compose options left).Alike (Query.Alike same) (composer.compose options right) := by
  rw [compose_eq_unfinished, compose_eq_unfinished, hfinishers]
  refine Action.Alike.bind ?_ fun query other hquery => alike_runAll_escapePatterns hquery
  unfold unfinished
  apply (prepare_alike hstatic h).bind
  intro working other hworking
  rw [hbase]
  apply Action.alike_bind
  intro own
  apply (Context.addClauses_alike hworking hfixed own.withoutWildcard).bind
  intro query counterpart hquery
  exact Action.alike_pure (Context.complete_alike hworking hquery)

/-- A condition and constants go unseen: over fixed queries and static requirements, requests that
differ in nothing else have the same journal and the same failure, or results that differ in the
filter alone; and where the conditions agree, constants make no difference at all. -/
theorem compose_shown {base : Query} (hbase : composer.base = .fixed base)
    (hfixed : composer.registry.Fixed) (hstatic : composer.registry.Static)
    (hfinishers : composer.finishers = [Finisher.escapePatterns])
    (hrest : right = { left with condition := right.condition, constants := right.constants })
    (options : Options) (journal : Journal) :
    (composer.compose options left journal).2 = (composer.compose options right journal).2 ∧
    ((∃ failure, (composer.compose options left journal).1 = .error failure ∧
        (composer.compose options right journal).1 = .error failure) ∨
      ∃ result filter, (composer.compose options left journal).1 = .ok result ∧
        (composer.compose options right journal).1 = .ok { result with filter }) ∧
    (left.condition? = right.condition? →
      composer.compose options left journal = composer.compose options right journal) := by
  have h : left.Alike (left.condition? = right.condition?) right := .of_rest id hrest
  have hpaired : Action.Paired _ (composer.compose options left journal)
      (composer.compose options right journal) :=
    compose_alike hbase hfixed hstatic hfinishers h journal
  generalize composer.compose options left journal = first at hpaired ⊢
  generalize composer.compose options right journal = second at hpaired ⊢
  cases hpaired with
  | done last hresult =>
      refine ⟨rfl, Or.inr ⟨_, _, rfl, congrArg Except.ok hresult.eq_withFilter⟩, ?_⟩
      intro hsame
      rw [hresult.equal hsame]
  | failed failure last => exact ⟨rfl, Or.inl ⟨failure, rfl, rfl⟩, fun _ => rfl⟩

/-- A visit with another condition, and constants. -/
def audit : Request :=
  { visit with
    condition := some (some (.named "audited"))
    constants := some (.object [("key", .text "vault")]) }

theorem harbor_fixed : harbor.registry.Fixed :=
  Registry.fixed_of_forall (by simp [harbor, Fragment.ofQuery, Recipe.Fixed])

/-- The audit is journaled as the visit is and finds the same berths under another filter; constants
alone go unseen. -/
theorem harbor_audited :
    (harbor.compose {} visit []).2 = (harbor.compose {} audit []).2 ∧
      (∃ filter, (harbor.compose {} audit []).1 = .ok { berths with filter }) ∧
      harbor.compose {} visit [] = harbor.compose {} { visit with constants := audit.constants } [] := by
  have hrest : audit =
      { visit with condition := audit.condition, constants := audit.constants } := rfl
  have hconstants : { visit with constants := audit.constants } =
      { visit with condition := visit.condition, constants := audit.constants } := rfl
  obtain ⟨hjournal, houtcome, _⟩ :=
    compose_shown rfl harbor_fixed harbor_static rfl hrest {} []
  obtain ⟨_, _, hequal⟩ :=
    compose_shown rfl harbor_fixed harbor_static rfl hconstants {} []
  rw [harbor_composed] at houtcome
  refine ⟨hjournal, ?_, hequal rfl⟩
  rcases houtcome with ⟨failure, hfailed, _⟩ | ⟨result, filter, hresult, haudit⟩
  · cases hfailed
  · cases hresult
    exact ⟨filter, haudit⟩

end Composer

end QueryWeave

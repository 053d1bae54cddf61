import QueryWeave.Proofs.Closure.Rebound
import QueryWeave.Proofs.Composer.Recast
import QueryWeave.Proofs.Fragment.Binding

/-!
Bound values do not change the structure of a query.  Main statement: `Composer.compose_rebound`,
two requests that differ in the values bound to filters give queries that differ in what their
placeholders hold.
-/

namespace QueryWeave

theorem Expr.mergeSafe_emptied : MergeSafe fun _ => emptied where
  named _ := rfl
  conjunction _ _ := rfl
  other _ rewritten h := by
    cases rewritten <;> first | rfl | cases h

def Recipe.Fixed : Recipe → Prop
  | .fixed _ | .unusable => True
  | .computed _ _ => False

/-- No fragment computes its query. -/
def Registry.Fixed (registry : Registry) : Prop :=
  ∀ key fragment, Entries.get? registry key = some fragment → fragment.recipe.Fixed

theorem Registry.fixed_of_forall {registry : Registry}
    (h : ∀ pair ∈ registry, pair.2.recipe.Fixed) : registry.Fixed :=
  fun _ _ hfound => h _ (Entries.mem_of_get? hfound)

namespace Fragment

variable {fragment : Fragment}

theorem apply_congr (hfixed : fragment.recipe.Fixed) (left right : Request) :
    fragment.apply left = fragment.apply right := by
  unfold apply
  cases h : fragment.recipe with
  | fixed query => rfl
  | unusable => rfl
  | computed ofRequest ofBound =>
      rw [h] at hfixed
      exact hfixed.elim

theorem given_congr (hfixed : fragment.recipe.Fixed) (left right : Request) :
    fragment.given left = fragment.given right := by
  unfold given
  cases h : fragment.recipe with
  | fixed query => rfl
  | unusable => rfl
  | computed ofRequest ofBound =>
      rw [h] at hfixed
      exact hfixed.elim

/-- Emptied, the tree of a filter is the emptied query of its fragment, whatever is bound. -/
theorem erased_filterTree (hfixed : fragment.recipe.Fixed) {left right : Request}
    {name : String} {tree other : Query} (hleft : fragment.filterTree name left = .ok tree)
    (hright : fragment.filterTree name right = .ok other) : tree.erased = other.erased := by
  obtain ⟨query, hquery, hleft⟩ := Action.bind_eq_ok_iff.mp hleft
  obtain ⟨pairs, _, hleft⟩ := Action.bind_eq_ok_iff.mp hleft
  obtain ⟨same, hsame, hright⟩ := Action.bind_eq_ok_iff.mp hright
  obtain ⟨others, _, hright⟩ := Action.bind_eq_ok_iff.mp hright
  cases hleft
  cases hright
  rw [Query.erased_fill, Query.erased_fill]
  unfold produce at hquery hsame
  cases h : fragment.recipe with
  | fixed given =>
      rw [h] at hquery hsame
      cases hquery
      cases hsame
      rfl
  | unusable =>
      rw [h] at hquery
      cases hquery
  | computed ofRequest ofBound =>
      rw [h] at hfixed
      exact hfixed.elim

end Fragment

namespace Action

/-- Two readings of one list that agree item by item agree as a whole. -/
theorem map_eq_map_of_mapM {α β γ : Type} {view : β → γ} {make remake : α → Except Failure β}
    {items : List α} {results others : List β}
    (hview : ∀ item ∈ items, ∀ result other, make item = .ok result → remake item = .ok other →
      view result = view other)
    (hmake : items.mapM make = .ok results) (hremake : items.mapM remake = .ok others) :
    results.map view = others.map view := by
  rw [mapM_eq_ok_iff] at hmake hremake
  induction hmake generalizing others with
  | nil =>
      cases hremake
      rfl
  | cons hfirst _ ih =>
      cases hremake with
      | cons hother hothers =>
          rw [List.map_cons, List.map_cons, hview _ List.mem_cons_self _ _ hfirst hother,
            ih (fun item hmem => hview item (List.mem_cons_of_mem _ hmem)) hothers]

end Action

namespace Context

variable {registry : Registry} {options : Options} {left right : Request}

theorem find?_fixed (hfixed : registry.Fixed) {request : Request} {kind : Kind} {name : String}
    {fragment : Fragment}
    (h : (Context.mk registry request options).find? kind name = some fragment) :
    fragment.recipe.Fixed :=
  hfixed _ fragment h

theorem fieldPart_congr (hfixed : registry.Fixed) (left right : Request) :
    (Context.mk registry left options).fieldPart =
      (Context.mk registry right options).fieldPart := by
  funext entry
  cases entry with
  | name name =>
      have hfind : (Context.mk registry left options).find? .field name =
          (Context.mk registry right options).find? .field name := rfl
      rw [fieldPart, fieldPart, hfind]
      cases hfound : (Context.mk registry right options).find? .field name with
      | none => rfl
      | some fragment =>
          dsimp only
          rw [fragment.given_congr (find?_fixed hfixed hfound) left right]
  | pair table column => rfl
  | labelled table column label => rfl
  | column given => rfl

theorem groupPart_congr (hfixed : registry.Fixed) (left right : Request) :
    (Context.mk registry left options).groupPart =
      (Context.mk registry right options).groupPart := by
  funext entry
  cases entry with
  | name name =>
      have hfind : (Context.mk registry left options).find? .group name =
          (Context.mk registry right options).find? .group name := rfl
      rw [groupPart, groupPart, hfind]
      cases hfound : (Context.mk registry right options).find? .group name with
      | none => rfl
      | some fragment =>
          dsimp only
          rw [fragment.apply_congr (find?_fixed hfixed hfound) left right]
  | grouping given => rfl

theorem orderPart_congr (hfixed : registry.Fixed) (left right : Request) :
    (Context.mk registry left options).orderPart =
      (Context.mk registry right options).orderPart := by
  have hterms : (Context.mk registry left options).orderTerms =
      (Context.mk registry right options).orderTerms := by
    funext name direction
    have hfind : (Context.mk registry left options).find? .order name =
        (Context.mk registry right options).find? .order name := rfl
    rw [orderTerms, orderTerms, hfind]
    cases hfound : (Context.mk registry right options).find? .order name with
    | none => rfl
    | some fragment =>
        dsimp only
        rw [fragment.apply_congr (find?_fixed hfixed hfound) left right]
  funext entry
  cases entry with
  | name name => rw [orderPart, orderPart, hterms]
  | key given => rw [orderPart, orderPart, hterms]
  | term given => rfl

/-- The parts of two working requests that differ in bound values differ in the trees of filters
only, and those not once their placeholders are emptied. -/
theorem parts_rebound (hfixed : registry.Fixed) (hrebound : left.Rebound right)
    {parts other : Parts} (hleft : (Context.mk registry left options).parts = .ok parts)
    (hright : (Context.mk registry right options).parts = .ok other) :
    parts.fields = other.fields ∧ parts.tables = other.tables ∧
      parts.filters.map Query.erased = other.filters.map Query.erased ∧
      parts.groupings = other.groupings ∧ parts.orders = other.orders := by
  obtain ⟨hfields, htables, hfilters, hgroupings, horders⟩ := parts_eq_ok_iff.mp hleft
  obtain ⟨hfields', htables', hfilters', hgroupings', horders'⟩ := parts_eq_ok_iff.mp hright
  dsimp only at hfields hfields' hgroupings hgroupings' horders horders'
  rw [tableTrees] at htables htables'
  rw [filterTrees] at hfilters hfilters'
  dsimp only at htables htables' hfilters hfilters'
  refine ⟨?_, ?_, ?_, ?_, ?_⟩
  · rw [fieldPart_congr hfixed left right, hrebound.view_eq Request.fieldList fun _ _ => rfl,
      hfields'] at hfields
    exact (Except.ok.inj hfields).symm
  · rw [← hrebound.view_eq Request.tableList fun _ _ => rfl] at htables'
    have hsame : parts.tables.map id = other.tables.map id := by
      refine Action.map_eq_map_of_mapM ?_ htables htables'
      intro pair hpair tree again hmake hremake
      have hfound := (mem_found.mp hpair).2
      rw [pair.2.apply_congr (find?_fixed hfixed hfound) left right, hremake] at hmake
      exact (Except.ok.inj hmake).symm
    rwa [List.map_id, List.map_id] at hsame
  · rw [← hrebound.keys] at hfilters'
    refine Action.map_eq_map_of_mapM ?_ hfilters hfilters'
    intro pair hpair tree again hmake hremake
    have hfound := (mem_found.mp hpair).2
    exact Fragment.erased_filterTree (find?_fixed hfixed hfound) hmake hremake
  · rw [groupPart_congr hfixed left right, hrebound.view_eq Request.groupList fun _ _ => rfl,
      hgroupings'] at hgroupings
    exact (Except.ok.inj hgroupings).symm
  · rw [orderPart_congr hfixed left right, hrebound.view_eq Request.sortList fun _ _ => rfl,
      horders'] at horders
    exact (Except.ok.inj horders).symm

end Context

namespace Composer

variable {composer : Composer} {options : Options} {left right : Request}
  {first second : Journal} {result other : Query}

/-- Bound values do not change the structure of a query: over fixed queries and static
requirements, two requests that differ in the values bound to filters have results that differ in
what their placeholders hold. -/
theorem compose_rebound {base : Query} (hbase : composer.base = .fixed base)
    (hfixed : composer.registry.Fixed) (hstatic : composer.registry.Static)
    (hfinishers : composer.finishers = [Finisher.escapePatterns])
    (hkeys : Entries.keys left.filters = Entries.keys right.filters)
    (hrest : right = { left with filters := right.filters })
    (hleft : (composer.compose options left first).1 = .ok result)
    (hright : (composer.compose options right second).1 = .ok other) :
    result.erased = other.erased := by
  obtain ⟨stages⟩ := exists_stages hleft
  obtain ⟨counterpart⟩ := exists_stages hright
  have hrebound : stages.working.Rebound counterpart.working :=
    prepare_rebound hstatic ⟨hkeys, hrest⟩ stages.prepared counterpart.prepared
  obtain ⟨hfields, htables, hfilters, hgroupings, horders⟩ :=
    Context.parts_rebound hfixed hrebound stages.parted counterpart.parted
  have hsame : stages.base = counterpart.base := by
    have hown := stages.based
    have hother := counterpart.based
    rw [hbase] at hown hother
    exact Except.ok.inj (hown.symm.trans hother)
  have htrees : stages.tree.erased = counterpart.tree.erased := by
    rw [stages.tree_eq, counterpart.tree_eq, ← hsame]
    exact recast_treeFrom_congr Expr.mergeSafe_emptied composer options stages.base
      (hrebound.view_eq Request.condition? fun _ _ => rfl)
      (hrebound.view_eq Request.distinct fun _ _ => rfl)
      (hrebound.view_eq Request.rowLimit fun _ _ => rfl)
      hfields htables hfilters hgroupings horders
  have hfinished := stages.finished
  have hagain := counterpart.finished
  rw [hfinishers] at hfinished hagain
  have hresult : stages.tree.escapePatterns = result := Except.ok.inj hfinished
  have hother : counterpart.tree.escapePatterns = other := Except.ok.inj hagain
  rw [← hresult, ← hother, Query.erased_escapePatterns, Query.erased_escapePatterns, htrees]

/-- Parcels by weight and by label; a label asks for a least weight and is shown behind a
caret. -/
def parcels : Composer where
  registry :=
    [("heavier",
        { recipe := .fixed
            { Query.empty with
              filter := .one (.compare (.named "weight") .greater (.placeholder .null)) }
          prerequisite := .settled .none
          slots := [(0, ⟨"least", .int 1, none⟩)] }),
      ("labelled",
        { recipe := .fixed
            { Query.empty with
              filter := .one (.regexp (.named "label") false (.placeholder .null)) }
          prerequisite := .settled
            (.patch { filters := [("heavier", .object [("least", .int 2)])] })
          slots := [(0, ⟨"value", .text "", some (.around "^" "value" "")⟩)] })]

def fragile : Request where
  filters := [("labelled", .text "fragile.glass")]

def bulky : Request where
  filters := [("labelled", .object [("value", .int 7)])]

/-- Parcels of a label and of more than two pounds. -/
def parcel (label : Datum) : Query :=
  { Query.empty with
    filter := .one (.conjunction
      [.regexp (.named "label") false (.placeholder label),
        .compare (.named "weight") .greater (.placeholder (.int 2))]) }

theorem parcels_static : parcels.registry.Static :=
  Registry.static_of_forall (by simp [parcels, Prerequisite.Static])

theorem walk_fragile : Closure.walk parcels.registry fragile =
    ⟨[⟨[], "labelled"⟩, ⟨["labelled"], "heavier"⟩], none⟩ := by
  cbv

theorem walk_bulky : Closure.walk parcels.registry bulky =
    ⟨[⟨[], "labelled"⟩, ⟨["labelled"], "heavier"⟩], none⟩ := by
  cbv

theorem fragile_composed :
    (parcels.compose {} fragile []).1 = .ok (parcel (.text "\\^fragile\\.glass")) := by
  rw [compose_outcome, unfinished_outcome,
    prepare_of_walk parcels_static walk_fragile ["heavier", "labelled"]
      { filters := [("labelled", .text "fragile.glass"), ("heavier", .object [("least", .int 2)])] }
      (fun journal => by cbv) fun _ => rfl]
  rfl

theorem bulky_composed : (parcels.compose {} bulky []).1 = .ok (parcel (.text "\\^7")) := by
  rw [compose_outcome, unfinished_outcome,
    prepare_of_walk parcels_static walk_bulky ["heavier", "labelled"]
      { filters := [("labelled", .object [("value", .int 7)]),
          ("heavier", .object [("least", .int 2)])] }
      (fun journal => by cbv) fun _ => rfl]
  rfl

theorem parcels_rebound :
    (parcels.compose {} fragile []).1 = .ok (parcel (.text "\\^fragile\\.glass")) ∧
      (parcels.compose {} bulky []).1 = .ok (parcel (.text "\\^7")) ∧
        (parcel (.text "\\^fragile\\.glass")).erased = (parcel (.text "\\^7")).erased := by
  have hfixed : parcels.registry.Fixed :=
    Registry.fixed_of_forall (by simp [parcels, Recipe.Fixed])
  have hkeys : Entries.keys fragile.filters = Entries.keys bulky.filters := rfl
  have hrest : bulky = { fragile with filters := bulky.filters } := rfl
  exact ⟨fragile_composed, bulky_composed,
    compose_rebound rfl hfixed parcels_static rfl hkeys hrest fragile_composed bulky_composed⟩

end Composer

end QueryWeave

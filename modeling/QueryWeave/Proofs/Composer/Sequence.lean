import QueryWeave.Proofs.Closure.Once
import QueryWeave.Proofs.Closure.Rebound
import QueryWeave.Proofs.Composer.Limit
import QueryWeave.Proofs.Composer.Order
import QueryWeave.Proofs.Composer.Prerequisites
import QueryWeave.Proofs.Tree.Gather

namespace QueryWeave

universe u

namespace Precedes

variable {α : Type u} {items more : List α} {first second : α}

theorem mem_left (h : Precedes items first second) : first ∈ items :=
  h.subset List.mem_cons_self

theorem append (hfirst : first ∈ items) (hsecond : second ∈ more) :
    Precedes (items ++ more) first second :=
  (List.singleton_sublist.mpr hfirst).append (List.singleton_sublist.mpr hsecond)

theorem append_iff_of_not_mem (h : second ∉ more) :
    Precedes (items ++ more) first second ↔ Precedes items first second := by
  constructor
  · intro hwhole
    obtain ⟨front, back, hsplit, hfront, hback⟩ := List.sublist_append_iff.mp hwhole
    cases back using List.reverseRecOn with
    | nil =>
        rw [List.append_nil] at hsplit
        rw [Precedes, hsplit]
        exact hfront
    | append_singleton back last =>
        have hlast := congrArg List.getLast? hsplit
        rw [← List.append_assoc, List.getLast?_concat] at hlast
        cases hlast
        exact absurd (hback.subset (by simp)) h
  · exact fun hitems => hitems.mono (List.sublist_append_left items more)

end Precedes

section Distinct

variable {names more : List String} {first second : String}

theorem addEntries_some_eq_append (hnodup : more.Nodup) :
    addEntries some names more = names ++ more.filter fun name => !names.contains name := by
  induction more generalizing names with
  | nil => simp
  | cons name rest ih =>
      obtain ⟨hnew, hrest⟩ := List.nodup_cons.mp hnodup
      rw [addEntries_cons, addEntry_some, List.filter_cons]
      by_cases hmem : name ∈ names
      · rw [if_pos hmem, ih hrest, if_neg (by simpa using hmem)]
      · -- No later name is this one, so the names left out of the rest stay the same.
        have hsame : (rest.filter fun other => !(names ++ [name]).contains other) =
            rest.filter fun other => !names.contains other := by
          apply List.filter_congr
          intro other hother
          have hne : other ≠ name := fun h => hnew (h ▸ hother)
          simp [hne]
        rw [if_neg hmem, ih hrest, if_pos (by simpa using hmem), hsame, List.append_assoc,
          List.singleton_append]

/-- Names that are added in order are so too among the names they are added to, unless the second
was there already. -/
theorem precedes_addEntries_iff (hnodup : more.Nodup) (hsecond : second ∈ addEntries some names more)
    (horder : first ∈ more → second ∈ more → Precedes more first second) :
    Precedes (addEntries some names more) first second ↔
      first ∈ addEntries some names more ∧ (second ∉ names ∨ Precedes names first second) := by
  by_cases hheld : second ∈ names
  · rw [addEntries_some_eq_append hnodup, Precedes.append_iff_of_not_mem (by simp [hheld])]
    constructor
    · exact fun h => ⟨List.mem_append_left _ h.mem_left, .inr h⟩
    · exact fun h => h.2.resolve_left (not_not_intro hheld)
  · have hmore : second ∈ more := (mem_addEntries_some.mp hsecond).resolve_left hheld
    constructor
    · exact fun h => ⟨h.mem_left, .inl hheld⟩
    · rintro ⟨hfirst, -⟩
      rw [mem_addEntries_some] at hfirst
      rw [addEntries_some_eq_append hnodup]
      by_cases hearly : first ∈ names
      · exact .append hearly (List.mem_filter.mpr ⟨hmore, by simpa using hheld⟩)
      · have hlate := horder (hfirst.resolve_left hearly) hmore
        exact (hlate.filter _ (by simpa using hearly) (by simpa using hheld)).mono
          (List.sublist_append_right _ _)

end Distinct

theorem Key.parse_of_filter {key : String} (h : (Key.parse key).kind = .filter) :
    Key.parse key = ⟨.filter, key⟩ := by
  have hrender := Key.render_parse key
  rw [Key.render, h] at hrender
  exact congrArg₂ Key.mk h hrender

/-- Requirements that all lead upwards close no cycle. -/
theorem Registry.not_depends_self {registry : Registry} (rank : String → Nat)
    (hrank : ∀ key other, registry.Requires key other → rank key < rank other) (key : String) :
    ¬ registry.Depends key key := by
  have hup : ∀ other, registry.Depends key other → rank key < rank other := by
    intro other hdepends
    induction hdepends with
    | single hrequires => exact hrank _ _ hrequires
    | tail _ hrequires ih => exact Nat.lt_trans ih (hrank _ _ hrequires)
  exact fun hcycle => Nat.lt_irrefl _ (hup key hcycle)

theorem Query.joinsAt_foldl_merge (key : String) (base : Query) (additions : List Query) :
    Table.joinsAt key (additions.foldl merge base).tableList =
      Table.joinsAt key base.tableList ++
        additions.flatMap fun addition => Table.joinsOf key addition.tableList := by
  induction additions generalizing base with
  | nil => simp
  | cons addition rest ih =>
      rw [List.foldl_cons, ih, tableList_merge, Table.joinsAt_mergeAll, List.flatMap_cons,
        List.append_assoc]

namespace Action

variable {α β γ : Type}

/-- What is made of named items, with the names. -/
theorem exists_pairs_of_mapM (make : α → β → Except Failure γ) {items : List (α × β)}
    {results : List γ} (h : (items.mapM fun item => make item.1 item.2) = .ok results) :
    ∃ pairs : List (α × γ), pairs.map Prod.fst = items.map Prod.fst ∧
      pairs.map Prod.snd = results ∧
      ∀ pair ∈ pairs, ∃ item, (pair.1, item) ∈ items ∧ make pair.1 item = .ok pair.2 := by
  rw [mapM_eq_ok_iff] at h
  induction h with
  | nil => exact ⟨[], rfl, rfl, fun pair hpair => absurd hpair List.not_mem_nil⟩
  | @cons item result rest results hmake _ ih =>
      obtain ⟨pairs, hnames, hresults, hmade⟩ := ih
      refine ⟨(item.1, result) :: pairs, ?_, ?_, ?_⟩
      · rw [List.map_cons, hnames, List.map_cons]
      · rw [List.map_cons, hresults]
      · intro pair hpair
        rcases List.mem_cons.mp hpair with rfl | hlater
        · exact ⟨item.2, List.mem_cons_self, hmake⟩
        · obtain ⟨other, hother, hmake⟩ := hmade pair hlater
          exact ⟨other, List.mem_cons_of_mem _ hother, hmake⟩

end Action

theorem Context.map_fst_found_filter (context : Context) (names : List String) :
    (context.found .filter names).map Prod.fst = names.filter (Entries.has context.registry) := by
  induction names with
  | nil => rfl
  | cons name rest ih =>
      have hfind : context.find? .filter name = Entries.get? context.registry name := rfl
      rw [found, List.filterMap_cons, hfind, List.filter_cons, Entries.has]
      cases Entries.get? context.registry name with
      | none => exact ih
      | some fragment => exact congrArg (name :: ·) ih

namespace Closure

variable {registry : Registry} {request : Request} {start : Search}

/-- The filters that a request asks for before its closure is written back: its own, then those of
the patches of the keys it meets. -/
def givenFilters (registry : Registry) (request : Request) : List String :=
  addEntries some (Entries.keys request.filters)
    (((Trail.firstMet (walk registry request).visits).filterMap registry.patch?).flatMap
      fun patch => Entries.keys patch.filters)

theorem keys_filters_final (hpatched : start.patched = []) :
    Entries.keys (final registry start).request.filters =
      givenFilters registry start.request := by
  rw [request_final start hpatched]
  exact Request.foldl_update some (fun request => Entries.keys request.filters)
    (fun _ _ => Datum.keys_deepMerge _ _) _ _

end Closure

namespace Composer

variable {composer : Composer} {options : Options} {request working : Request} {journal : Journal}
  {result : Query} {name other : String}

/-- The filters that are put in for the options alone. -/
def activated (registry : Registry) (options : Options) : List String :=
  if options.withDefault.holds && Entries.has registry defaultFilter then [defaultFilter] else []

/-- The filters that are added to those given: those of the closure in its order, and then the
default filter. -/
def addedFilters (registry : Registry) (options : Options) (keys : List String) : List String :=
  addEntries some (Closure.namesOf .filter keys) (activated registry options)

theorem eq_of_mem_activated {registry : Registry} (h : name ∈ activated registry options) :
    name = defaultFilter := by
  rw [activated] at h
  split at h
  · exact List.mem_singleton.mp h
  · cases h

theorem nodup_activated (registry : Registry) (options : Options) :
    (activated registry options).Nodup := by
  rw [activated]
  split
  · exact List.nodup_singleton _
  · exact List.nodup_nil

theorem keys_filters_withDefaultFilter (registry : Registry) (options : Options)
    (request : Request) :
    Entries.keys (withDefaultFilter registry options request).filters =
      addEntries some (Entries.keys request.filters) (activated registry options) := by
  rw [withDefaultFilter, activated]
  split
  · exact Entries.keys_put_eq_addEntry _ _ _
  · rfl

theorem parse_of_mem_addedFilters {registry : Registry} {keys : List String}
    (h : name ∈ addedFilters registry options keys) : Key.parse name = ⟨.filter, name⟩ := by
  rcases mem_addEntries_some.mp h with hnamed | hactivated
  · obtain ⟨key, -, hparse⟩ := Closure.mem_namesOf.mp hnamed
    have hown := Key.parse_of_filter (congrArg Key.kind hparse)
    cases hparse.symm.trans hown
    exact hown
  · rw [eq_of_mem_activated hactivated]
    decide

/-- A filter of the closure comes after what precedes it there.  One that is not of the closure is
the default filter, and comes last. -/
theorem precedes_addedFilters {registry : Registry} {keys : List String}
    (horder : name ∈ keys → Precedes keys other name) (hne : other ≠ name)
    (hother : other ∈ addedFilters registry options keys)
    (hname : name ∈ addedFilters registry options keys) :
    Precedes (addedFilters registry options keys) other name := by
  refine (precedes_addEntries_iff (nodup_activated registry options) hname ?_).mpr ⟨hother, ?_⟩
  · intro hfirst hsecond
    exact absurd ((eq_of_mem_activated hfirst).trans (eq_of_mem_activated hsecond).symm) hne
  · by_cases hnamed : name ∈ Closure.namesOf .filter keys
    · exact .inr (Closure.precedes_namesOf
        (horder (Closure.mem_of_mem_namesOf_filter hnamed))
        (parse_of_mem_addedFilters hother) (parse_of_mem_addedFilters hname))
    · exact .inl hnamed

section Prepared

variable (hstatic : composer.registry.Static)
  (hprepare : (composer.prepare options request journal).1 = .ok working)

include hstatic hprepare

theorem keys_filters_working :
    Entries.keys working.filters =
      addEntries some (Closure.givenFilters composer.registry request)
        (addedFilters composer.registry options
          (Closure.final composer.registry (opening request journal)).closure) := by
  have hwalk : (Closure.walk composer.registry (opening request journal).request).failure = none :=
    walk_of_prepare hstatic hprepare
  have hregistered : ∀ name ∈ Closure.namesOf .filter
      (Closure.final composer.registry (opening request journal)).closure,
      name ∈ Entries.keys composer.registry :=
    fun _ => Closure.registered_of_mem_namesOf rfl hwalk
  have hwritten := Closure.keys_foldl_addFilter hregistered
    (Closure.final composer.registry (opening request journal)).request.filters
  rw [Closure.keys_filters_final rfl] at hwritten
  rw [working_eq hstatic hprepare, keys_filters_withDefaultFilter, addedFilters,
    ← addEntries_assoc]
  exact congrArg (addEntries some · _) hwritten

/-- Of the filters of the working request, one that another depends on comes before it, but for a
pair that the request and its patches give the other way round or give only the second of. -/
theorem precedes_filters_iff (hname : name ∈ Entries.keys working.filters)
    (hdepends : composer.registry.Depends name other) (hne : other ≠ name) :
    Precedes (Entries.keys working.filters) other name ↔
      other ∈ Entries.keys working.filters ∧
        (name ∉ Closure.givenFilters composer.registry request ∨
          Precedes (Closure.givenFilters composer.registry request) other name) := by
  have hwalk : (Closure.walk composer.registry (opening request journal).request).failure = none :=
    walk_of_prepare hstatic hprepare
  rw [keys_filters_working hstatic hprepare] at hname ⊢
  have hclosure : name ∈ (Closure.final composer.registry (opening request journal)).closure →
      Precedes (Closure.final composer.registry (opening request journal)).closure other name :=
    fun hkey => Closure.precedes_closure_of_depends _ rfl hwalk hkey hdepends
  have hnodup : (addedFilters composer.registry options
      (Closure.final composer.registry (opening request journal)).closure).Nodup :=
    nodup_addEntries_some (Closure.nodup_namesOf (Closure.closure_nodup _ rfl) .filter) _
  exact precedes_addEntries_iff hnodup hname (precedes_addedFilters hclosure hne)

theorem needed_of_depends (hneeded : composer.registry.Needed request.keys name)
    (hdepends : composer.registry.Depends name other) :
    composer.registry.Needed request.keys other := by
  have hwalk := walk_of_prepare hstatic hprepare
  induction hdepends with
  | single hrequires => exact Closure.needed_of_requires hwalk hneeded hrequires
  | tail _ hrequires ih => exact Closure.needed_of_requires hwalk ih hrequires

theorem mem_filters_of_needed (hneeded : composer.registry.Needed request.keys name)
    (hkind : (Key.parse name).kind = .filter) : name ∈ Entries.keys working.filters := by
  have hwalk : (Closure.walk composer.registry (opening request journal).request).failure = none :=
    walk_of_prepare hstatic hprepare
  have hkey : name ∈ (Closure.final composer.registry (opening request journal)).closure :=
    (Closure.mem_closure_iff_needed rfl hwalk).mpr hneeded
  rw [keys_filters_working hstatic hprepare, mem_addEntries_some]
  exact .inr (mem_addEntries_some.mpr (.inl (Closure.mem_namesOf.mpr
    ⟨name, hkey, Key.parse_of_filter hkind⟩)))

end Prepared

theorem joinsAt_treeFrom (composer : Composer) (options : Options) (working : Request)
    (base : Query) (parts : Context.Parts) (key : String) :
    Table.joinsAt key (composer.treeFrom options working base parts).tableList =
      Table.joinsAt key base.tableList ++
        (parts.tables.flatMap fun tree => Table.joinsOf key tree.tableList) ++
        parts.filters.flatMap fun tree => Table.joinsOf key tree.tableList := by
  obtain ⟨filter, limit, htree⟩ := treeFrom_eq composer options working base parts
  rw [htree]
  change Table.joinsAt key (gathered base parts).tableList = _
  rw [gathered, Query.joinsAt_foldl_merge, Query.joinsAt_foldl_merge, List.flatMap_map]
  rfl

/-- The trees of these filters are merged into a composition one after another: the joins of each
follow those before it, and the first limit that is set holds. -/
structure Stages.Merges (stages : Stages composer options request journal result)
    (merged : List (String × Query)) : Prop where
  names : merged.map Prod.fst =
    (Entries.keys stages.working.filters).filter (Entries.has composer.registry)
  trees : ∀ pair ∈ merged, ∃ fragment, Entries.get? composer.registry pair.1 = some fragment ∧
    fragment.filterTree pair.1 stages.working = .ok pair.2
  joins : ∀ key, Table.joinsAt key stages.tree.tableList =
    Table.joinsAt key stages.base.tableList ++
      (stages.parts.tables.flatMap fun tree => Table.joinsOf key tree.tableList) ++
      merged.flatMap fun pair => Table.joinsOf key pair.2.tableList
  limit : stages.tree.limit =
    Limit.first
      (stages.working.rowLimit.boxed :: stages.base.limit :: merged.map fun pair => pair.2.limit)

theorem Stages.exists_merged (stages : Stages composer options request journal result) :
    ∃ merged, stages.Merges merged := by
  obtain ⟨_, _, hfilters, _⟩ := Context.parts_eq_ok_iff.mp stages.parted
  rw [Context.filterTrees] at hfilters
  obtain ⟨merged, hnames, htrees, hmade⟩ := Action.exists_pairs_of_mapM
    (fun name (fragment : Fragment) => fragment.filterTree name stages.working) hfilters
  refine ⟨merged, ?_, ?_, ?_, ?_⟩
  · rw [hnames, Context.map_fst_found_filter]
    rfl
  · intro pair hpair
    obtain ⟨fragment, hfound, hmake⟩ := hmade pair hpair
    exact ⟨fragment, (Context.mem_found.mp hfound).2, hmake⟩
  · intro key
    rw [stages.tree_eq, joinsAt_treeFrom, ← htrees, List.flatMap_map]
  · rw [stages.tree_eq, limit_treeFrom, ← htrees, List.map_map]
    rfl

/-- The filters of a composition are merged in the order of the working request, so a filter is
merged after another that it depends on, unless the request and its patches give it and do not give
the other before it. -/
theorem compose_orders_filters (composer : Composer) (hstatic : composer.registry.Static)
    (options : Options) (request : Request) (journal : Journal) (result : Query)
    (h : (composer.compose options request journal).1 = .ok result) :
    ∃ stages : Stages composer options request journal result, ∃ merged,
      stages.Merges merged ∧
      (∀ name other, composer.registry.Needed request.keys name →
        composer.registry.Depends name other → (Key.parse other).kind = .filter →
        other ∈ merged.map Prod.fst) ∧
      ∀ name ∈ merged.map Prod.fst, ∀ other, composer.registry.Depends name other →
        other ≠ name →
        (Precedes (merged.map Prod.fst) other name ↔
          other ∈ merged.map Prod.fst ∧
            (name ∉ Closure.givenFilters composer.registry request ∨
              Precedes (Closure.givenFilters composer.registry request) other name)) := by
  obtain ⟨stages⟩ := exists_stages h
  obtain ⟨merged, hmerged⟩ := stages.exists_merged
  refine ⟨stages, merged, hmerged, ?_, ?_⟩
  · intro name other hneeded hdepends hkind
    have hother := needed_of_depends hstatic stages.prepared hneeded hdepends
    rw [hmerged.names, List.mem_filter, Entries.has_iff]
    exact ⟨mem_filters_of_needed hstatic stages.prepared hother hkind, hother.1⟩
  · intro name hname other hdepends hne
    rw [hmerged.names] at hname ⊢
    obtain ⟨hlisted, hregistered⟩ := List.mem_filter.mp hname
    have horder := precedes_filters_iff hstatic stages.prepared hlisted hdepends hne
    rw [List.mem_filter]
    constructor
    · intro hprecedes
      have hwhole := horder.mp (hprecedes.mono List.filter_sublist)
      exact ⟨List.mem_filter.mp hprecedes.mem_left, hwhole.2⟩
    · rintro ⟨⟨hother, hknown⟩, hgiven⟩
      exact (horder.mpr ⟨hother, hgiven⟩).filter _ hknown hregistered

/-- A few rows of the ships, with another table joined. -/
def fleet (other : String) (count : Int) : Query :=
  { Query.empty with tables := .one (.joined "ships" other), limit := .rows count }

/-- A few rows of the ships, with two other tables joined in turn. -/
def fullFleet (first second : String) (count : Int) : Query :=
  { Query.empty with
    tables := .many
      [⟨.name "ships", none,
        .many [⟨.left, .name first, .absent⟩, ⟨.left, .name second, .absent⟩]⟩]
    limit := .rows count }

/-- Ships by filters, each of which requires the next. -/
def roster : Composer where
  registry :=
    [("listed", .bare (.names ["recent"])),
      ("recent", .ofQuery (fleet "holds" 5) (.names ["paged"])),
      ("paged", .ofQuery (fleet "crews" 20) .none)]

def filtered (name : String) : Request where
  filters := [(name, .bool true)]

theorem roster_static : roster.registry.Static :=
  Registry.static_of_forall (by simp [roster, Fragment.bare, Fragment.ofQuery, Prerequisite.Static])

theorem walk_listed : Closure.walk roster.registry (filtered "listed") =
    ⟨[⟨[], "listed"⟩, ⟨["listed"], "recent"⟩, ⟨["listed", "recent"], "paged"⟩], none⟩ := by
  cbv

theorem walk_recent : Closure.walk roster.registry (filtered "recent") =
    ⟨[⟨[], "recent"⟩, ⟨["recent"], "paged"⟩], none⟩ := by
  cbv

/-- Of two filters that are not asked for by name the required one comes first. -/
theorem roster_paged_first :
    roster.registry.Static ∧
    (roster.compose {} (filtered "listed") []).1 = .ok (fullFleet "crews" "holds" 20) ∧
    ∃ working, (roster.prepare {} (filtered "listed") []).1 = .ok working ∧
      Precedes (Entries.keys working.filters) "paged" "recent" := by
  have hcompose : (roster.compose {} (filtered "listed") []).1 =
      .ok (fullFleet "crews" "holds" 20) := by
    rw [compose_outcome, unfinished_outcome, prepare_of_walk roster_static walk_listed
      ["paged", "recent", "listed"] (filtered "listed") (fun journal => by cbv) fun _ => rfl]
    rfl
  obtain ⟨stages, merged, hmerged, hothers, horder⟩ :=
    compose_orders_filters roster roster_static {} (filtered "listed") [] _ hcompose
  have hrecent : roster.registry.Requires "listed" "recent" := Registry.mem_required.mp (by decide)
  have hpaged : roster.registry.Requires "recent" "paged" := Registry.mem_required.mp (by decide)
  have hneeded : roster.registry.Needed (filtered "listed").keys "listed" :=
    ⟨by decide, "listed", by decide, by decide, .refl⟩
  have hgiven : "recent" ∉ Closure.givenFilters roster.registry (filtered "listed") := by
    rw [Closure.givenFilters, walk_listed]
    decide
  have hmem := hothers "listed" "paged" hneeded (.tail (.single hrecent) hpaged) (by decide)
  have hprecedes := (horder "recent" (hothers "listed" "recent" hneeded (.single hrecent) (by decide))
    "paged" (.single hpaged) (by decide)).mpr ⟨hmem, .inl hgiven⟩
  rw [hmerged.names] at hprecedes
  exact ⟨roster_static, hcompose, stages.working, stages.prepared,
    hprecedes.mono List.filter_sublist⟩

theorem roster_requires {key other : String} (h : roster.registry.Requires key other) :
    (key = "listed" ∧ other = "recent") ∨ (key = "recent" ∧ other = "paged") := by
  rw [← Registry.mem_required, Registry.required, Registry.requirementOf] at h
  cases hfound : Entries.get? roster.registry key with
  | none =>
      rw [hfound] at h
      cases h
  | some fragment =>
      rw [hfound] at h
      have hmem := Entries.mem_of_get? hfound
      simp only [roster, List.mem_cons, List.not_mem_nil, or_false] at hmem
      rcases hmem with hpair | hpair | hpair
      · cases hpair
        exact .inl ⟨rfl, List.mem_singleton.mp h⟩
      · cases hpair
        exact .inr ⟨rfl, List.mem_singleton.mp h⟩
      · cases hpair
        cases h

/-- A filter that is asked for by name comes before what it requires, with its joins and its
limit. -/
theorem roster_recent_first :
    roster.registry.Static ∧
    (∀ key, ¬ roster.registry.Depends key key) ∧
    roster.registry.Names "recent" "paged" ∧
    (roster.compose {} (filtered "recent") []).1 = .ok (fullFleet "holds" "crews" 5) ∧
    ∃ working, (roster.prepare {} (filtered "recent") []).1 = .ok working ∧
      Entries.keys working.filters = ["recent", "paged"] ∧
      ¬ Precedes (Entries.keys working.filters) "paged" "recent" := by
  have hprepare : (roster.prepare {} (filtered "recent") []).1 =
      .ok (withDefaultFilter roster.registry {}
        (Closure.writeBack roster.registry ["paged", "recent"] (filtered "recent"))) :=
    prepare_of_walk roster_static walk_recent ["paged", "recent"] (filtered "recent")
      (fun journal => by cbv) fun _ => rfl
  refine ⟨roster_static, ?_, ⟨["paged"], rfl, List.mem_singleton.mpr rfl⟩, ?_, _, hprepare, ?_, ?_⟩
  · refine Registry.not_depends_self (List.idxOf · ["listed", "recent", "paged"]) ?_
    intro key other hrequires
    rcases roster_requires hrequires with ⟨rfl, rfl⟩ | ⟨rfl, rfl⟩
    · decide
    · decide
  · rw [compose_outcome, unfinished_outcome, hprepare]
    rfl
  · decide
  · have hkeys : Entries.keys (withDefaultFilter roster.registry {}
        (Closure.writeBack roster.registry ["paged", "recent"] (filtered "recent"))).filters =
        ["recent", "paged"] := by decide
    rw [hkeys, Precedes]
    decide

end Composer

end QueryWeave

import QueryWeave.Proofs.Closure.Patches

/-!
How often a request asks for a key of its closure once the closure is written back.  It is exactly
once, but for two ways of asking that are not compared with the others: filters that go by the key of
another kind, and sort entries with a direction beside a patch.
-/

namespace QueryWeave

/-- In no clause does the request name a fragment of the registry twice. -/
def Request.NamesOnce (request : Request) (registry : Registry) : Prop :=
  ∀ kind name, (Key.mk kind name).render ∈ Entries.keys registry →
    (request.asked kind).count name ≤ 1

theorem Request.namesOnce_of_nodup {request : Request} {registry : Registry}
    (h : ∀ kind, (request.asked kind).Nodup) : request.NamesOnce registry := by
  intro kind name _
  exact List.nodup_iff_count_le_one.mp (h kind) name

namespace Closure

variable {registry : Registry} {keys : List String} {request : Request} {name : String}

theorem keys_foldl_addFilter {names : List String}
    (hregistered : ∀ name ∈ names, name ∈ Entries.keys registry) (filters : Entries Datum) :
    Entries.keys (names.foldl (addFilter registry) filters) =
      addEntries some (Entries.keys filters) names := by
  induction names generalizing filters with
  | nil => rfl
  | cons first rest ih =>
      rw [List.foldl_cons, ih fun name hname => hregistered name (List.mem_cons_of_mem _ hname),
        addEntries_cons]
      congr 1
      rw [addFilter]
      split
      next hhas => rw [addEntry_some, if_pos (Entries.has_iff.mp hhas)]
      next =>
        obtain ⟨fragment, hfound⟩ :=
          Entries.exists_get?_of_mem_keys (hregistered first List.mem_cons_self)
        rw [hfound]
        exact Entries.keys_put_eq_addEntry _ _ _

theorem count_filterMap_frontOf_le_one {α : Type} (name? : α → Option String)
    {ofName : String → α} (hofName : ∀ name, name? (ofName name) = some name)
    (names : List String) (entries : List α) (name : String) :
    ((frontOf name? ofName names entries).filterMap name?).count name ≤ 1 := by
  rw [frontOf]
  apply count_addEntries_le_one
  rw [filterMap_map_name name? hofName]
  exact count_addEntries_some_le_one (Nat.zero_le 1)

theorem count_filterMap_addSorting (entries : List SortEntry) (names : List String)
    (name : String) :
    ((addSorting entries names).filterMap SortEntry.sortName?).count name =
      max ((entries.filterMap SortEntry.sortName?).count name) (min 1 (names.count name)) := by
  rw [addSorting, List.filterMap_append, filterMap_map_name SortEntry.sortName? fun _ => rfl,
    List.count_append]
  have hnames : (addEntries some [] names).count name = min 1 (names.count name) := by
    have hcount := @count_filterMap_addEntries String some [] names name
    simp only [List.filterMap_some, List.count_nil] at hcount
    omega
  by_cases hpresent : name ∈ entries.filterMap SortEntry.sortName?
  · have hheld := List.one_le_count_iff.mpr hpresent
    have hleft : name ∉ (addEntries some [] names).filter fun name =>
        !(entries.filterMap SortEntry.sortName?).contains name := by
      rw [List.mem_filter, List.contains_iff_mem.mpr hpresent]
      exact fun h => Bool.false_ne_true h.2
    rw [List.count_eq_zero_of_not_mem hleft]
    omega
  · rw [List.count_filter (by simp [hpresent]), hnames, List.count_eq_zero_of_not_mem hpresent]
    omega

theorem count_asked_writeBack_le_one_iff
    (hregistered : ∀ name ∈ namesOf .filter keys, name ∈ Entries.keys registry) {kind : Kind}
    (hown : kind ≠ .order → (request.asked kind).count name ≤ 1) :
    ((writeBack registry keys request).asked kind).count name ≤ 1 ↔
      (request.asked kind).count name ≤ 1 := by
  cases kind with
  | field =>
      refine iff_of_true ?_ (hown nofun)
      exact count_filterMap_frontOf_le_one FieldEntry.name? (fun _ => rfl) _ _ name
  | table =>
      refine iff_of_true ?_ (hown nofun)
      have h := count_filterMap_frontOf_le_one some (fun name : String => rfl)
        (namesOf .table keys) request.tableList name
      rw [List.filterMap_some] at h
      exact h
  | filter =>
      refine iff_of_true ?_ (hown nofun)
      have hkeys := keys_foldl_addFilter hregistered request.filters
      unfold Request.asked writeBack
      dsimp only
      rw [hkeys]
      exact count_addEntries_some_le_one (hown nofun)
  | group =>
      refine iff_of_true ?_ (hown nofun)
      exact count_addEntries_le_one (hown nofun)
  | order =>
      have hcount := count_filterMap_addSorting request.sortList (namesOf .order keys) name
      unfold Request.asked writeBack
      change ((addSorting request.sortList (namesOf .order keys)).filterMap
        SortEntry.sortName?).count name ≤ 1 ↔ _
      rw [hcount]
      dsimp only
      omega

theorem not_mem_namesOf_filter {key : String} (hkind : (Key.parse key).kind ≠ .filter) :
    key ∉ namesOf .filter keys := by
  intro hmem
  obtain ⟨other, _, hparse⟩ := mem_namesOf.mp hmem
  have hsame : key = other := by
    have hrender := Key.render_parse other
    rw [hparse] at hrender
    exact hrender
  rw [hsame, hparse] at hkind
  exact hkind rfl

theorem patches_perm_closure (registry : Registry) (start : Search) (hweights : start.weights = []) :
    ((Trail.firstMet (walk registry start.request).visits).filterMap registry.patch?).Perm
      ((final registry start).closure.filterMap registry.patch?) := by
  rw [← keys_weights_final start hweights]
  exact (Search.closure_perm _).symm.filterMap _

/-- The requests that ask: the first one, and the patches of its closure. -/
def sources (registry : Registry) (request : Request) (keys : List String) : List Request :=
  request :: keys.filterMap registry.patch?

section Done

variable {start : Search} (hweights : start.weights = []) (hpatched : start.patched = [])

include hweights hpatched

theorem count_asked_final_le_one_iff {kind : Kind}
    (hown : (start.request.asked kind).count name ≤ 1) :
    ((final registry start).request.asked kind).count name ≤ 1 ↔
      Request.Unites (sources registry start.request (final registry start).closure) kind name := by
  rw [request_final start hpatched, Request.count_asked_foldl_update_le_one_iff hown]
  have hperm := (patches_perm_closure registry start hweights).cons start.request
  exact ⟨fun h => h.perm hperm, fun h => h.perm hperm.symm⟩

theorem mem_asked_final_iff {kind : Kind} :
    name ∈ (final registry start).request.asked kind ↔
      ∃ source ∈ sources registry start.request (final registry start).closure,
        name ∈ source.asked kind := by
  rw [request_final start hpatched, Request.mem_asked_foldl_update]
  simp only [((patches_perm_closure registry start hweights).cons
    start.request).mem_iff, sources]

end Done

/-- A key of the closure is asked for exactly once, unless a filter of the request or of a patch goes
by the key of another kind, or sort entries of the request and of the patches for the name are several
and not all bare names. -/
theorem requested_once_iff (hstatic : registry.Static) {journal : Journal} {left : Search}
    (hown : request.NamesOnce registry)
    (hdone : search registry { request, journal } = (.ok keys, left)) :
    ∀ key ∈ keys, (writeBack registry keys left.request).keys.count key = 1 ↔
      ((Key.parse key).kind ≠ .filter →
        ∀ source ∈ sources registry request keys, key ∉ Entries.keys source.filters) ∧
      Request.Unites (sources registry request keys) (Key.parse key).kind
        (Key.parse key).name := by
  obtain ⟨hwalk, rfl, rfl⟩ := search_eq_ok_inv hstatic hdone
  intro key hkey
  have hfilters : ∀ name ∈ namesOf .filter (final registry { request, journal }).closure,
      name ∈ Entries.keys registry :=
    fun name => registered_of_mem_namesOf rfl hwalk
  have hregistered := ((mem_closure_iff_needed rfl hwalk).mp hkey).1
  rw [Request.count_keys]
  cases hparse : Key.parse key with
  | mk kind name =>
      dsimp only
      have hfirst : (request.asked kind).count name ≤ 1 := by
        apply hown
        rw [← hparse, Key.render_parse]
        exact hregistered
      have hunites :
          ((final registry { request, journal }).request.asked kind).count name ≤ 1 ↔
            Request.Unites (sources registry request (final registry { request, journal }).closure)
              kind name :=
        count_asked_final_le_one_iff rfl rfl hfirst
      have honce := count_asked_writeBack_le_one_iff hfilters fun hkind =>
        hunites.mpr fun horder => absurd horder hkind
      -- Under its own kind the key is asked for at least once, and twice only by sort entries.
      have hplace : name ∈ (writeBack registry (final registry { request, journal }).closure
          (final registry { request, journal }).request).asked kind :=
        (mem_asked_writeBack hfilters).mpr (Or.inr (mem_namesOf.mpr ⟨key, hkey, hparse⟩))
      have hasked := List.one_le_count_iff.mpr hplace
      rw [← hunites, ← honce]
      by_cases hkind : kind = .filter
      · rw [if_pos hkind, Nat.add_zero]
        constructor
        · exact fun h => ⟨absurd hkind, Nat.le_of_eq h⟩
        · exact fun h => Nat.le_antisymm h.2 hasked
      · rw [if_neg hkind]
        have hplaced : key ∉ namesOf .filter (final registry { request, journal }).closure := by
          apply not_mem_namesOf_filter
          rw [hparse]
          exact hkind
        -- Filters that go by the key come from the request and the patches.
        have hmisplaced : ((writeBack registry (final registry { request, journal }).closure
            (final registry { request, journal }).request).asked .filter).count key = 0 ↔
            ∀ source ∈ sources registry request (final registry { request, journal }).closure,
              key ∉ Entries.keys source.filters := by
          rw [List.count_eq_zero, mem_asked_writeBack hfilters, or_iff_left hplaced,
            @mem_asked_final_iff _ _ { request, journal } rfl rfl]
          simp only [not_exists, not_and]
          rfl
        rw [← hmisplaced]
        constructor
        · intro h
          exact ⟨fun _ => by omega, by omega⟩
        · rintro ⟨hnone, hone⟩
          have hzero := hnone hkind
          omega

theorem stacked_day_requested_once :
    stacked.Static ∧ totals.NamesOnce stacked ∧ ∃ left,
      search stacked { request := totals } =
        (.ok ["table:orders", "orderBy:day", "table:items", "field:price", "field:total"], left) ∧
      (writeBack stacked
        ["table:orders", "orderBy:day", "table:items", "field:price", "field:total"]
        left.request).keys.count "orderBy:day" = 1 := by
  have hown : totals.NamesOnce stacked := Request.namesOnce_of_nodup (by
    intro kind
    cases kind <;> decide)
  obtain ⟨left, hdone⟩ := search_stacked
  have hsources : sources stacked totals
      ["table:orders", "orderBy:day", "table:items", "field:price", "field:total"] =
        [totals, { tables := some ["orders", "plain"], sorting := .one (.name "day") }] := by
    rfl
  refine ⟨static_stacked, hown, left, hdone, ?_⟩
  rw [requested_once_iff static_stacked hown hdone _ (by simp), hsources]
  constructor
  · intro _ source hsource
    rcases List.mem_pair.mp hsource with rfl | rfl
    · decide
    · decide
  · intro _
    apply Or.inl
    intro entry hentry hname
    cases List.mem_singleton.mp hentry
    exact hname

/-- A field that patches in an order by day. -/
def dated : Registry :=
  [("field:total", .bare (.patch { sorting := .one (.name "day") })), ("orderBy:day", .bare .none)]

def datedTotals : Request where
  fields := some [.name "total"]
  sorting := .one (.key ⟨"day", none⟩)

/-- A filter that goes by the key of an order. -/
def misspelled : Request where
  filters := [("orderBy:day", .bool true)]

theorem walk_datedTotals : walk dated datedTotals =
    ⟨[⟨[], "field:total"⟩, ⟨["field:total"], "orderBy:day"⟩, ⟨[], "orderBy:day"⟩], none⟩ := by
  cbv

theorem walk_misspelled : walk dated misspelled = ⟨[⟨[], "orderBy:day"⟩], none⟩ := by
  cbv

/-- An order is asked for twice by a sort key and the bare name in a patch, and by a filter that goes
by its key. -/
theorem dated_day_requested_twice :
    dated.Static ∧
    (datedTotals.NamesOnce dated ∧ ∃ keys left,
      search dated { request := datedTotals } = (.ok keys, left) ∧ "orderBy:day" ∈ keys ∧
      (writeBack dated keys left.request).keys.count "orderBy:day" = 2) ∧
    misspelled.NamesOnce dated ∧ ∃ keys left,
      search dated { request := misspelled } = (.ok keys, left) ∧ "orderBy:day" ∈ keys ∧
      (writeBack dated keys left.request).keys.count "orderBy:day" = 2 := by
  have hstatic : dated.Static :=
    Registry.static_of_forall (by simp [dated, Fragment.bare, Prerequisite.Static])
  have hdated : (final dated { request := datedTotals }).closure =
      ["orderBy:day", "field:total"] := by
    rw [final, walk_datedTotals]
    cbv
  have hmisspelled : (final dated { request := misspelled }).closure = ["orderBy:day"] := by
    rw [final, walk_misspelled]
    cbv
  refine ⟨hstatic, ⟨?_, ?_⟩, ?_, ?_⟩
  · exact Request.namesOnce_of_nodup fun kind => by cases kind <;> decide
  · refine ⟨_, _, search_of_done hstatic { request := datedTotals } (by rw [walk_datedTotals]), ?_⟩
    rw [hdated, final, walk_datedTotals]
    decide
  · exact Request.namesOnce_of_nodup fun kind => by cases kind <;> decide
  · refine ⟨_, _, search_of_done hstatic { request := misspelled } (by rw [walk_misspelled]), ?_⟩
    rw [hmisspelled, final, walk_misspelled]
    decide

end Closure

end QueryWeave

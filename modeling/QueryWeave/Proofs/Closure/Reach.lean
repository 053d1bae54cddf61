import QueryWeave.Proofs.Closure.Failure
import QueryWeave.Proofs.Closure.Final
import QueryWeave.Proofs.Closure.WriteBack

/-!
The closure is what the requested keys reach.  So is, after the closure has been written back, what
the request names of the registry.
-/

namespace QueryWeave

/-- A registered key that a registered key among those requested reaches. -/
def Registry.Needed (registry : Registry) (requested : List String) (key : String) : Prop :=
  key ∈ Entries.keys registry ∧
    ∃ start ∈ requested, start ∈ Entries.keys registry ∧ registry.Reaches start key

theorem Visit.Routed.needed {registry : Registry} {starts : List String} {visit : Visit}
    (h : visit.Routed registry starts) : registry.Needed starts visit.key := by
  obtain ⟨hroute, hleads, hregistered, _⟩ := Registry.Route.concat_inv h
  refine ⟨hregistered, ?_⟩
  by_cases hbegun : visit.path = []
  · rw [hbegun, Registry.leads_nil] at hleads
    exact ⟨visit.key, hleads, hregistered, .refl⟩
  · obtain ⟨start, hstart, hstartRegistered, _, hdepends⟩ := hroute.exists_start hleads hbegun
    exact ⟨start, hstart, hstartRegistered, hdepends.to_reflTransGen⟩

namespace Closure

variable {registry : Registry} {request : Request}

theorem walk_saturated (hdone : (walk registry request).failure = none) :
    (walk registry request).Saturated registry :=
  (trail_complete hdone).1

theorem walk_visits_requested (hdone : (walk registry request).failure = none) {key : String}
    (hrequested : key ∈ request.keys) (hregistered : key ∈ Entries.keys registry) :
    ⟨[], key⟩ ∈ (walk registry request).visits :=
  ((trail_complete hdone).2 key hrequested).2.2 hregistered

/-- The visits are to the keys that are needed. -/
theorem mem_visited_iff_needed (hdone : (walk registry request).failure = none) {key : String} :
    key ∈ (walk registry request).visits.map Visit.key ↔ registry.Needed request.keys key := by
  rw [List.mem_map]
  constructor
  · rintro ⟨visit, hvisit, rfl⟩
    exact ((walk_sound registry request).visits visit hvisit).needed
  · rintro ⟨_, start, hrequested, hregistered, hreaches⟩
    obtain ⟨path, hvisited⟩ := (walk_saturated hdone).exists_visit
      (walk_visits_requested hdone hrequested hregistered) hreaches
    exact ⟨_, hvisited, rfl⟩

theorem keys_weights_final (start : Search) (hweights : start.weights = []) :
    Entries.keys (final registry start).weights =
      Trail.firstMet (walk registry start.request).visits := by
  rw [final, Search.keys_weights_foldl_meet, hweights]
  rfl

theorem nodup_keys_weights_final (start : Search) (hweights : start.weights = []) :
    (Entries.keys (final registry start).weights).Nodup := by
  rw [keys_weights_final start hweights]
  exact nodup_addEntries_some List.nodup_nil _

theorem closure_nodup (start : Search) (hweights : start.weights = []) :
    (final registry start).closure.Nodup :=
  (Search.closure_perm _).nodup_iff.mpr (nodup_keys_weights_final start hweights)

theorem mem_closure_iff_visited (start : Search) (hweights : start.weights = []) {key : String} :
    key ∈ (final registry start).closure ↔
      key ∈ (walk registry start.request).visits.map Visit.key := by
  rw [(Search.closure_perm _).mem_iff, keys_weights_final start hweights, Trail.firstMet,
    mem_addEntries_some]
  simp

/-- The working request names no registered key that is not needed. -/
theorem needed_of_mem_keys_final (start : Search) {key : String}
    (hmem : key ∈ (final registry start).request.keys) (hregistered : key ∈ Entries.keys registry) :
    registry.Needed start.request.keys key := by
  rcases Search.mem_keys_foldl_meet hmem with hown | ⟨visit, hvisit, change, hchange, hpatched⟩
  · exact ⟨hregistered, key, hown, hregistered, .refl⟩
  · obtain ⟨_, source, hsource, hsourceRegistered, hreaches⟩ :=
      ((walk_sound registry start.request).visits visit hvisit).needed
    have hrequires : registry.Requires visit.key key :=
      Or.inr ⟨change, hchange, hpatched, hregistered⟩
    exact ⟨hregistered, source, hsource, hsourceRegistered, hreaches.tail hrequires⟩

theorem search_eq_ok_inv (hstatic : registry.Static) {start left : Search} {keys : List String}
    (h : search registry start = (.ok keys, left)) :
    (walk registry start.request).failure = none ∧ keys = (final registry start).closure ∧
      left = final registry start := by
  cases hdone : (walk registry start.request).failure with
  | none =>
      rw [search_of_done hstatic start hdone] at h
      cases h
      exact ⟨rfl, rfl, rfl⟩
  | some failure =>
      rw [search_of_broken hstatic start hdone] at h
      cases h

section Done

variable {start : Search} (hweights : start.weights = [])
  (hdone : (walk registry start.request).failure = none)

include hweights hdone

theorem mem_closure_iff_needed {key : String} :
    key ∈ (final registry start).closure ↔ registry.Needed start.request.keys key :=
  (mem_closure_iff_visited start hweights).trans (mem_visited_iff_needed hdone)

theorem registered_of_mem_namesOf {name : String}
    (h : name ∈ namesOf .filter (final registry start).closure) :
    name ∈ Entries.keys registry :=
  ((mem_closure_iff_needed hweights hdone).mp (mem_of_mem_namesOf_filter h)).1

theorem registered_keys_writeBack_iff_needed {key : String} :
    (key ∈ (writeBack registry (final registry start).closure (final registry start).request).keys ∧
      key ∈ Entries.keys registry) ↔ registry.Needed start.request.keys key := by
  rw [mem_keys_writeBack fun name => registered_of_mem_namesOf hweights hdone,
    mem_closure_iff_needed hweights hdone]
  constructor
  · rintro ⟨hmem | hmem, hregistered⟩
    · exact needed_of_mem_keys_final _ hmem hregistered
    · exact hmem
  · exact fun h => ⟨Or.inr h, h.1⟩

end Done

/-- The closure lists each needed key once.  Writing it back finds the fragment of every filter it
puts in, and leaves a request whose registered keys are the needed ones. -/
theorem closure_iff_needed (hstatic : registry.Static) {journal : Journal} {keys : List String}
    {left : Search} (hdone : search registry { request, journal } = (.ok keys, left)) :
    keys.Nodup ∧
    (∀ key, key ∈ keys ↔ registry.Needed request.keys key) ∧
    (∀ name ∈ namesOf .filter keys, ∃ fragment, Entries.get? registry name = some fragment) ∧
    ∀ key, (key ∈ (writeBack registry keys left.request).keys ∧ key ∈ Entries.keys registry) ↔
      registry.Needed request.keys key := by
  obtain ⟨hwalk, rfl, rfl⟩ := search_eq_ok_inv hstatic hdone
  refine ⟨closure_nodup _ rfl, ?_, ?_, ?_⟩
  · intro key
    exact mem_closure_iff_needed rfl hwalk
  · intro name hname
    exact Entries.exists_get?_of_mem_keys (registered_of_mem_namesOf rfl hwalk hname)
  · intro key
    exact registered_keys_writeBack_iff_needed rfl hwalk

/-- A field over a field over a table that patches in two tables, one registered, and an order. -/
def stacked : Registry :=
  [("field:total", .bare (.names ["field:price"])),
    ("field:price", .bare (.names ["table:items"])),
    ("table:items",
      .bare (.patch { tables := some ["orders", "plain"], sorting := .one (.name "day") })),
    ("table:orders", .bare .none), ("orderBy:day", .bare .none)]

def totals : Request where
  fields := some [.name "total", .name "loose"]
  tables := some ["items"]

theorem static_stacked : stacked.Static :=
  Registry.static_of_forall (by simp [stacked, Fragment.bare, Prerequisite.Static])

theorem walk_stacked : walk stacked totals =
    ⟨[⟨[], "field:total"⟩,
      ⟨["field:total"], "field:price"⟩,
      ⟨["field:total", "field:price"], "table:items"⟩,
      ⟨["field:total", "field:price", "table:items"], "table:orders"⟩,
      ⟨["field:total", "field:price", "table:items"], "orderBy:day"⟩,
      ⟨[], "table:items"⟩,
      ⟨["table:items"], "table:orders"⟩,
      ⟨["table:items"], "orderBy:day"⟩], none⟩ := by
  cbv

theorem search_stacked :
    ∃ left, search stacked { request := totals } =
      (.ok ["table:orders", "orderBy:day", "table:items", "field:price", "field:total"], left) := by
  have hdone : (walk stacked totals).failure = none := by rw [walk_stacked]
  have hweights : (final stacked { request := totals }).weights =
      [("field:total", 0), ("field:price", 1), ("table:items", 2), ("table:orders", 4),
        ("orderBy:day", 4)] := by
    rw [final, walk_stacked]
    decide +kernel
  have hclosure : (final stacked { request := totals }).closure =
      ["table:orders", "orderBy:day", "table:items", "field:price", "field:total"] := by
    rw [Search.closure, hweights]
    simp [List.mergeSort]
  rw [← hclosure]
  exact ⟨_, search_of_done static_stacked { request := totals } hdone⟩

theorem stacked_closure_needed :
    stacked.Static ∧ ∃ left,
      search stacked { request := totals } =
        (.ok ["table:orders", "orderBy:day", "table:items", "field:price", "field:total"], left) ∧
      ∀ key, key ∈ ["table:orders", "orderBy:day", "table:items", "field:price", "field:total"] ↔
        stacked.Needed totals.keys key := by
  obtain ⟨left, hdone⟩ := search_stacked
  obtain ⟨_, hneeded, _⟩ := closure_iff_needed static_stacked hdone
  exact ⟨static_stacked, left, hdone, hneeded⟩

end Closure

end QueryWeave

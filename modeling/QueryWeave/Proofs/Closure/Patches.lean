import QueryWeave.Proofs.Closure.Reach
import QueryWeave.Proofs.Request.Patched

/-!
The patches of a search.  A key whose requirement is a patch puts it into the request on the first
visit and never again, so the request after the search is the first one with the patches of the
visited keys in order.
-/

namespace QueryWeave

/-- The patch that a key requires, if its requirement is one. -/
def Registry.patch? (registry : Registry) (key : String) : Option Request :=
  match registry.requirementOf key with
  | .patch change => some change
  | _ => none

namespace Search

variable {registry : Registry} {search : Search} {visit : Visit} {change : Request}

theorem noteRequired_patched (search : Search) (key : String) (names : List String) :
    (search.noteRequired key names).patched = search.patched := by
  rw [noteRequired]
  split
  · rfl
  · rfl

theorem meet_of_no_patch (h : registry.patch? visit.key = none) :
    (search.meet registry visit).request = search.request ∧
      (search.meet registry visit).patched = search.patched := by
  rw [meet, noteRequired_request, noteRequired_patched]
  rw [Registry.patch?] at h
  cases hrequirement : registry.requirementOf visit.key with
  | none => exact ⟨rfl, rfl⟩
  | names listed => exact ⟨rfl, rfl⟩
  | mixed listed => exact ⟨rfl, rfl⟩
  | patch change => simp [hrequirement] at h

theorem obey_of_patch? (h : registry.patch? visit.key = some change) (search : Search) :
    search.obey visit.key (registry.requirementOf visit.key) =
      search.applyPatch visit.key change := by
  rw [Registry.patch?] at h
  cases hrequirement : registry.requirementOf visit.key with
  | none => simp [hrequirement] at h
  | names listed => simp [hrequirement] at h
  | mixed listed => simp [hrequirement] at h
  | patch other =>
      rw [hrequirement] at h
      cases h
      rfl

theorem meet_of_patched (h : registry.patch? visit.key = some change)
    (hpatched : visit.key ∈ search.patched) :
    (search.meet registry visit).request = search.request ∧
      (search.meet registry visit).patched = search.patched := by
  have hheld : (search.visit visit.key visit.path.length).patched.contains visit.key = true :=
    List.contains_iff_mem.mpr hpatched
  rw [meet, noteRequired_request, noteRequired_patched, obey_of_patch? h, applyPatch, if_pos hheld]
  exact ⟨rfl, rfl⟩

theorem meet_of_unpatched (h : registry.patch? visit.key = some change)
    (hpatched : visit.key ∉ search.patched) :
    (search.meet registry visit).request = search.request.update change ∧
      (search.meet registry visit).patched = search.patched ++ [visit.key] := by
  have hheld : ¬ (search.visit visit.key visit.path.length).patched.contains visit.key = true :=
    fun hcontains => hpatched (List.contains_iff_mem.mp hcontains)
  rw [meet, noteRequired_request, noteRequired_patched, obey_of_patch? h, applyPatch, if_neg hheld]
  exact ⟨rfl, rfl⟩

theorem firstMet_append_singleton (visits : List Visit) (visit : Visit) :
    Trail.firstMet (visits ++ [visit]) =
      if visit.key ∈ Trail.firstMet visits then Trail.firstMet visits
      else Trail.firstMet visits ++ [visit.key] := by
  rw [Trail.firstMet, List.map_append, List.map_singleton, addEntries_append, addEntries_cons,
    addEntries_nil, addEntry_some]
  rfl

theorem firstMet_eq_eraseDups (visits : List Visit) :
    Trail.firstMet visits = (visits.map Visit.key).eraseDups := by
  induction visits using List.reverseRecOn with
  | nil => rfl
  | append_singleton visits visit ih =>
      rw [firstMet_append_singleton, ih, List.map_append, List.map_singleton,
        eraseDups_append_singleton]
      exact if_congr List.mem_eraseDups rfl rfl

/-- The patches in the request are those of the keys met, once each, in order of first visit. -/
theorem foldl_meet_patches (hpatched : search.patched = []) (visits : List Visit) :
    (visits.foldl (meet registry) search).request =
      ((Trail.firstMet visits).filterMap registry.patch?).foldl Request.update search.request ∧
    (visits.foldl (meet registry) search).patched =
      (Trail.firstMet visits).filter fun key => (registry.patch? key).isSome := by
  induction visits using List.reverseRecOn with
  | nil => exact ⟨rfl, hpatched⟩
  | append_singleton visits visit ih =>
      obtain ⟨hrequest, hkeys⟩ := ih
      rw [List.foldl_append, List.foldl_cons, List.foldl_nil, firstMet_append_singleton]
      cases hpatch : registry.patch? visit.key with
      | none =>
          obtain ⟨hsameRequest, hsamePatched⟩ := meet_of_no_patch hpatch
          rw [hsameRequest, hsamePatched, hrequest, hkeys]
          split
          next => exact ⟨rfl, rfl⟩
          next => simp [hpatch]
      | some change =>
          split
          next hmet =>
            have hmem : visit.key ∈ (visits.foldl (meet registry) search).patched := by
              rw [hkeys]
              exact List.mem_filter.mpr ⟨hmet, by rw [hpatch]; rfl⟩
            obtain ⟨hsameRequest, hsamePatched⟩ := meet_of_patched hpatch hmem
            rw [hsameRequest, hsamePatched]
            exact ⟨hrequest, hkeys⟩
          next hnew =>
            have hnot : visit.key ∉ (visits.foldl (meet registry) search).patched := by
              rw [hkeys]
              exact fun hmem => hnew (List.mem_filter.mp hmem).1
            obtain ⟨hnext, hnextPatched⟩ := meet_of_unpatched hpatch hnot
            rw [hnext, hnextPatched, hrequest, hkeys]
            simp [hpatch]

end Search

theorem Closure.request_final {registry : Registry} (start : Search)
    (hpatched : start.patched = []) :
    (final registry start).request =
      ((Trail.firstMet (walk registry start.request).visits).filterMap registry.patch?).foldl
        Request.update start.request :=
  (Search.foldl_meet_patches hpatched _).1

namespace Closure

/-- A search that ends has put in the patch of each key it visited, once, in order of first
visit. -/
theorem search_patches_once {registry : Registry} (hstatic : registry.Static) {request : Request}
    {journal : Journal} {keys : List String} {left : Search}
    (hdone : search registry { request, journal } = (.ok keys, left)) :
    ∃ met : List String,
      met = ((walk registry request).visits.map Visit.key).eraseDups ∧
      met.Nodup ∧ keys.Perm met ∧ Entries.keys left.weights = met ∧
      left.patched = met.filter (fun key => (registry.patch? key).isSome) ∧
      left.request = (met.filterMap registry.patch?).foldl Request.update request := by
  obtain ⟨_, rfl, rfl⟩ := search_eq_ok_inv hstatic hdone
  have hkeys : Entries.keys (final registry { request, journal }).weights =
      Trail.firstMet (walk registry request).visits :=
    keys_weights_final { request, journal } rfl
  have hunpatched : ({ request, journal } : Search).patched = [] := rfl
  obtain ⟨hrequest, hpatched⟩ :=
    Search.foldl_meet_patches hunpatched (walk registry request).visits
  refine ⟨Trail.firstMet (walk registry request).visits, Search.firstMet_eq_eraseDups _, ?_, ?_,
    hkeys, hpatched, hrequest⟩
  · exact hkeys ▸ nodup_keys_weights_final { request, journal } rfl
  · exact hkeys ▸ Search.closure_perm _

/-- Two fields over one table that sorts, by a term and not by a name. -/
def sharing : Registry :=
  [("field:total", .bare (.names ["table:items"])),
    ("field:price", .bare (.names ["table:items"])),
    ("table:items", .bare (.patch { sorting := .one (.term (.ofName "day")) }))]

def sums : Request where
  fields := some [.name "total", .name "price"]

theorem static_sharing : sharing.Static :=
  Registry.static_of_forall (by simp [sharing, Fragment.bare, Prerequisite.Static])

theorem walk_sharing : walk sharing sums =
    ⟨[⟨[], "field:total"⟩, ⟨["field:total"], "table:items"⟩,
      ⟨[], "field:price"⟩, ⟨["field:price"], "table:items"⟩], none⟩ := by
  cbv

/-- The table is visited twice, and sorts once. -/
theorem sharing_sorted_once : sharing.Static ∧ ∃ keys left,
    search sharing { request := sums } = (.ok keys, left) ∧
      left.patched = ["table:items"] ∧
      left.request.sorting = .many [.term (.ofName "day")] := by
  have hdone := search_of_done static_sharing { request := sums } (by rw [walk_sharing])
  refine ⟨static_sharing, _, _, hdone, ?_⟩
  obtain ⟨met, hmet, _, _, _, hpatched, hrequest⟩ := search_patches_once static_sharing hdone
  have hfirst : met = ["field:total", "table:items", "field:price"] := by
    rw [hmet, walk_sharing]
    decide
  rw [hpatched, hrequest, hfirst]
  exact ⟨by decide +kernel, rfl⟩

end Closure

end QueryWeave

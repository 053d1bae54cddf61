import QueryWeave.Proofs.Closure.Reach

/-!
The order of a closure.  A key weighs less than anything it depends on, since each visit to it leads
on to a deeper one, so what is required comes first; keys of one weight stay in order of first visit.
-/

namespace QueryWeave

universe u v

section Precedes

variable {α : Type u} {β : Type v}

/-- One item is somewhere before another. -/
def Precedes (items : List α) (first second : α) : Prop :=
  [first, second].Sublist items

namespace Precedes

variable {items more : List α} {first second : α}

theorem mono (h : Precedes items first second) (hsub : items.Sublist more) :
    Precedes more first second :=
  List.Sublist.trans h hsub

theorem map (f : α → β) (h : Precedes items first second) :
    Precedes (items.map f) (f first) (f second) :=
  List.Sublist.map f h

theorem filter (p : α → Bool) (h : Precedes items first second) (hfirst : p first = true)
    (hsecond : p second = true) : Precedes (items.filter p) first second := by
  have hsub := List.Sublist.filter p h
  rw [List.filter_cons_of_pos hfirst, List.filter_cons_of_pos hsecond, List.filter_nil] at hsub
  exact hsub

theorem of_mem (hfirst : first ∈ items) (hsecond : second ∈ items) (hne : first ≠ second) :
    Precedes items first second ∨ Precedes items second first := by
  induction items with
  | nil => cases hfirst
  | cons item rest ih =>
      rcases List.mem_cons.mp hfirst with rfl | hfirstRest
      · have hmem := (List.mem_cons.mp hsecond).resolve_left (Ne.symm hne)
        exact Or.inl ((List.singleton_sublist.mpr hmem).cons_cons _)
      · rcases List.mem_cons.mp hsecond with rfl | hsecondRest
        · exact Or.inr ((List.singleton_sublist.mpr hfirstRest).cons_cons _)
        · rcases ih hfirstRest hsecondRest with h | h
          · exact Or.inl (h.mono (List.sublist_cons_self _ _))
          · exact Or.inr (h.mono (List.sublist_cons_self _ _))

theorem split (h : Precedes items first second) :
    ∃ front middle back, items = front ++ first :: (middle ++ second :: back) := by
  obtain ⟨left, right, rfl, hfirst, hsecond⟩ := List.cons_sublist_iff.mp h
  obtain ⟨front, early, rfl⟩ := List.append_of_mem hfirst
  obtain ⟨late, back, rfl⟩ := List.append_of_mem (List.singleton_sublist.mp hsecond)
  exact ⟨front, early ++ late, back, by simp⟩

end Precedes

end Precedes

namespace Search

variable {search : Search} {first second : String}

theorem mem_weights (h : first ∈ Entries.keys search.weights) :
    (first, search.weight first) ∈ search.weights := by
  obtain ⟨held, hheld⟩ := Entries.exists_get?_of_mem_keys h
  rw [weight, hheld]
  exact Entries.mem_of_get? hheld

theorem precedes_weights (hnodup : (Entries.keys search.weights).Nodup)
    (h : Precedes (Entries.keys search.weights) first second) :
    Precedes search.weights (first, search.weight first) (second, search.weight second) := by
  obtain ⟨pairs, hsub, hmap⟩ := List.sublist_map_iff.mp h
  match pairs, hmap with
  | [(_, heavy), (_, light)], hmap =>
      cases hmap
      have hfirst := Entries.get?_of_mem hnodup (hsub.subset List.mem_cons_self)
      have hsecond := Entries.get?_of_mem hnodup
        (hsub.subset (List.mem_cons_of_mem _ List.mem_cons_self))
      rw [weight, weight, hfirst, hsecond]
      exact hsub

private theorem heavier_trans (a b c : String × Nat) (hab : decide (b.2 ≤ a.2) = true)
    (hbc : decide (c.2 ≤ b.2) = true) : decide (c.2 ≤ a.2) = true := by
  simp only [decide_eq_true_eq] at hab hbc ⊢
  exact Nat.le_trans hbc hab

private theorem heavier_total (a b : String × Nat) :
    (decide (b.2 ≤ a.2) || decide (a.2 ≤ b.2)) = true := by
  simp only [Bool.or_eq_true, decide_eq_true_eq]
  exact Nat.le_total _ _

/-- Of two keys with the same weight the one first visited comes first. -/
theorem closure_stable (hnodup : (Entries.keys search.weights).Nodup)
    (hweight : search.weight first = search.weight second)
    (h : Precedes (Entries.keys search.weights) first second) :
    Precedes search.closure first second := by
  have hpair := List.pair_sublist_mergeSort heavier_trans heavier_total
    (by simp [hweight]) (precedes_weights hnodup h)
  exact Precedes.map Prod.fst hpair

theorem closure_heavier (hfirst : first ∈ Entries.keys search.weights)
    (hsecond : second ∈ Entries.keys search.weights)
    (hweight : search.weight second < search.weight first) :
    Precedes search.closure first second := by
  have hne : (first, search.weight first) ≠ (second, search.weight second) := by
    intro heq
    cases heq
    exact Nat.lt_irrefl _ hweight
  have hsorted := List.pairwise_mergeSort heavier_trans heavier_total search.weights
  rcases Precedes.of_mem (List.mem_mergeSort.mpr (mem_weights hfirst))
      (List.mem_mergeSort.mpr (mem_weights hsecond)) hne with h | h
  · exact Precedes.map Prod.fst h
  · have hle := List.pairwise_pair.mp (List.Pairwise.sublist h hsorted)
    rw [decide_eq_true_eq] at hle
    exact absurd hle (Nat.not_le_of_lt hweight)

end Search

namespace Trail

variable {worth : List String → Nat} {visits : List Visit} {key : String}

/-- How often visits meet a key. -/
abbrev met : List Visit → String → Nat :=
  total fun _ => 1

theorem total_eq_zero (h : ∀ visit ∈ visits, visit.key ≠ key) : total worth visits key = 0 := by
  induction visits with
  | nil => rfl
  | cons visit rest ih =>
      rw [total_cons, if_neg (h visit List.mem_cons_self),
        ih fun other hother => h other (List.mem_cons_of_mem _ hother)]

theorem worth_le_total (worth : List String → Nat) {path : List String} (h : ⟨path, key⟩ ∈ visits) :
    worth path ≤ total worth visits key := by
  induction visits with
  | nil => cases h
  | cons visit rest ih =>
      rw [total_cons]
      rcases List.mem_cons.mp h with heq | hrest
      · cases heq
        rw [if_pos rfl]
        exact Nat.le_add_right _ _
      · exact Nat.le_trans (ih hrest) (Nat.le_add_left _ _)

end Trail

namespace Closure

variable {registry : Registry} {first second : String}

theorem prefix_of_mem_trail {path keys : List String} {visit : Visit}
    (h : visit ∈ (trail registry path keys).visits) : path <+: visit.path := by
  induction path, keys using trail.induct registry with
  | case1 path =>
      rw [trail_nil] at h
      cases h
  | case2 path key rest hcycle =>
      rw [trail_cons_of_mem hcycle] at h
      cases h
  | case3 path key rest hfresh hregistered ihinner ihrest =>
      rw [trail_cons_of_registered hfresh hregistered] at h
      rcases Trail.mem_visits_andThen h with hbelow | hrest
      · rcases Trail.mem_visits_andThen hbelow with hhere | hinner
        · cases List.mem_singleton.mp hhere
          exact List.prefix_refl _
        · exact (List.prefix_append _ _).trans (ihinner hinner)
      · exact ihrest hrest
  | case4 path key rest hfresh hnot hempty ih =>
      rw [trail_cons_of_unregistered hfresh hnot, if_pos hempty] at h
      exact ih h
  | case5 path key rest hfresh hnot hempty =>
      rw [trail_cons_of_unregistered hfresh hnot, if_neg hempty] at h
      cases h

/-- A key is not met again below a visit to it. -/
theorem ne_of_mem_trail {path keys : List String} {key : String}
    (hdone : (trail registry (path ++ [key]) keys).failure = none) {visit : Visit}
    (hvisit : visit ∈ (trail registry (path ++ [key]) keys).visits) : visit.key ≠ key := by
  intro heq
  have hpath : key ∈ visit.path := (prefix_of_mem_trail hvisit).subset (by simp)
  exact (trail_complete hdone).1.fresh visit hvisit (heq ▸ hpath)

theorem onward_of_requires {path : List String} {key next : String}
    (hdone : (trail registry (path ++ [key]) (registry.required key)).failure = none)
    (hrequires : registry.Requires key next) :
    ⟨path ++ [key], next⟩ ∈ (trail registry (path ++ [key]) (registry.required key)).visits := by
  obtain ⟨_, hregistered, hvisited⟩ :=
    (trail_complete hdone).2 next (Registry.mem_required.mpr hrequires)
  exact hvisited (hregistered (by simp))

/-- Every visit to a key leads to a visit, one step deeper, to each key that it requires. -/
theorem load_add_met_le {path keys : List String}
    (hdone : (trail registry path keys).failure = none)
    (hrequires : registry.Requires first second) :
    Trail.load (trail registry path keys).visits first +
        Trail.met (trail registry path keys).visits first ≤
      Trail.load (trail registry path keys).visits second := by
  induction path, keys using trail.induct registry with
  | case1 path =>
      rw [trail_nil]
      exact Nat.le_refl _
  | case2 path key rest hcycle =>
      rw [trail_cons_of_mem hcycle] at hdone
      cases hdone
  | case3 path key rest hfresh hregistered ihinner ihrest =>
      rw [trail_cons_of_registered hfresh hregistered] at hdone ⊢
      obtain ⟨hbelow, hrest⟩ := Trail.failure_andThen_eq_none hdone
      obtain ⟨_, hinner⟩ := Trail.failure_andThen_eq_none hbelow
      have hrestLoad := ihrest hrest
      have hinnerLoad := ihinner hinner
      rw [Trail.visits_andThen hbelow, Trail.visits_andThen rfl, List.append_assoc,
        List.singleton_append]
      simp only [Trail.load, Trail.met, Trail.total_cons, Trail.total_append]
        at hrestLoad hinnerLoad ⊢
      by_cases hkey : key = first
      · subst hkey
        -- Below a visit its key is not met again, but everything it requires is met one deeper.
        have hbeyond : ∀ visit ∈ (trail registry (path ++ [key]) (registry.required key)).visits,
            visit.key ≠ key := fun _ hvisit => ne_of_mem_trail hinner hvisit
        have hdeeper : (path ++ [key]).length ≤ Trail.total List.length
            (trail registry (path ++ [key]) (registry.required key)).visits second :=
          Trail.worth_le_total List.length (onward_of_requires hinner hrequires)
        rw [List.length_append, List.length_singleton] at hdeeper
        rw [if_pos rfl, if_pos rfl, Trail.total_eq_zero hbeyond, Trail.total_eq_zero hbeyond]
        omega
      · rw [if_neg hkey, if_neg hkey]
        omega
  | case4 path key rest hfresh hnot hempty ih =>
      rw [trail_cons_of_unregistered hfresh hnot, if_pos hempty] at hdone ⊢
      exact ih hdone
  | case5 path key rest hfresh hnot hempty =>
      rw [trail_cons_of_unregistered hfresh hnot, if_neg hempty] at hdone
      cases hdone

/-- What a visited key depends on is met at depths of a greater sum. -/
theorem load_lt_of_depends {request : Request} (hdone : (walk registry request).failure = none)
    {key other : String} (hvisited : key ∈ (walk registry request).visits.map Visit.key)
    (hdepends : registry.Depends key other) :
    Trail.load (walk registry request).visits key <
      Trail.load (walk registry request).visits other := by
  induction hdepends with
  | single hrequires =>
      obtain ⟨visit, hvisit, rfl⟩ := List.mem_map.mp hvisited
      have hmet : 1 ≤ Trail.met (walk registry request).visits visit.key :=
        Trail.worth_le_total (fun _ => 1) hvisit
      have hload := load_add_met_le hdone hrequires
      exact Nat.lt_of_lt_of_le (Nat.lt_add_of_pos_right hmet) hload
  | tail _ hrequires ih =>
      exact Nat.lt_of_lt_of_le ih
        (Nat.le_trans (Nat.le_add_right _ _) (load_add_met_le hdone hrequires))

theorem weight_final (start : Search) (hweights : start.weights = []) (key : String) :
    (final registry start).weight key = Trail.load (walk registry start.request).visits key := by
  rw [final, Search.weight_foldl_meet, Search.weight, hweights]
  exact Nat.zero_add _

theorem precedes_closure_of_depends (start : Search) (hweights : start.weights = [])
    (hdone : (walk registry start.request).failure = none) {key other : String}
    (hkey : key ∈ (final registry start).closure) (hdepends : registry.Depends key other) :
    Precedes (final registry start).closure other key := by
  have hvisited := (mem_closure_iff_visited start hweights).mp hkey
  have hneeded := (mem_visited_iff_needed hdone).mp hvisited
  obtain ⟨_, source, hsource, hregistered, hreaches⟩ := hneeded
  obtain ⟨path, hother⟩ := (walk_saturated hdone).exists_visit
    (walk_visits_requested hdone hsource hregistered)
    (hreaches.trans hdepends.to_reflTransGen)
  have hfirst : other ∈ (final registry start).closure :=
    (mem_closure_iff_visited start hweights).mpr (List.mem_map_of_mem hother)
  apply Search.closure_heavier
  · exact (Search.closure_perm _).mem_iff.mp hfirst
  · exact (Search.closure_perm _).mem_iff.mp hkey
  · rw [weight_final start hweights, weight_final start hweights]
    exact load_lt_of_depends hdone hvisited hdepends

end Closure

end QueryWeave

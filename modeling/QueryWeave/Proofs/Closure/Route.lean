import QueryWeave.Proofs.Closure.Trail
import Mathlib.Data.List.Chain
import Mathlib.Data.List.Nodup

namespace QueryWeave

/-- The key may come next on a path: one to start from, or one that the last key requires. -/
def Registry.Leads (registry : Registry) (starts path : List String) (key : String) : Prop :=
  match path.getLast? with
  | none => key ∈ starts
  | some last => registry.Requires last key

/-- A path of distinct registered keys from one to start from, each required by the one before. -/
inductive Registry.Route (registry : Registry) (starts : List String) : List String → Prop where
  | nil : Route registry starts []
  | concat {path : List String} {key : String} (route : Route registry starts path)
      (leads : registry.Leads starts path key) (registered : key ∈ Entries.keys registry)
      (fresh : key ∉ path) : Route registry starts (path ++ [key])

namespace Registry

variable {registry : Registry} {starts path : List String} {key other : String}

@[simp] theorem leads_nil : registry.Leads starts [] key ↔ key ∈ starts := Iff.rfl

@[simp] theorem leads_concat :
    registry.Leads starts (path ++ [other]) key ↔ registry.Requires other key := by
  rw [Leads, List.getLast?_concat]

namespace Route

theorem nodup (h : registry.Route starts path) : path.Nodup := by
  induction h with
  | nil => exact List.nodup_nil
  | concat _ _ _ fresh ih =>
      rw [List.nodup_append]
      refine ⟨ih, List.nodup_singleton _, ?_⟩
      intro first hfirst last hlast heq
      rw [List.mem_singleton.mp hlast] at heq
      exact fresh (heq ▸ hfirst)

theorem registered_of_mem (h : registry.Route starts path) (hmem : key ∈ path) :
    key ∈ Entries.keys registry := by
  induction h with
  | nil => simp at hmem
  | concat _ _ registered _ ih =>
      rcases List.mem_append.mp hmem with hold | hnew
      · exact ih hold
      · exact List.mem_singleton.mp hnew ▸ registered

theorem isChain_concat (hchain : path.IsChain registry.Requires)
    (hleads : registry.Leads starts path key) :
    (path ++ [key]).IsChain registry.Requires := by
  rw [List.isChain_append]
  refine ⟨hchain, List.isChain_singleton key, ?_⟩
  intro last hlast next hnext
  rw [List.head?_cons, Option.mem_some_iff] at hnext
  rw [Leads, Option.mem_def.mp hlast] at hleads
  exact hnext ▸ hleads

theorem isChain (h : registry.Route starts path) : path.IsChain registry.Requires := by
  induction h with
  | nil => exact List.isChain_nil
  | concat _ leads _ _ ih => exact isChain_concat ih leads

theorem head_mem_starts (h : registry.Route starts path)
    (hleads : registry.Leads starts path key) :
    ∃ start ∈ starts, (path ++ [key]).head? = some start := by
  induction h generalizing key with
  | nil => exact ⟨key, hleads, rfl⟩
  | concat _ leads _ _ ih =>
      obtain ⟨start, hstart, hhead⟩ := ih leads
      refine ⟨start, hstart, ?_⟩
      rw [List.head?_append, hhead, Option.some_or]

end Route

end Registry

/-- A visit where a route ends. -/
def Visit.Routed (registry : Registry) (starts : List String) (visit : Visit) : Prop :=
  registry.Route starts (visit.path ++ [visit.key])

/-- A failure where a route cannot go on: at a key that is on it, or at one without a fragment. -/
inductive Failure.Routed (registry : Registry) (starts : List String) : Failure → Prop where
  | cycle {path : List String} {key : String} (route : registry.Route starts path)
      (leads : registry.Leads starts path key) (repeated : key ∈ path) :
      Routed registry starts (.cycle (path ++ [key]))
  | missing {path : List String} {key : String} (route : registry.Route starts path)
      (leads : registry.Leads starts path key) (unregistered : key ∉ Entries.keys registry)
      (below : path ≠ []) : Routed registry starts (.prerequisiteNotFound key path)

/-- A trail with nothing in it that is not routed. -/
structure Trail.Sound (registry : Registry) (starts : List String) (trail : Trail) : Prop where
  visits : ∀ visit ∈ trail.visits, visit.Routed registry starts
  failure : ∀ failure, trail.failure = some failure → failure.Routed registry starts

/-- A trail that has gone on from each of its visits. -/
structure Trail.Saturated (registry : Registry) (trail : Trail) : Prop where
  fresh : ∀ visit ∈ trail.visits, visit.key ∉ visit.path
  registered : ∀ visit ∈ trail.visits, visit.key ∈ Entries.keys registry
  onward : ∀ visit ∈ trail.visits, ∀ next, registry.Requires visit.key next →
    ⟨visit.path ++ [visit.key], next⟩ ∈ trail.visits

namespace Trail

variable {registry : Registry} {starts : List String} {first second : Trail}

theorem Sound.andThen (hfirst : first.Sound registry starts) (hsecond : second.Sound registry starts) :
    (first.andThen second).Sound registry starts where
  visits visit hmem := by
    rcases mem_visits_andThen hmem with h | h
    · exact hfirst.visits visit h
    · exact hsecond.visits visit h
  failure failure hfailure := by
    rcases failure_andThen hfailure with h | h
    · exact hfirst.failure failure h
    · exact hsecond.failure failure h

theorem Sound.single {path : List String} {key : String}
    (h : registry.Route starts (path ++ [key])) :
    (Trail.mk [⟨path, key⟩] none).Sound registry starts where
  visits visit hmem := by
    rw [List.mem_singleton.mp hmem]
    exact h
  failure failure hfailure := by simp at hfailure

theorem Sound.broken {failure : Failure} (h : failure.Routed registry starts) :
    (Trail.mk [] (some failure)).Sound registry starts where
  visits visit hmem := by simp at hmem
  failure other hother := by
    cases hother
    exact h

theorem Saturated.andThen (hdone : first.failure = none) (hfirst : first.Saturated registry)
    (hsecond : second.Saturated registry) : (first.andThen second).Saturated registry := by
  constructor <;> rw [visits_andThen hdone] <;> intro visit hmem
  · rcases List.mem_append.mp hmem with h | h
    · exact hfirst.fresh visit h
    · exact hsecond.fresh visit h
  · rcases List.mem_append.mp hmem with h | h
    · exact hfirst.registered visit h
    · exact hsecond.registered visit h
  · intro next hnext
    rcases List.mem_append.mp hmem with h | h
    · exact List.mem_append_left _ (hfirst.onward visit h next hnext)
    · exact List.mem_append_right _ (hsecond.onward visit h next hnext)

/-- A visit saturates when the trail after it goes on from it. -/
theorem Saturated.afterVisit {path : List String} {key : String} (hfresh : key ∉ path)
    (hregistered : key ∈ Entries.keys registry) (hsecond : second.Saturated registry)
    (honward : ∀ next, registry.Requires key next → ⟨path ++ [key], next⟩ ∈ second.visits) :
    ((Trail.mk [⟨path, key⟩] none).andThen second).Saturated registry := by
  constructor <;> rw [visits_andThen rfl] <;> intro visit hmem
  · rcases List.mem_cons.mp hmem with rfl | h
    · exact hfresh
    · exact hsecond.fresh visit h
  · rcases List.mem_cons.mp hmem with rfl | h
    · exact hregistered
    · exact hsecond.registered visit h
  · intro next hnext
    rcases List.mem_cons.mp hmem with rfl | h
    · exact List.mem_cons_of_mem _ (honward next hnext)
    · exact List.mem_cons_of_mem _ (hsecond.onward visit h next hnext)

/-- What a visited key depends on is visited too, on a path beyond it. -/
theorem Saturated.exists_beyond {trail : Trail} (h : trail.Saturated registry) {visit : Visit}
    (hmem : visit ∈ trail.visits) {reached : String}
    (hdepends : registry.Depends visit.key reached) :
    ∃ path, ⟨path, reached⟩ ∈ trail.visits ∧ visit.path ++ [visit.key] <+: path := by
  induction hdepends with
  | single hrequires => exact ⟨_, h.onward visit hmem _ hrequires, List.prefix_refl _⟩
  | tail _ hrequires ih =>
      obtain ⟨path, hvisited, hbeyond⟩ := ih
      exact ⟨_, h.onward _ hvisited _ hrequires, hbeyond.trans (List.prefix_append _ _)⟩

theorem Saturated.exists_visit {trail : Trail} (h : trail.Saturated registry) {visit : Visit}
    (hmem : visit ∈ trail.visits) {reached : String}
    (hreaches : registry.Reaches visit.key reached) :
    ∃ path, ⟨path, reached⟩ ∈ trail.visits := by
  rcases Relation.reflTransGen_iff_eq_or_transGen.mp hreaches with rfl | hdepends
  · exact ⟨visit.path, hmem⟩
  · obtain ⟨path, hvisited, _⟩ := h.exists_beyond hmem hdepends
    exact ⟨path, hvisited⟩

/-- A visited key is on no cycle: going round would meet it on its own path. -/
theorem Saturated.not_depends_self {trail : Trail} (h : trail.Saturated registry) {visit : Visit}
    (hmem : visit ∈ trail.visits) : ¬ registry.Depends visit.key visit.key := by
  intro hcycle
  obtain ⟨path, hvisited, hbeyond⟩ := h.exists_beyond hmem hcycle
  exact h.fresh _ hvisited (hbeyond.subset (by simp))

theorem Saturated.not_doomed {trail : Trail} (h : trail.Saturated registry) {visit : Visit}
    (hmem : visit ∈ trail.visits) : ¬ registry.Doomed visit.key := by
  rintro ⟨reached, hreaches, hcycle | ⟨name, hnames, hmissing⟩⟩
  · obtain ⟨path, hvisited⟩ := h.exists_visit hmem hreaches
    exact h.not_depends_self hvisited hcycle
  · obtain ⟨path, hvisited⟩ := h.exists_visit hmem hreaches
    exact hmissing (h.registered _ (h.onward _ hvisited _ hnames.requires))

end Trail

namespace Closure

variable {registry : Registry} {starts : List String}

theorem trail_sound {path keys : List String} (hroute : registry.Route starts path)
    (hleads : ∀ key ∈ keys, registry.Leads starts path key) :
    (trail registry path keys).Sound registry starts := by
  induction path, keys using trail.induct registry with
  | case1 path =>
      rw [trail_nil]
      exact ⟨by simp, by simp⟩
  | case2 path key rest hcycle =>
      rw [trail_cons_of_mem hcycle]
      exact .broken (.cycle hroute (hleads key List.mem_cons_self) hcycle)
  | case3 path key rest hfresh hregistered ihinner ihrest =>
      have hthere := hroute.concat (hleads key List.mem_cons_self) hregistered hfresh
      have hinner : ∀ next ∈ registry.required key, registry.Leads starts (path ++ [key]) next := by
        intro next hnext
        rw [Registry.leads_concat]
        exact Registry.mem_required.mp hnext
      have hrest : ∀ next ∈ rest, registry.Leads starts path next :=
        fun next hnext => hleads next (List.mem_cons_of_mem _ hnext)
      rw [trail_cons_of_registered hfresh hregistered]
      exact ((Trail.Sound.single hthere).andThen (ihinner hthere hinner)).andThen
        (ihrest hroute hrest)
  | case4 path key rest hfresh hnot hempty ih =>
      rw [trail_cons_of_unregistered hfresh hnot, if_pos hempty]
      exact ih hroute fun next hnext => hleads next (List.mem_cons_of_mem _ hnext)
  | case5 path key rest hfresh hnot hempty =>
      rw [trail_cons_of_unregistered hfresh hnot, if_neg hempty]
      refine .broken (.missing hroute (hleads key List.mem_cons_self) hnot ?_)
      exact fun hnil => hempty (List.isEmpty_iff.mpr hnil)

/-- A trail that does not break off makes a visit for each registered key it is given, and goes on
from each of its visits. -/
theorem trail_complete {path keys : List String}
    (hdone : (trail registry path keys).failure = none) :
    (trail registry path keys).Saturated registry ∧
      ∀ key ∈ keys, key ∉ path ∧ (path ≠ [] → key ∈ Entries.keys registry) ∧
        (key ∈ Entries.keys registry → ⟨path, key⟩ ∈ (trail registry path keys).visits) := by
  induction path, keys using trail.induct registry with
  | case1 path =>
      rw [trail_nil]
      exact ⟨⟨by simp, by simp, by simp⟩, by simp⟩
  | case2 path key rest hcycle =>
      rw [trail_cons_of_mem hcycle] at hdone
      simp at hdone
  | case3 path key rest hfresh hregistered ihinner ihrest =>
      rw [trail_cons_of_registered hfresh hregistered] at hdone ⊢
      obtain ⟨hbelow, hrest⟩ := Trail.failure_andThen_eq_none hdone
      obtain ⟨_, hinner⟩ := Trail.failure_andThen_eq_none hbelow
      obtain ⟨hinnerSaturated, hinnerGiven⟩ := ihinner hinner
      obtain ⟨hrestSaturated, hrestGiven⟩ := ihrest hrest
      have honward : ∀ next, registry.Requires key next →
          ⟨path ++ [key], next⟩ ∈
            (trail registry (path ++ [key]) (registry.required key)).visits := by
        intro next hnext
        obtain ⟨_, hregisteredNext, hvisited⟩ :=
          hinnerGiven next (Registry.mem_required.mpr hnext)
        exact hvisited (hregisteredNext (by simp))
      refine ⟨(hinnerSaturated.afterVisit hfresh hregistered honward).andThen hbelow
        hrestSaturated, ?_⟩
      rw [Trail.visits_andThen hbelow, Trail.visits_andThen rfl]
      intro other hother
      rcases List.mem_cons.mp hother with rfl | hmem
      · exact ⟨hfresh, fun _ => hregistered, fun _ => by simp⟩
      · obtain ⟨hotherFresh, hotherRegistered, hotherVisited⟩ := hrestGiven other hmem
        exact ⟨hotherFresh, hotherRegistered,
          fun h => List.mem_append_right _ (hotherVisited h)⟩
  | case4 path key rest hfresh hnot hempty ih =>
      rw [trail_cons_of_unregistered hfresh hnot, if_pos hempty] at hdone ⊢
      obtain ⟨hsaturated, hgiven⟩ := ih hdone
      refine ⟨hsaturated, ?_⟩
      intro other hother
      rcases List.mem_cons.mp hother with rfl | hrest
      · refine ⟨hfresh, fun hbelow => absurd (List.isEmpty_iff.mp hempty) hbelow, ?_⟩
        exact fun hregistered => absurd hregistered hnot
      · exact hgiven other hrest
  | case5 path key rest hfresh hnot hempty =>
      rw [trail_cons_of_unregistered hfresh hnot, if_neg hempty] at hdone
      simp at hdone

end Closure

end QueryWeave

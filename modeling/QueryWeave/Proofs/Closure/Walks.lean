import Mathlib.Algebra.BigOperators.Group.Finset.Basic
import QueryWeave.Proofs.Closure.Shuffled

/-!
The weight of a key as a sum over walks.  Main statement: `Closure.weights_sum_walks`, a key of the
closure weighs what all walks from requested keys to it are long together, and only the order of
first visits depends on the order in which entries are listed.
-/

namespace QueryWeave

/-- The key to which turns lead from a key. -/
def Registry.along (registry : Registry) (key : String) : List Nat → Option String
  | [] => some key
  | turn :: rest => do
      let next ← (registry.required key)[turn]?
      registry.along next rest

namespace Closure

/-- A walk along requirements: the place where it starts among the requested keys, and at each key
that it comes to the place of the next among those that the key requires. -/
structure Walk where
  start : Nat
  turns : List Nat
  deriving DecidableEq

namespace Walk

def length (walk : Walk) : Nat := walk.turns.length

/-- The walk starts at a registered key among the requested ones and leads to a key. -/
def LeadsTo (registry : Registry) (requested : List String) (walk : Walk) (key : String) : Prop :=
  ∃ start, requested[walk.start]? = some start ∧ start ∈ Entries.keys registry ∧
    registry.along start walk.turns = some key

/-- The walk from the first requested key that goes on as one from what that key requires. -/
def below (walk : Walk) : Walk := ⟨0, walk.start :: walk.turns⟩

/-- The walk where one more key is requested before the others. -/
def beside (walk : Walk) : Walk := ⟨walk.start + 1, walk.turns⟩

variable {registry : Registry} {requested : List String} {walk : Walk} {key goal : String}

theorem length_below : walk.below.length = walk.length + 1 := rfl

theorem length_beside : walk.beside.length = walk.length := rfl

theorem below_injective : Function.Injective below := by
  rintro ⟨start, turns⟩ ⟨other, others⟩ h
  cases h
  rfl

theorem beside_injective : Function.Injective beside := by
  rintro ⟨start, turns⟩ ⟨other, others⟩ h
  cases h
  rfl

theorem not_leadsTo_nil : ¬ walk.LeadsTo registry [] goal := by
  rintro ⟨start, hstart, _⟩
  cases hstart

theorem leadsTo_beside :
    walk.beside.LeadsTo registry (key :: requested) goal ↔ walk.LeadsTo registry requested goal :=
  Iff.rfl

/-- A walk from a list of keys starts at its first key and ends there, goes on from there, or starts
at another key. -/
theorem leadsTo_cons (hkey : key ∈ Entries.keys registry)
    (hrequired : ∀ next ∈ registry.required key, next ∈ Entries.keys registry) :
    walk.LeadsTo registry (key :: requested) goal ↔
      (key = goal ∧ walk = ⟨0, []⟩) ∨
      (∃ inner : Walk, inner.LeadsTo registry (registry.required key) goal ∧ inner.below = walk) ∨
      ∃ later : Walk, later.LeadsTo registry requested goal ∧ later.beside = walk := by
  constructor
  · obtain ⟨start, turns⟩ := walk
    rintro ⟨first, hfirst, hregistered, hleads⟩
    cases start with
    | succ start => exact .inr (.inr ⟨⟨start, turns⟩, ⟨first, hfirst, hregistered, hleads⟩, rfl⟩)
    | zero =>
        cases hfirst
        cases turns with
        | nil => exact .inl ⟨Option.some.inj hleads, rfl⟩
        | cons turn rest =>
            obtain ⟨next, hnext, hrest⟩ := Option.bind_eq_some_iff.mp hleads
            have hmem := hrequired next (List.mem_of_getElem? hnext)
            exact .inr (.inl ⟨⟨turn, rest⟩, ⟨next, hnext, hmem, hrest⟩, rfl⟩)
  · rintro (⟨rfl, rfl⟩ | ⟨inner, ⟨next, hnext, -, hleads⟩, rfl⟩ | ⟨later, hleads, rfl⟩)
    · exact ⟨key, rfl, hkey, rfl⟩
    · exact ⟨key, rfl, hkey, Option.bind_eq_some_iff.mpr ⟨next, hnext, hleads⟩⟩
    · exact leadsTo_beside.mpr hleads

theorem leadsTo_cons_of_unregistered (hkey : key ∉ Entries.keys registry) :
    walk.LeadsTo registry (key :: requested) goal ↔
      ∃ later : Walk, later.LeadsTo registry requested goal ∧ later.beside = walk := by
  constructor
  · obtain ⟨start, turns⟩ := walk
    rintro ⟨first, hfirst, hregistered, hleads⟩
    cases start with
    | succ start => exact ⟨⟨start, turns⟩, ⟨first, hfirst, hregistered, hleads⟩, rfl⟩
    | zero =>
        cases hfirst
        exact absurd hregistered hkey
  · rintro ⟨later, hleads, rfl⟩
    exact leadsTo_beside.mpr hleads

/-- The walks from a list of keys: those that end where they start at its first key, those that go on
from there, and those that start at another key. -/
def gather (here inners laters : Finset Walk) : Finset Walk :=
  here ∪ (inners.image below ∪ laters.image beside)

theorem mem_gather {here inners laters : Finset Walk} :
    walk ∈ gather here inners laters ↔
      walk ∈ here ∨ (∃ inner ∈ inners, inner.below = walk) ∨ ∃ later ∈ laters, later.beside = walk := by
  rw [gather, Finset.mem_union, Finset.mem_union, Finset.mem_image, Finset.mem_image]

theorem sum_gather {here : Finset Walk} (hhere : ∀ walk ∈ here, walk = ⟨0, []⟩)
    (inners laters : Finset Walk) (depth : Nat) :
    ∑ walk ∈ gather here inners laters, (depth + walk.length) =
      ∑ walk ∈ here, (depth + walk.length) +
        (∑ walk ∈ inners, (depth + 1 + walk.length) + ∑ walk ∈ laters, (depth + walk.length)) := by
  have hbelow : Disjoint (inners.image below) (laters.image beside) := by
    rw [Finset.disjoint_left]
    intro walk hinner hlater
    obtain ⟨inner, _, rfl⟩ := Finset.mem_image.mp hinner
    obtain ⟨later, _, hsame⟩ := Finset.mem_image.mp hlater
    cases hsame
  have hfirst : Disjoint here (inners.image below ∪ laters.image beside) := by
    rw [Finset.disjoint_left]
    intro walk hmem hothers
    obtain rfl := hhere walk hmem
    rcases Finset.mem_union.mp hothers with h | h
    · obtain ⟨inner, _, hsame⟩ := Finset.mem_image.mp h
      cases hsame
    · obtain ⟨later, _, hsame⟩ := Finset.mem_image.mp h
      cases hsame
  rw [gather, Finset.sum_union hfirst, Finset.sum_union hbelow,
    Finset.sum_image below_injective.injOn, Finset.sum_image beside_injective.injOn]
  simp only [length_below, length_beside, Nat.add_assoc, Nat.add_comm 1]

end Walk

variable {registry : Registry} {goal : String}

/-- The visits of a trail to a key, one for each walk to it, each as deep as its path and the walk are
long. -/
theorem exists_walks {path keys : List String} (hdone : (trail registry path keys).failure = none) :
    ∃ walks : Finset Walk, (∀ walk, walk ∈ walks ↔ walk.LeadsTo registry keys goal) ∧
      Trail.load (trail registry path keys).visits goal =
        ∑ walk ∈ walks, (path.length + walk.length) := by
  induction path, keys using trail.induct registry with
  | case1 path =>
      refine ⟨∅, ?_, ?_⟩
      · intro walk
        simp [Walk.not_leadsTo_nil]
      · rw [trail_nil]
        rfl
  | case2 path key rest hcycle =>
      rw [trail_cons_of_mem hcycle] at hdone
      cases hdone
  | case3 path key rest hfresh hregistered ihinner ihrest =>
      rw [trail_cons_of_registered hfresh hregistered] at hdone ⊢
      obtain ⟨hbelow, hrest⟩ := Trail.failure_andThen_eq_none hdone
      obtain ⟨_, hinner⟩ := Trail.failure_andThen_eq_none hbelow
      obtain ⟨inners, hinners, hinnerLoad⟩ := ihinner hinner
      obtain ⟨laters, hlaters, hrestLoad⟩ := ihrest hrest
      have hrequired : ∀ next ∈ registry.required key, next ∈ Entries.keys registry :=
        fun next hnext => ((trail_complete hinner).2 next hnext).2.1 (by simp)
      refine ⟨Walk.gather (if key = goal then {⟨0, []⟩} else ∅) inners laters, ?_, ?_⟩
      · intro walk
        rw [Walk.mem_gather, Walk.leadsTo_cons hregistered hrequired]
        simp only [hinners, hlaters]
        split
        next hgoal => simp [hgoal]
        next hother => simp [hother]
      · rw [Trail.visits_andThen hbelow, Trail.visits_andThen rfl, List.append_assoc,
          List.singleton_append, Trail.load, Trail.total_cons, Trail.total_append, ← Trail.load,
          hinnerLoad, hrestLoad, Walk.sum_gather, List.length_append, List.length_singleton]
        · split
          next => rfl
          next => rfl
        · intro walk hwalk
          split at hwalk
          · exact Finset.mem_singleton.mp hwalk
          · cases hwalk
  | case4 path key rest hfresh hnot hempty ih =>
      rw [trail_cons_of_unregistered hfresh hnot, if_pos hempty] at hdone ⊢
      obtain ⟨laters, hlaters, hload⟩ := ih hdone
      refine ⟨laters.image Walk.beside, ?_, ?_⟩
      · intro walk
        rw [Finset.mem_image, Walk.leadsTo_cons_of_unregistered hnot]
        simp only [hlaters]
      · rw [hload, Finset.sum_image Walk.beside_injective.injOn]
        rfl
  | case5 path key rest hfresh hnot hempty =>
      rw [trail_cons_of_unregistered hfresh hnot, if_neg hempty] at hdone
      cases hdone

theorem mem_visited_iff_met {visits : List Visit} {key : String} :
    key ∈ visits.map Visit.key ↔ 1 ≤ Trail.met visits key := by
  constructor
  · intro hmem
    obtain ⟨visit, hvisit, rfl⟩ := List.mem_map.mp hmem
    exact Trail.worth_le_total (fun _ => 1) hvisit
  · intro hmet
    by_contra hnot
    have hnone : Trail.met visits key = 0 :=
      Trail.total_eq_zero fun visit hvisit heq => hnot (List.mem_map.mpr ⟨visit, hvisit, heq⟩)
    omega

theorem get?_weights_final (start : Search) (hweights : start.weights = []) (key : String) :
    Entries.get? (final registry start).weights key =
      if 1 ≤ Trail.met (walk registry start.request).visits key then
        some (Trail.load (walk registry start.request).visits key)
      else none := by
  rw [← weight_final start hweights]
  have hkeys : key ∈ (final registry start).closure ↔ _ := mem_closure_iff_visited start hweights
  rw [(Search.closure_perm _).mem_iff, mem_visited_iff_met] at hkeys
  split
  next hmet =>
    obtain ⟨weight, hweight⟩ := Entries.exists_get?_of_mem_keys (hkeys.mpr hmet)
    rw [Search.weight, hweight]
    rfl
  next hunmet => exact Entries.get?_eq_none_iff.mpr fun hmem => hunmet (hkeys.mp hmem)

/-- A search that ends well ends well from a shuffled request over a shuffled registry too, with the
same weights. -/
theorem search_shuffled {other : Registry} (hstatic : other.Static)
    (hshuffled : registry.Shuffles other) {start again : Search}
    (hrequest : start.request.Shuffles again.request) (hweights : start.weights = [])
    (hagain : again.weights = []) (hdone : (walk registry start.request).failure = none) :
    search other again = (.ok (final other again).closure, final other again) ∧
      (final other again).closure.Perm (final registry start).closure ∧
      ∀ key, Entries.get? (final other again).weights key =
        Entries.get? (final registry start).weights key := by
  have hmatches : (walk registry start.request).Matches (walk other again.request) :=
    trail_shuffled hshuffled hrequest.keys hdone
  have hsame (key : String) : Entries.get? (final other again).weights key =
      Entries.get? (final registry start).weights key := by
    have hmet : Trail.met (walk registry start.request).visits key =
        Trail.met (walk other again.request).visits key := hmatches.total _ key
    have hload : Trail.load (walk registry start.request).visits key =
        Trail.load (walk other again.request).visits key := hmatches.total _ key
    rw [get?_weights_final start hweights, get?_weights_final again hagain, hmet, hload]
  refine ⟨search_of_done hstatic again hmatches.second_done, ?_, hsame⟩
  rw [List.perm_ext_iff_of_nodup (closure_nodup again hagain) (closure_nodup start hweights)]
  intro key
  rw [(Search.closure_perm _).mem_iff, (Search.closure_perm _).mem_iff, ← not_iff_not,
    ← Entries.get?_eq_none_iff, ← Entries.get?_eq_none_iff, hsame]

/-- A search that ends well weighs the keys of its closure, each by the length of all walks to it from
requested keys together.  Neither the weights nor the keys depend on the order of entries. -/
theorem weights_sum_walks (hstatic : registry.Static) {request : Request} {journal : Journal}
    {keys : List String} {left : Search}
    (hdone : search registry { request, journal } = (.ok keys, left)) :
    keys.Perm (Entries.keys left.weights) ∧
    (∀ key ∈ keys, ∃ walks : Finset Walk,
      (∀ walk, walk ∈ walks ↔ walk.LeadsTo registry request.keys key) ∧
      Entries.get? left.weights key = some (∑ walk ∈ walks, walk.length)) ∧
    ∀ (other : Registry) (again : Request) (noted : Journal),
      other.Static → registry.Shuffles other → request.Shuffles again →
      ∃ found result, search other { request := again, journal := noted } = (.ok found, result) ∧
        found.Perm keys ∧
        ∀ key, Entries.get? result.weights key = Entries.get? left.weights key := by
  obtain ⟨hwalk, rfl, rfl⟩ := search_eq_ok_inv hstatic hdone
  refine ⟨Search.closure_perm _, ?_, ?_⟩
  · intro key hkey
    obtain ⟨walks, hwalks, hload⟩ := @exists_walks registry key [] request.keys hwalk
    refine ⟨walks, hwalks, ?_⟩
    have hvisited := (mem_closure_iff_visited { request, journal } rfl).mp hkey
    rw [get?_weights_final { request, journal } rfl, if_pos (mem_visited_iff_met.mp hvisited), walk,
      hload]
    simp only [List.length_nil, Nat.zero_add]
  · intro other again noted hother hshuffled hrequest
    have hagain := @search_shuffled registry other hother hshuffled { request, journal }
      { request := again, journal := noted } hrequest rfl rfl hwalk
    exact ⟨_, _, hagain⟩

/-- A field over the tables listed, where the items patch in the orders. -/
def crossing (listed : List String) : Registry :=
  [("field:total", .bare (.names listed)),
    ("table:items", .bare (.patch { tables := some ["plain", "orders"] })),
    ("table:orders", .bare .none)]

def crossed : Request where
  fields := some [.name "total"]
  tables := some ["orders"]

theorem static_crossing (listed : List String) : (crossing listed).Static :=
  Registry.static_of_forall (by simp [crossing, Fragment.bare, Prerequisite.Static])

theorem shuffles_crossing {listed others : List String} (h : listed.Perm others) :
    (crossing listed).Shuffles (crossing others) where
  keys _ := Iff.rfl
  requirements key := by
    by_cases htotal : "field:total" = key
    · subst htotal
      exact .names h
    · by_cases hitems : "table:items" = key
      · subst hitems
        exact .patch ⟨.refl _, .refl _, .refl _, .refl _, .refl _⟩
      · have hnone (listed : List String) : (crossing listed).requirementOf key = .none := by
          by_cases horders : "table:orders" = key
          · subst horders
            rfl
          · simp [crossing, Registry.requirementOf, Entries.get?, htotal, hitems, horders]
        rw [hnone, hnone]
        exact .none

theorem walk_crossed : walk (crossing ["table:items", "table:orders", "table:items"]) crossed =
    ⟨[⟨[], "field:total"⟩,
      ⟨["field:total"], "table:items"⟩, ⟨["field:total", "table:items"], "table:orders"⟩,
      ⟨["field:total"], "table:orders"⟩,
      ⟨["field:total"], "table:items"⟩, ⟨["field:total", "table:items"], "table:orders"⟩,
      ⟨[], "table:orders"⟩], none⟩ := by
  cbv

/-- Four walks lead to the orders, two of them over the items, and do so in any order of the tables. -/
theorem crossed_orders_weigh :
    (crossing ["table:items", "table:orders", "table:items"]).Static ∧ ∃ keys left,
      search (crossing ["table:items", "table:orders", "table:items"]) { request := crossed } =
        (.ok keys, left) ∧ "table:orders" ∈ keys ∧
      (∃ walks : Finset Walk, walks.sum Walk.length = 5 ∧
        ∀ walk ∈ [Walk.mk 0 [0, 0], ⟨0, [1]⟩, ⟨0, [2, 0]⟩, ⟨1, []⟩], walk ∈ walks) ∧
      ∃ found result,
        search (crossing ["table:orders", "table:items", "table:items"]) { request := crossed } =
          (.ok found, result) ∧
        found.Perm keys ∧ Entries.get? result.weights "table:orders" = some 5 := by
  have hstatic := static_crossing ["table:items", "table:orders", "table:items"]
  have hdone := search_of_done hstatic { request := crossed } (by rw [walk_crossed])
  have hweights : (final (crossing ["table:items", "table:orders", "table:items"])
      { request := crossed }).weights =
        [("field:total", 0), ("table:items", 2), ("table:orders", 5)] := by
    rw [final, walk_crossed]
    decide +kernel
  have hweight : Entries.get? (final (crossing ["table:items", "table:orders", "table:items"])
      { request := crossed }).weights "table:orders" = some 5 := by
    rw [hweights]
    rfl
  obtain ⟨hperm, hwalks, hshuffled⟩ := weights_sum_walks hstatic hdone
  have horders := hperm.mem_iff.mpr (Entries.mem_keys_of_get? hweight)
  refine ⟨hstatic, _, _, hdone, horders, ?_, ?_⟩
  · obtain ⟨walks, hmem, hsum⟩ := hwalks "table:orders" horders
    refine ⟨walks, Option.some.inj (hsum.symm.trans hweight), ?_⟩
    intro walk hwalk
    rw [hmem]
    simp only [List.mem_cons, List.not_mem_nil, or_false] at hwalk
    rcases hwalk with rfl | rfl | rfl | rfl
    · exact ⟨"field:total", rfl, by decide, rfl⟩
    · exact ⟨"field:total", rfl, by decide, rfl⟩
    · exact ⟨"field:total", rfl, by decide, rfl⟩
    · exact ⟨"table:orders", rfl, by decide, rfl⟩
  · obtain ⟨found, result, hagain, hperm, hsame⟩ := hshuffled
      (crossing ["table:orders", "table:items", "table:items"]) crossed [] (static_crossing _)
      (shuffles_crossing (.swap _ _ _)) ⟨.refl _, .refl _, .refl _, .refl _, .refl _⟩
    exact ⟨found, result, hagain, hperm, (hsame _).trans hweight⟩

end Closure

end QueryWeave

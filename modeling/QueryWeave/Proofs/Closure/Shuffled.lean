import QueryWeave.Proofs.Closure.Order

namespace QueryWeave

/-- Two requests list the same entries, in any order. -/
structure Request.Shuffles (request other : Request) : Prop where
  fields : request.fieldList.Perm other.fieldList
  tables : request.tableList.Perm other.tableList
  filters : request.filters.Perm other.filters
  grouping : request.groupList.Perm other.groupList
  sorting : request.sortList.Perm other.sortList

inductive Requirement.Shuffles : Requirement → Requirement → Prop where
  | none : Shuffles .none .none
  | names {listed others : List String} (names : listed.Perm others) :
      Shuffles (.names listed) (.names others)
  | patch {change other : Request} (entries : change.Shuffles other) :
      Shuffles (.patch change) (.patch other)

/-- Two registries of the same keys, where each key requires the same, listed in any order. -/
structure Registry.Shuffles (registry other : Registry) : Prop where
  keys : ∀ key, key ∈ Entries.keys registry ↔ key ∈ Entries.keys other
  requirements : ∀ key, (registry.requirementOf key).Shuffles (other.requirementOf key)

theorem Request.Shuffles.keys {request other : Request} (h : request.Shuffles other) :
    request.keys.Perm other.keys :=
  ((((((h.fields.filterMap _).map _).append (h.tables.map _)).append (h.filters.map _)).append
    ((h.grouping.filterMap _).map _)).append ((h.sorting.filterMap _).map _))

variable {registry other : Registry}

theorem Registry.Shuffles.required (h : registry.Shuffles other) (key : String) :
    (registry.required key).Perm (other.required key) := by
  have hhas : Entries.has registry = Entries.has other := by
    funext key
    rw [Bool.eq_iff_iff, Entries.has_iff, Entries.has_iff]
    exact h.keys key
  have hasked {first second : Requirement} (hsame : first.Shuffles second) :
      (first.asked registry).Perm (second.asked other) := by
    cases hsame with
    | none => exact .refl _
    | names hnames => exact hnames
    | patch hentries =>
        rw [Requirement.asked, Requirement.asked, hhas]
        exact hentries.keys.filter _
  exact hasked (h.requirements key)

namespace Trail

variable {first second : Trail}

theorem failure_andThen_of_done (hfirst : first.failure = none) :
    (first.andThen second).failure = second.failure := by
  rw [andThen, hfirst]

theorem andThen_done (first : Trail) : first.andThen ⟨[], none⟩ = first := by
  obtain ⟨visits, failure⟩ := first
  cases failure with
  | none => exact congrArg (Trail.mk · none) (List.append_nil visits)
  | some failure => rfl

/-- Two trails that do not break off and meet each key as often and as deep. -/
structure Matches (first second : Trail) : Prop where
  first_done : first.failure = none
  second_done : second.failure = none
  total (worth : List String → Nat) (key : String) :
    total worth first.visits key = total worth second.visits key

namespace Matches

variable {third fourth : Trail}

theorem refl (hdone : first.failure = none) : first.Matches first :=
  ⟨hdone, hdone, fun _ _ => rfl⟩

theorem trans (h : first.Matches second) (hnext : second.Matches third) : first.Matches third :=
  ⟨h.first_done, hnext.second_done, fun worth key => (h.total worth key).trans (hnext.total worth key)⟩

theorem andThen (h : first.Matches second) (hnext : third.Matches fourth) :
    (first.andThen third).Matches (second.andThen fourth) where
  first_done := (failure_andThen_of_done h.first_done).trans hnext.first_done
  second_done := (failure_andThen_of_done h.second_done).trans hnext.second_done
  total worth key := by
    rw [visits_andThen h.first_done, visits_andThen h.second_done, total_append, total_append,
      h.total, hnext.total]

theorem andThen_swap (hfirst : first.failure = none) (hsecond : second.failure = none)
    (hthird : third.failure = none) :
    (first.andThen (second.andThen third)).Matches (second.andThen (first.andThen third)) where
  first_done := by
    rw [failure_andThen_of_done hfirst, failure_andThen_of_done hsecond, hthird]
  second_done := by
    rw [failure_andThen_of_done hsecond, failure_andThen_of_done hfirst, hthird]
  total worth key := by
    rw [visits_andThen hfirst, visits_andThen hsecond, visits_andThen hsecond,
      visits_andThen hfirst, total_append, total_append, total_append, total_append,
      Nat.add_left_comm]

end Matches

end Trail

namespace Closure

variable {path keys others : List String}

/-- What is visited from one key does not depend on the keys beside it. -/
theorem trail_cons (registry : Registry) (path : List String) (key : String) (rest : List String) :
    trail registry path (key :: rest) =
      (trail registry path [key]).andThen (trail registry path rest) := by
  by_cases hcycle : key ∈ path
  · rw [trail_cons_of_mem hcycle, trail_cons_of_mem hcycle]
    rfl
  · by_cases hregistered : key ∈ Entries.keys registry
    · rw [trail_cons_of_registered hcycle hregistered, trail_cons_of_registered hcycle hregistered,
        trail_nil, Trail.andThen_done]
    · rw [trail_cons_of_unregistered hcycle hregistered,
        trail_cons_of_unregistered hcycle hregistered, trail_nil]
      cases path with
      | nil => exact (congrArg (Trail.mk · _) (List.nil_append _)).symm
      | cons first path => rfl

theorem trail_perm (hperm : keys.Perm others) (hdone : (trail registry path keys).failure = none) :
    (trail registry path keys).Matches (trail registry path others) := by
  induction hperm with
  | nil => exact .refl hdone
  | @cons key rest others hperm ih =>
      rw [trail_cons registry path key rest] at hdone ⊢
      obtain ⟨hkey, hrest⟩ := Trail.failure_andThen_eq_none hdone
      rw [trail_cons registry path key others]
      exact (Trail.Matches.refl hkey).andThen (ih hrest)
  | swap first second rest =>
      have hsplit (first second : String) : trail registry path (first :: second :: rest) =
          (trail registry path [first]).andThen
            ((trail registry path [second]).andThen (trail registry path rest)) := by
        rw [trail_cons registry path first (second :: rest), trail_cons registry path second rest]
      rw [hsplit] at hdone
      rw [hsplit, hsplit]
      obtain ⟨hsecond, hdone⟩ := Trail.failure_andThen_eq_none hdone
      obtain ⟨hfirst, hrest⟩ := Trail.failure_andThen_eq_none hdone
      exact .andThen_swap hsecond hfirst hrest
  | trans _ _ ih ihnext =>
      have hmiddle := ih hdone
      exact hmiddle.trans (ihnext hmiddle.second_done)

/-- A shuffled registry is visited as often and as deep, from shuffled keys too. -/
theorem trail_shuffled (h : registry.Shuffles other) (hperm : keys.Perm others)
    (hdone : (trail registry path keys).failure = none) :
    (trail registry path keys).Matches (trail other path others) := by
  suffices hsame : (trail registry path keys).Matches (trail other path keys) from
    hsame.trans (trail_perm hperm hsame.second_done)
  clear hperm
  induction path, keys using trail.induct registry with
  | case1 path =>
      rw [trail_nil, trail_nil]
      exact .refl rfl
  | case2 path key rest hcycle =>
      rw [trail_cons_of_mem hcycle] at hdone
      cases hdone
  | case3 path key rest hfresh hregistered ihinner ihrest =>
      rw [trail_cons_of_registered hfresh hregistered] at hdone
      obtain ⟨hbelow, hrest⟩ := Trail.failure_andThen_eq_none hdone
      obtain ⟨_, hinner⟩ := Trail.failure_andThen_eq_none hbelow
      rw [trail_cons_of_registered hfresh hregistered,
        trail_cons_of_registered hfresh ((h.keys key).mp hregistered)]
      -- Below the visit both go on to the same keys, which the second lists in another order.
      have hinnerSame := ihinner hinner
      have hbelowSame := hinnerSame.trans (trail_perm (h.required key) hinnerSame.second_done)
      exact ((Trail.Matches.refl rfl).andThen hbelowSame).andThen (ihrest hrest)
  | case4 path key rest hfresh hnot hempty ih =>
      have hother : key ∉ Entries.keys other := fun hmem => hnot ((h.keys key).mpr hmem)
      rw [trail_cons_of_unregistered hfresh hnot, if_pos hempty] at hdone ⊢
      rw [trail_cons_of_unregistered hfresh hother, if_pos hempty]
      exact ih hdone
  | case5 path key rest hfresh hnot hempty =>
      rw [trail_cons_of_unregistered hfresh hnot, if_neg hempty] at hdone
      cases hdone

end Closure

end QueryWeave

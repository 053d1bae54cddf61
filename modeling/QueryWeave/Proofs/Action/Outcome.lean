import QueryWeave.Proofs.Action
import Mathlib.Data.List.Forall2

namespace QueryWeave.Action

variable {σ α β : Type} {action : Action σ α} {next : α → Action σ β}
  {outcome : Except Failure α} {after : α → Except Failure β}

/-- The action has one outcome, whatever state it runs on. -/
def Yields (action : Action σ α) (outcome : Except Failure α) : Prop :=
  ∀ state, (action state).1 = outcome

theorem bind_fst {state : σ}
    (hnext : ∀ value, (action state).1 = .ok value → (next value).Yields (after value)) :
    ((action >>= next) state).1 = (action state).1 >>= after := by
  rw [bind_apply]
  split
  next value left heq =>
    have hvalue := congrArg Prod.fst heq
    rw [hvalue]
    exact hnext value hvalue left
  next failure left heq =>
    rw [heq]
    rfl

theorem Yields.bind (h : action.Yields outcome)
    (hnext : ∀ value, outcome = .ok value → (next value).Yields (after value)) :
    (action >>= next).Yields (outcome >>= after) := by
  intro state
  rw [← h state]
  exact bind_fst fun value hvalue => hnext value ((h state).symm.trans hvalue)

theorem Yields.bind_map {make : α → β} (h : action.Yields outcome)
    (hnext : ∀ value, outcome = .ok value → (next value).Yields (.ok (make value))) :
    (action >>= next).Yields (outcome.map make) := by
  have hmap : outcome.map make = outcome >>= fun value => .ok (make value) := by
    cases outcome with
    | error failure => rfl
    | ok value => rfl
  rw [hmap]
  exact h.bind hnext

theorem yields_pure (value : α) : (pure value : Action σ α).Yields (.ok value) :=
  fun _ => rfl

theorem yields_throw (failure : Failure) :
    (throw failure : Action σ α).Yields (.error failure) :=
  fun _ => rfl

theorem yields_liftExcept (outcome : Except Failure α) :
    (liftExcept outcome : Action σ α).Yields outcome := by
  intro state
  rw [liftExcept_apply]

/-- A change of the state alone does not show in the outcome. -/
theorem Yields.modify_bind (change : σ → σ) (h : action.Yields outcome) :
    (do modify change; action : Action σ α).Yields outcome := by
  have hmodify : (modify change : Action σ Unit).Yields (.ok ()) := fun _ => rfl
  exact hmodify.bind fun _ _ => h

theorem Yields.mapM {items : List α} {step : α → Action σ β} {make : α → Except Failure β}
    (h : ∀ item, (step item).Yields (make item)) :
    (items.mapM step).Yields (items.mapM make) := by
  induction items with
  | nil => exact yields_pure []
  | cons first rest ih =>
      rw [List.mapM_cons, List.mapM_cons]
      exact (h first).bind fun value _ => ih.bind fun others _ => yields_pure (value :: others)

theorem ok_bind (value : α) : (Except.ok value >>= after) = after value := rfl

theorem bind_eq_ok_iff {result : β} :
    outcome >>= after = .ok result ↔ ∃ value, outcome = .ok value ∧ after value = .ok result := by
  cases outcome with
  | error failure =>
      constructor
      · nofun
      · rintro ⟨_, ⟨⟩, _⟩
  | ok value =>
      constructor
      · exact fun h => ⟨value, rfl, h⟩
      · rintro ⟨_, ⟨⟩, h⟩
        exact h

theorem bind_eq_error_iff {failure : Failure} :
    outcome >>= after = .error failure ↔
      outcome = .error failure ∨ ∃ value, outcome = .ok value ∧ after value = .error failure := by
  cases outcome with
  | error other =>
      constructor
      · intro h
        cases h
        exact Or.inl rfl
      · rintro (⟨⟨⟩⟩ | ⟨_, ⟨⟩, _⟩)
        rfl
  | ok value =>
      constructor
      · exact fun h => Or.inr ⟨value, rfl, h⟩
      · rintro (⟨⟨⟩⟩ | ⟨_, ⟨⟩, h⟩)
        exact h

@[simp] theorem map_eq_error_iff {make : α → β} {failure : Failure} :
    outcome.map make = .error failure ↔ outcome = .error failure := by
  cases outcome with
  | error other =>
      constructor
      · rintro ⟨⟩
        rfl
      · rintro ⟨⟩
        rfl
  | ok value =>
      constructor
      · nofun
      · nofun

theorem map_eq_ok_iff {make : α → β} {result : β} :
    outcome.map make = .ok result ↔ ∃ value, outcome = .ok value ∧ make value = result := by
  cases outcome with
  | error failure =>
      constructor
      · nofun
      · rintro ⟨_, ⟨⟩, _⟩
  | ok value =>
      constructor
      · rintro ⟨⟩
        exact ⟨value, rfl, rfl⟩
      · rintro ⟨_, ⟨⟩, rfl⟩
        rfl

theorem exists_map_eq_ok_iff {make : α → β} :
    (∃ result, outcome.map make = .ok result) ↔ ∃ value, outcome = .ok value := by
  simp only [map_eq_ok_iff]
  constructor
  · rintro ⟨_, value, hvalue, _⟩
    exact ⟨value, hvalue⟩
  · rintro ⟨value, hvalue⟩
    exact ⟨_, value, hvalue, rfl⟩

section Lists

variable {make : α → Except Failure β} {items : List α}

theorem mapM_eq_ok_iff {results : List β} :
    items.mapM make = .ok results ↔
      List.Forall₂ (fun item result => make item = .ok result) items results := by
  induction items generalizing results with
  | nil =>
      rw [List.mapM_nil, List.forall₂_nil_left_iff]
      constructor
      · intro h
        cases h
        rfl
      · rintro rfl
        rfl
  | cons first rest ih =>
      rw [List.mapM_cons, List.forall₂_cons_left_iff, bind_eq_ok_iff]
      constructor
      · rintro ⟨result, hfirst, hrest⟩
        obtain ⟨others, hothers, hwhole⟩ := bind_eq_ok_iff.mp hrest
        cases hwhole
        exact ⟨result, others, hfirst, ih.mp hothers, rfl⟩
      · rintro ⟨result, others, hfirst, hothers, rfl⟩
        exact ⟨result, hfirst, bind_eq_ok_iff.mpr ⟨others, ih.mpr hothers, rfl⟩⟩

theorem forall_mem_iff_of_mapM {results : List β} (h : items.mapM make = .ok results)
    {property : β → Prop} :
    (∀ result ∈ results, property result) ↔
      ∀ item ∈ items, ∃ result, make item = .ok result ∧ property result := by
  rw [mapM_eq_ok_iff] at h
  induction h with
  | nil => simp
  | cons hmake _ ih => simp [hmake, ih]

theorem exists_mem_of_mapM {results : List β} (h : items.mapM make = .ok results) {item : α}
    (hmem : item ∈ items) : ∃ result ∈ results, make item = .ok result := by
  have hall : ∀ result ∈ results, result ∈ results := fun _ hresult => hresult
  obtain ⟨result, hmake, hresult⟩ := (forall_mem_iff_of_mapM h).mp hall item hmem
  exact ⟨result, hresult, hmake⟩

theorem exists_mapM_eq_ok_iff :
    (∃ results, items.mapM make = .ok results) ↔ ∀ item ∈ items, ∃ result, make item = .ok result := by
  constructor
  · rintro ⟨results, hresults⟩ item hmem
    obtain ⟨result, _, hmake⟩ := exists_mem_of_mapM hresults hmem
    exact ⟨result, hmake⟩
  · intro h
    induction items with
    | nil => exact ⟨[], rfl⟩
    | cons first rest ih =>
        obtain ⟨result, hfirst⟩ := h first List.mem_cons_self
        obtain ⟨results, hrest⟩ := ih fun item hmem => h item (List.mem_cons_of_mem _ hmem)
        exact ⟨result :: results,
          mapM_eq_ok_iff.mpr (.cons hfirst (mapM_eq_ok_iff.mp hrest))⟩

theorem mapM_eq_error_iff {failure : Failure} :
    items.mapM make = .error failure ↔
      ∃ front item back results, items = front ++ item :: back ∧
        front.mapM make = .ok results ∧ make item = .error failure := by
  induction items with
  | nil =>
      constructor
      · nofun
      · rintro ⟨front, _, _, _, hsplit, _⟩
        exact absurd hsplit.symm (List.append_ne_nil_of_right_ne_nil front (List.cons_ne_nil _ _))
  | cons first rest ih =>
      rw [List.mapM_cons, bind_eq_error_iff]
      constructor
      · rintro (hfirst | ⟨result, hfirst, hrest⟩)
        · exact ⟨[], first, rest, [], rfl, rfl, hfirst⟩
        · rcases bind_eq_error_iff.mp hrest with hlater | ⟨_, _, hdone⟩
          · obtain ⟨front, item, back, results, rfl, hfront, hitem⟩ := ih.mp hlater
            refine ⟨first :: front, item, back, result :: results, rfl, ?_, hitem⟩
            rw [mapM_eq_ok_iff] at hfront ⊢
            exact .cons hfirst hfront
          · cases hdone
      · rintro ⟨front, item, back, results, hsplit, hfront, hitem⟩
        cases front with
        | nil =>
            cases hsplit
            exact Or.inl hitem
        | cons other front =>
            cases hsplit
            rw [mapM_eq_ok_iff] at hfront
            cases hfront with
            | cons hfirst hothers =>
                refine Or.inr ⟨_, hfirst, bind_eq_error_iff.mpr (Or.inl (ih.mpr ?_))⟩
                exact ⟨front, item, back, _, rfl, mapM_eq_ok_iff.mpr hothers, hitem⟩

theorem exists_mem_of_mapM_error {failure : Failure} (h : items.mapM make = .error failure) :
    ∃ item ∈ items, make item = .error failure := by
  obtain ⟨front, item, back, results, rfl, _, hitem⟩ := mapM_eq_error_iff.mp h
  exact ⟨item, List.mem_append_right _ List.mem_cons_self, hitem⟩

end Lists

theorem Yields.mapM_cons_bind {γ : Type} {first : α} {rest : List α} {step : α → Action σ β}
    {make : α → Except Failure β} {build : List β → γ} {next : List β → Action σ γ}
    (h : ∀ item, (step item).Yields (make item))
    (hnext : ∀ result results, (next (result :: results)).Yields (.ok (build (result :: results)))) :
    ((first :: rest).mapM step >>= next).Yields (((first :: rest).mapM make).map build) := by
  apply (Yields.mapM h).bind_map
  intro results hresults
  cases mapM_eq_ok_iff.mp hresults with
  | cons _ _ => exact hnext _ _

end QueryWeave.Action

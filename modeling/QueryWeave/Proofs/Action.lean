import QueryWeave.Journal

namespace QueryWeave.Action

variable {σ α β : Type}

theorem bind_apply (action : Action σ α) (next : α → Action σ β) (state : σ) :
    (action >>= next) state =
      match action state with
      | (.ok result, left) => next result left
      | (.error failure, left) => (.error failure, left) := by
  simp only [bind, ExceptT.bind, ExceptT.mk, StateT.bind]
  cases action state with
  | mk outcome left => cases outcome <;> rfl

theorem bind_of_ok {action : Action σ α} {state left : σ} {result : α}
    (h : action state = (.ok result, left)) (next : α → Action σ β) :
    (action >>= next) state = next result left := by
  rw [bind_apply, h]

theorem bind_of_error {action : Action σ α} {state left : σ} {failure : Failure}
    (h : action state = (.error failure, left)) (next : α → Action σ β) :
    (action >>= next) state = (.error failure, left) := by
  rw [bind_apply, h]

/-- What has a result had one at every step. -/
theorem bind_ok_inv {action : Action σ α} {next : α → Action σ β} {state left : σ} {result : β}
    (h : (action >>= next) state = (.ok result, left)) :
    ∃ value middle, action state = (.ok value, middle) ∧ next value middle = (.ok result, left) := by
  rw [bind_apply] at h
  split at h
  next value middle heq => exact ⟨value, middle, heq, h⟩
  next => cases h

/-- What fails does so at its first step or after it. -/
theorem bind_error_inv {action : Action σ α} {next : α → Action σ β} {state left : σ}
    {failure : Failure} (h : (action >>= next) state = (.error failure, left)) :
    action state = (.error failure, left) ∨
      ∃ value middle, action state = (.ok value, middle) ∧
        next value middle = (.error failure, left) := by
  rw [bind_apply] at h
  split at h
  next value middle heq => exact Or.inr ⟨value, middle, heq, h⟩
  next other middle heq =>
    cases h
    exact Or.inl heq

@[simp] theorem modify_apply (change : σ → σ) (state : σ) :
    (modify change : Action σ Unit) state = (.ok (), change state) := rfl

@[simp] theorem get_apply (state : σ) :
    (get : Action σ σ) state = (.ok state, state) := rfl

@[simp] theorem liftExcept_apply (outcome : Except Failure α) (state : σ) :
    (liftExcept outcome : Action σ α) state = (outcome, state) := by
  cases outcome with
  | ok result => rfl
  | error failure => rfl

theorem liftExcept_ok_bind (value : α) (next : α → Action σ β) :
    (liftExcept (Except.ok value : Except Failure α) >>= next) = next value :=
  funext fun _ => rfl

theorem liftExcept_ok_inv {outcome : Except Failure α} {next : α → Action σ β} {state left : σ}
    {result : β} (h : (liftExcept outcome >>= next) state = (.ok result, left)) :
    ∃ value, outcome = .ok value := by
  obtain ⟨value, middle, hlifted, _⟩ := bind_ok_inv h
  rw [liftExcept_apply] at hlifted
  exact ⟨value, congrArg Prod.fst hlifted⟩

section Lists

variable {items : List α} {item : α}

theorem mapM_ok_inv {step : α → Action σ β} {state left : σ} {results : List β}
    (h : items.mapM step state = (.ok results, left)) (hmem : item ∈ items) :
    ∃ before result after, step item before = (.ok result, after) := by
  induction items generalizing state left results with
  | nil => cases hmem
  | cons first rest ih =>
      rw [List.mapM_cons] at h
      obtain ⟨result, middle, hfirst, hnext⟩ := bind_ok_inv h
      obtain ⟨others, last, hrest, _⟩ := bind_ok_inv hnext
      rcases List.mem_cons.mp hmem with rfl | hlater
      · exact ⟨state, result, middle, hfirst⟩
      · exact ih hrest hlater

theorem foldlM_ok_inv {step : β → α → Action σ β} {base result : β} {state left : σ}
    (h : items.foldlM step base state = (.ok result, left)) (hmem : item ∈ items) :
    ∃ held before next after, step held item before = (.ok next, after) := by
  induction items generalizing base state with
  | nil => cases hmem
  | cons first rest ih =>
      rw [List.foldlM_cons] at h
      obtain ⟨next, middle, hfirst, hnext⟩ := bind_ok_inv h
      rcases List.mem_cons.mp hmem with rfl | hlater
      · exact ⟨base, state, next, middle, hfirst⟩
      · exact ih hnext hlater

theorem mapM_congr {left right : α → Action σ β} (h : ∀ item ∈ items, left item = right item) :
    items.mapM left = items.mapM right := by
  induction items with
  | nil => rfl
  | cons first rest ih =>
      rw [List.mapM_cons, List.mapM_cons, h first List.mem_cons_self,
        ih fun item hmem => h item (List.mem_cons_of_mem _ hmem)]

theorem foldlM_congr {left right : β → α → Action σ β}
    (h : ∀ base, ∀ item ∈ items, left base item = right base item) (base : β) :
    items.foldlM left base = items.foldlM right base := by
  induction items generalizing base with
  | nil => rfl
  | cons first rest ih =>
      rw [List.foldlM_cons, List.foldlM_cons, h base first List.mem_cons_self]
      exact congrArg _ (funext fun next =>
        ih (fun base item hmem => h base item (List.mem_cons_of_mem _ hmem)) next)

end Lists

end QueryWeave.Action

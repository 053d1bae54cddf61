import QueryWeave.Proofs.Action

namespace QueryWeave.Action

variable {σ α β : Type} {Related : α → α → Prop} {Akin : β → β → Prop}

/-- What two runs come to. -/
inductive Paired (Related : α → α → Prop) : Except Failure α × σ → Except Failure α × σ → Prop
  | done {first second : α} (state : σ) (h : Related first second) :
      Paired Related (.ok first, state) (.ok second, state)
  | failed (failure : Failure) (state : σ) :
      Paired Related (.error failure, state) (.error failure, state)

/-- The actions come to the same on every state, up to a relation of their results. -/
def Alike (Related : α → α → Prop) (first second : Action σ α) : Prop :=
  ∀ state, Paired Related (first state) (second state)

theorem alike_pure {first second : α} (h : Related first second) :
    Alike Related (pure first : Action σ α) (pure second) :=
  fun state => .done state h

theorem alike_refl (h : ∀ result, Related result result) (action : Action σ α) :
    action.Alike Related action := by
  intro state
  generalize action state = left
  obtain ⟨outcome, state⟩ := left
  cases outcome with
  | ok result => exact .done state (h result)
  | error failure => exact .failed failure state

theorem Alike.bind {first second : Action σ α} (h : first.Alike Related second)
    {next after : α → Action σ β}
    (hnext : ∀ result other, Related result other → (next result).Alike Akin (after other)) :
    (first >>= next).Alike Akin (second >>= after) := by
  intro state
  have hpaired := h state
  rw [bind_apply, bind_apply]
  generalize first state = left at hpaired
  generalize second state = right at hpaired
  cases hpaired with
  | done middle hrelated => exact hnext _ _ hrelated middle
  | failed failure middle => exact .failed failure middle

/-- The same action first, and then what is alike. -/
theorem alike_bind (action : Action σ α) {next after : α → Action σ β}
    (hnext : ∀ result, (next result).Alike Akin (after result)) :
    (action >>= next).Alike Akin (action >>= after) := by
  have hsame : action.Alike Eq action := alike_refl (fun _ => rfl) action
  exact hsame.bind fun result _ h => h ▸ hnext result

end QueryWeave.Action

import QueryWeave.Proofs.Request.Patched

namespace QueryWeave

universe u

/-- Laying data over lists of the same keys leaves the same keys. -/
theorem Datum.keys_deepMerge_congr {left right : Entries Datum}
    (h : Entries.keys left = Entries.keys right) (patch : Entries Datum) :
    Entries.keys (deepMerge left patch) = Entries.keys (deepMerge right patch) := by
  rw [keys_deepMerge, keys_deepMerge, h]

namespace Entries

variable {left right : Entries Datum}

theorem has_congr (h : keys left = keys right) (key : String) : has left key = has right key := by
  rw [Bool.eq_iff_iff, has_iff, has_iff, h]

theorem keys_put_congr (h : keys left = keys right) (key : String) (first second : Datum) :
    keys (put left key first) = keys (put right key second) := by
  rw [keys_put, keys_put, h]

end Entries

namespace Request

/-- The same request up to the values bound to its filters. -/
structure Rebound (left right : Request) : Prop where
  keys : Entries.keys left.filters = Entries.keys right.filters
  rest : right = { left with filters := right.filters }

variable {left right : Request}

/-- What does not look at bound values is the same. -/
theorem Rebound.view_eq {α : Type u} (h : left.Rebound right) (view : Request → α)
    (hview : ∀ request filters, view { request with filters } = view request) :
    view left = view right := by
  rw [h.rest]
  exact (hview left right.filters).symm

theorem Rebound.named (h : left.Rebound right) : left.keys = right.keys := by
  have hkeys := h.keys
  rw [h.rest, Request.keys, Request.keys, hkeys]
  rfl

theorem Rebound.update (h : left.Rebound right) (patch : Request) :
    (left.update patch).Rebound (right.update patch) where
  keys := Datum.keys_deepMerge_congr h.keys patch.filters
  rest := by
    rw [h.rest]
    rfl

theorem Rebound.foldl_update (h : left.Rebound right) (patches : List Request) :
    (patches.foldl Request.update left).Rebound (patches.foldl Request.update right) := by
  induction patches generalizing left right with
  | nil => exact h
  | cons patch rest ih => exact ih (h.update patch)

end Request

end QueryWeave

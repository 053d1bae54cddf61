import QueryWeave.Tree.Placeholder

namespace QueryWeave

universe u v w

variable {α : Type u} {β : Type v} {γ : Type w}

theorem eq_map_of_cons {go : List α → List β} {f : α → β} (hnil : go [] = [])
    (hcons : ∀ item rest, go (item :: rest) = f item :: go rest) (items : List α) :
    go items = items.map f := by
  induction items with
  | nil => exact hnil
  | cons item rest ih => rw [hcons, ih, List.map_cons]

theorem eq_flatMap_of_cons {go : List α → List β} {f : α → List β} (hnil : go [] = [])
    (hcons : ∀ item rest, go (item :: rest) = f item ++ go rest) (items : List α) :
    go items = items.flatMap f := by
  induction items with
  | nil => exact hnil
  | cons item rest ih => rw [hcons, ih, List.flatMap_cons]

namespace Items

def map (f : α → β) : Items α → Items β
  | one item => one (f item)
  | many items => many (items.map f)

@[simp] theorem map_many (f : α → β) (items : List α) :
    (many items).map f = many (items.map f) := rfl

@[simp] theorem toList_map (f : α → β) (items : Items α) :
    (items.map f).toList = items.toList.map f := by
  cases items with
  | one item => rfl
  | many items => rfl

@[simp] theorem map_id (items : Items α) : items.map id = items := by
  cases items <;> simp [map]

theorem map_map (f : α → β) (g : β → γ) (items : Items α) :
    (items.map f).map g = items.map (g ∘ f) := by
  cases items with
  | one item => rfl
  | many items => exact congrArg many List.map_map

theorem map_eq_map_iff {f g : α → β} {items : Items α} :
    items.map f = items.map g ↔ ∀ item ∈ items.toList, f item = g item := by
  cases items with
  | one item => simp [map]
  | many items => simp [map]

end Items

namespace Clause

def map (f : α → β) : Clause α → Clause β
  | absent => absent
  | one item => one (f item)
  | many items => many (items.map f)

@[simp] theorem map_many (f : α → β) (items : List α) :
    (many items).map f = many (items.map f) := rfl

@[simp] theorem toList_map (f : α → β) (clause : Clause α) :
    (clause.map f).toList = clause.toList.map f := by
  cases clause with
  | absent => rfl
  | one item => rfl
  | many items => rfl

@[simp] theorem map_id (clause : Clause α) : clause.map id = clause := by
  cases clause <;> simp [map]

theorem map_map (f : α → β) (g : β → γ) (clause : Clause α) :
    (clause.map f).map g = clause.map (g ∘ f) := by
  cases clause with
  | absent => rfl
  | one item => rfl
  | many items => exact congrArg many List.map_map

theorem map_eq_map_iff {f g : α → β} {clause : Clause α} :
    clause.map f = clause.map g ↔ ∀ item ∈ clause.toList, f item = g item := by
  cases clause with
  | absent => simp [map]
  | one item => simp [map]
  | many items => simp [map]

end Clause

namespace NamedClause

def map (f : α → β) : NamedClause α → NamedClause β
  | absent => absent
  | .name given => .name given
  | one item => one (f item)
  | many items => many (items.map f)

/-- The items that are written out. -/
def given : NamedClause α → List α
  | absent => []
  | .name _ => []
  | one item => [item]
  | many items => items

@[simp] theorem map_many (f : α → β) (items : List α) :
    (many items).map f = many (items.map f) := rfl

@[simp] theorem map_id (clause : NamedClause α) : clause.map id = clause := by
  cases clause <;> simp [map]

theorem map_map (f : α → β) (g : β → γ) (clause : NamedClause α) :
    (clause.map f).map g = clause.map (g ∘ f) := by
  cases clause with
  | absent => rfl
  | name given => rfl
  | one item => rfl
  | many items => exact congrArg many List.map_map

theorem map_eq_map_iff {f g : α → β} {clause : NamedClause α} :
    clause.map f = clause.map g ↔ ∀ item ∈ clause.given, f item = g item := by
  cases clause with
  | absent => simp [map, given]
  | name name => simp [map, given]
  | one item => simp [map, given]
  | many items => simp [map, given]

theorem toList_map {f : α → β} {ofName : String → α} {ofName' : String → β}
    (h : ∀ name, f (ofName name) = ofName' name) (clause : NamedClause α) :
    (clause.map f).toList ofName' = (clause.toList ofName).map f := by
  cases clause with
  | absent => rfl
  | name given => exact congrArg (fun item => [item]) (h given).symm
  | one item => rfl
  | many items => rfl

end NamedClause

end QueryWeave

namespace QueryWeave

universe u v

inductive Items (α : Type u) where
  | one (item : α)
  | many (items : List α)

/-- An optional clause of one item or a list of them. -/
inductive Clause (α : Type u) where
  | absent
  | one (item : α)
  | many (items : List α)

/-- An optional clause that may also be a bare name, standing for one item. -/
inductive NamedClause (α : Type u) where
  | absent
  | name (name : String)
  | one (item : α)
  | many (items : List α)

variable {α : Type u}

namespace Items

def toList : Items α → List α
  | one item => [item]
  | many items => items

@[simp] theorem toList_one (item : α) : (one item).toList = [item] := rfl

@[simp] theorem toList_many (items : List α) : (many items).toList = items := rfl

end Items

namespace Clause

def toList : Clause α → List α
  | absent => []
  | one item => [item]
  | many items => items

/-- A list clause, left out when there is nothing to list. -/
def ofNonempty : List α → Clause α
  | [] => absent
  | items => many items

def ofOption : Option α → Clause α
  | none => absent
  | some item => one item

@[simp] theorem toList_absent : (absent : Clause α).toList = [] := rfl

@[simp] theorem toList_one (item : α) : (one item).toList = [item] := rfl

@[simp] theorem toList_many (items : List α) : (many items).toList = items := rfl

@[simp] theorem toList_ofNonempty (items : List α) : (ofNonempty items).toList = items := by
  cases items <;> rfl

@[simp] theorem toList_ofOption (item : Option α) : (ofOption item).toList = item.toList := by
  cases item <;> rfl

end Clause

namespace NamedClause

/-- The items, `ofName` telling what a bare name stands for. -/
def toList (ofName : String → α) : NamedClause α → List α
  | absent => []
  | .name given => [ofName given]
  | one item => [item]
  | many items => items

variable (ofName : String → α)

@[simp] theorem toList_absent : (absent : NamedClause α).toList ofName = [] := rfl

@[simp] theorem toList_name (n : String) : (name n).toList ofName = [ofName n] := rfl

@[simp] theorem toList_one (item : α) : (one item).toList ofName = [item] := rfl

@[simp] theorem toList_many (items : List α) : (many items).toList ofName = items := rfl

end NamedClause

end QueryWeave

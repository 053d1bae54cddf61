import QueryWeave.Proofs.Tree.Merge

namespace QueryWeave

mutual

/-- The truth of a condition under a valuation of the conditions that are no conjunctions. -/
def Expr.Holds (valuation : Expr → Prop) : Expr → Prop
  | .conjunction members => Expr.AllHold valuation members
  | condition => valuation condition

def Expr.AllHold (valuation : Expr → Prop) : List Expr → Prop
  | [] => True
  | condition :: rest => condition.Holds valuation ∧ Expr.AllHold valuation rest

end

namespace Expr

variable {valuation : Expr → Prop}

theorem allHold_iff {conditions : List Expr} :
    AllHold valuation conditions ↔ ∀ condition ∈ conditions, condition.Holds valuation := by
  induction conditions with
  | nil => simp [AllHold]
  | cons condition rest ih => simp [AllHold, ih]

@[simp] theorem holds_conjunction {members : List Expr} :
    (conjunction members).Holds valuation ↔ ∀ member ∈ members, member.Holds valuation := by
  rw [Holds, allHold_iff]

@[simp] theorem holds_andAll {conditions additions : List Expr} :
    (andAll conditions additions).Holds valuation ↔
      (∀ condition ∈ conditions, condition.Holds valuation) ∧
        ∀ condition ∈ additions, condition.Holds valuation := by
  unfold andAll
  split
  next members =>
    rw [holds_conjunction, List.forall_mem_append, List.forall_mem_singleton, holds_conjunction]
  next => rw [holds_conjunction, List.forall_mem_append]

end Expr

namespace Query

/-- The filter of a query holds; a query without one admits everything. -/
def Admits (query : Query) (valuation : Expr → Prop) : Prop :=
  ∀ condition ∈ query.filterList, condition.Holds valuation

variable {valuation : Expr → Prop}

@[simp] theorem admits_merge (base addition : Query) :
    (base.merge addition).Admits valuation ↔
      base.Admits valuation ∧ addition.Admits valuation := by
  have hfilter : (base.merge addition).filterList = (mergeFilter base addition).toList := rfl
  rw [Admits, hfilter, mergeFilter, Admits, Admits]
  split
  next hnone =>
    rw [hnone]
    exact (and_iff_left (List.forall_mem_nil _)).symm
  next hconditions =>
    rw [Clause.toList_one, List.forall_mem_singleton, Expr.holds_andAll]

theorem admits_foldl_merge (base : Query) (additions : List Query) :
    (additions.foldl merge base).Admits valuation ↔
      base.Admits valuation ∧ ∀ addition ∈ additions, addition.Admits valuation := by
  induction additions generalizing base with
  | nil => simp
  | cons addition rest ih =>
      rw [List.foldl_cons, ih, admits_merge, List.forall_mem_cons, and_assoc]

end Query

end QueryWeave

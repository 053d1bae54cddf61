import QueryWeave.Tree.Merge

namespace QueryWeave

universe u

namespace Limit

/-- The first limit that is set. -/
def first : List Limit → Limit
  | [] => .absent
  | .absent :: rest => first rest
  | limit :: _ => limit

theorem first_singleton (limit : Limit) : first [limit] = limit := by
  cases limit <;> rfl

theorem first_cons_cons (limit other : Limit) (rest : List Limit) :
    first (first [limit, other] :: rest) = first (limit :: other :: rest) := by
  cases limit with
  | absent => cases other <;> rfl
  | rows count => rfl
  | window given => rfl

end Limit

namespace Query

variable (base addition : Query)

@[simp] theorem distinct_merge :
    (base.merge addition).distinct = (base.distinct || addition.distinct) := rfl

@[simp] theorem selectList_merge :
    (base.merge addition).selectList = base.selectList ++ addition.selectList := by
  change (mergeSelect base addition).toList = _
  rw [mergeSelect]
  split
  next hnone =>
    rw [hnone, List.append_nil]
    rfl
  next => rfl

@[simp] theorem orderList_merge :
    (base.merge addition).orderList = base.orderList ++ addition.orderList := by
  change (mergeOrder base addition).toList OrderTerm.ofName = _
  rw [mergeOrder]
  split
  next hnone =>
    rw [hnone, List.append_nil]
    rfl
  next => rfl

theorem grouping?_merge :
    (base.merge addition).grouping? =
      match addition.grouping? with
      | none => base.grouping?
      | some grouping => some ((base.grouping?.getD .empty).append grouping).listed := by
  have hgroup : (base.merge addition).group = mergeGroup base addition := rfl
  rw [grouping?, hgroup, mergeGroup]
  cases addition.grouping? with
  | none => rfl
  | some grouping => rfl

@[simp] theorem groupTerms_merge :
    (base.merge addition).groupTerms = base.groupTerms ++ addition.groupTerms := by
  rw [groupTerms, grouping?_merge, groupTerms, groupTerms]
  cases addition.grouping? with
  | none => simp
  | some grouping =>
      cases base.grouping? with
      | none => rfl
      | some own => rfl

@[simp] theorem havingList_merge :
    (base.merge addition).havingList = base.havingList ++ addition.havingList := by
  rw [havingList, grouping?_merge, havingList, havingList]
  cases addition.grouping? with
  | none => simp
  | some grouping =>
      cases base.grouping? with
      | none => exact Clause.toList_ofNonempty _
      | some own => exact Clause.toList_ofNonempty _

theorem limit_merge :
    (base.merge addition).limit = Limit.first [base.limit, addition.limit] := by
  change mergeLimit base addition = _
  rw [mergeLimit]
  cases base.limit with
  | absent => cases addition.limit <;> rfl
  | rows count => rfl
  | window given => rfl

section Series

variable {β : Type u} (view : Query → List β)
  (hview : ∀ base addition : Query, view (base.merge addition) = view base ++ view addition)

include hview

/-- What a merge concatenates, a series of merges does. -/
theorem foldl_merge (additions : List Query) :
    view (additions.foldl merge base) = view base ++ additions.flatMap view := by
  induction additions generalizing base with
  | nil => simp
  | cons addition rest ih => rw [List.foldl_cons, ih, hview, List.append_assoc, List.flatMap_cons]

end Series

theorem distinct_foldl_merge (additions : List Query) :
    (additions.foldl merge base).distinct = (base.distinct || additions.any distinct) := by
  induction additions generalizing base with
  | nil => simp
  | cons addition rest ih => rw [List.foldl_cons, ih, distinct_merge, Bool.or_assoc, List.any_cons]

/-- Of the limits of a series of merges the first stays. -/
theorem limit_foldl_merge (additions : List Query) :
    (additions.foldl merge base).limit = Limit.first (base.limit :: additions.map limit) := by
  induction additions generalizing base with
  | nil => exact (Limit.first_singleton base.limit).symm
  | cons addition rest ih =>
      rw [List.foldl_cons, ih, limit_merge, Limit.first_cons_cons, List.map_cons]

/-- The result columns other than an unqualified `*`. -/
def plainColumns (query : Query) : List ResultColumn :=
  query.selectList.filter fun column => !column.expression.isWildcard

@[simp] theorem selectList_withoutWildcard (query : Query) :
    query.withoutWildcard.selectList = query.plainColumns :=
  Clause.toList_ofNonempty _

end Query

end QueryWeave

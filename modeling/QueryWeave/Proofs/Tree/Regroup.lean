import QueryWeave.Proofs.Tree.Condition
import QueryWeave.Proofs.Tree.Series
import QueryWeave.Proofs.Tree.Tables

/-!
Regrouping merges.  Main statement: `Query.merge_merge`, of three queries the last two can be merged
first, provided that no two tables of the middle one have the same key.
-/

namespace QueryWeave

namespace Query

variable (base middle last : Query)

theorem select_merge_merge :
    ((base.merge middle).merge last).select = (base.merge (middle.merge last)).select := by
  change mergeSelect (base.merge middle) last = mergeSelect base (middle.merge last)
  rw [mergeSelect, mergeSelect, selectList_merge, selectList_merge]
  cases last.selectList with
  | nil =>
      rw [List.append_nil]
      rfl
  | cons column rest => cases middle.selectList <;> simp

theorem order_merge_merge :
    ((base.merge middle).merge last).order = (base.merge (middle.merge last)).order := by
  change mergeOrder (base.merge middle) last = mergeOrder base (middle.merge last)
  rw [mergeOrder, mergeOrder, orderList_merge, orderList_merge]
  cases last.orderList with
  | nil =>
      rw [List.append_nil]
      rfl
  | cons term rest => cases middle.orderList <;> simp

theorem tables_merge_merge (hdistinct : (middle.tableList.filterMap Table.key?).Nodup) :
    ((base.merge middle).merge last).tables = (base.merge (middle.merge last)).tables := by
  by_cases h : last.tables = .absent
  · rw [tables_merge_of_absent _ _ h]
    have hsame : (middle.merge last).tables = middle.tables := tables_merge_of_absent _ _ h
    have hlist : (middle.merge last).tableList = middle.tableList := by
      rw [tableList, hsame, tableList]
    change mergeTables base middle = mergeTables base (middle.merge last)
    rw [mergeTables, mergeTables, hsame, hlist]
  · have hmany := tables_merge_of_ne_absent middle last h
    rw [tables_merge_of_ne_absent _ _ h, tableList_merge, Table.mergeAll_mergeAll hdistinct,
      tables_merge_of_ne_absent base (middle.merge last) (by rw [hmany]; rintro ⟨⟩), tableList_merge]

theorem group_merge_merge :
    ((base.merge middle).merge last).group = (base.merge (middle.merge last)).group := by
  rw [group_merge_of_groupWith (group_merge base middle) last, group_merge, grouping?_merge]
  cases last.grouping? with
  | none => exact congrArg base.groupWith (List.append_nil _)
  | some grouping =>
      simp only [Option.toList_some]
      rw [groupWith_of_ne_nil base (List.append_ne_nil_of_right_ne_nil _ (List.cons_ne_nil _ _)),
        groupWith_of_ne_nil base (List.cons_ne_nil _ _), List.flatMap_singleton,
        List.flatMap_singleton]
      cases middle.grouping? <;>
        simp [Grouping.append, Grouping.empty, Grouping.listed, Grouping.termList,
          Grouping.havingList]

theorem limit_merge_merge :
    ((base.merge middle).merge last).limit = (base.merge (middle.merge last)).limit := by
  rw [limit_merge, limit_merge, limit_merge, limit_merge]
  cases base.limit with
  | absent => cases middle.limit <;> cases last.limit <;> rfl
  | rows count => rfl
  | window given => rfl

mutual

theorem attachUnion_attachUnion (union next : Query) : ∀ query : Query,
    attachUnion union (attachUnion next query) = attachUnion (attachUnion union next) query
  | ⟨_, _, _, _, _, _, _, rest⟩ => by
      rw [attachUnion, attachUnion, attachUnion, ← attachUnion_attachUnionTo union next rest]
      rfl

theorem attachUnion_attachUnionTo (union next : Query) : ∀ query : Option Query,
    attachUnion union (attachUnionTo next query) = attachUnionTo (attachUnion union next) query
  | none => rfl
  | some query => attachUnion_attachUnion union next query

end

theorem union_merge_merge :
    ((base.merge middle).merge last).union = (base.merge (middle.merge last)).union := by
  change mergeUnion (base.merge middle) last = mergeUnion base (middle.merge last)
  have houter : (base.merge middle).union = mergeUnion base middle := rfl
  have hinner : (middle.merge last).union = mergeUnion middle last := rfl
  rw [mergeUnion, houter, mergeUnion, mergeUnion, hinner, mergeUnion]
  cases last.union with
  | none => rfl
  | some union =>
      cases middle.union with
      | none => rfl
      | some next => exact congrArg some (attachUnion_attachUnionTo union next base.union)

/-- Three queries merged one after the other, or the last two first: the same query, but for the
filter, which has the same meaning. -/
theorem merge_merge (hdistinct : (middle.tableList.filterMap Table.key?).Nodup) :
    let left := (base.merge middle).merge last
    let right := base.merge (middle.merge last)
    left.distinct = right.distinct ∧
      left.select = right.select ∧
      left.tables = right.tables ∧
      left.group = right.group ∧
      left.order = right.order ∧
      left.limit = right.limit ∧
      left.union = right.union ∧
      ∀ valuation, left.Admits valuation ↔ right.Admits valuation := by
  intro left right
  have hfilter (valuation : Expr → Prop) : left.Admits valuation ↔ right.Admits valuation := by
    rw [admits_merge, admits_merge, admits_merge, admits_merge, and_assoc]
  exact ⟨Bool.or_assoc _ _ _, select_merge_merge base middle last,
    tables_merge_merge base middle last hdistinct, group_merge_merge base middle last,
    order_merge_merge base middle last, limit_merge_merge base middle last,
    union_merge_merge base middle last, hfilter⟩

/-- A query over one table that joins another. -/
def joining (table joined : String) : Query :=
  { Query.empty with
    tables := .one ⟨.name table, none, .one ⟨.left, .name joined, .absent⟩⟩ }

theorem berths_merge_merge :
    ((joining "berths" "quays").tableList.filterMap Table.key?).Nodup ∧
      let left := ((joining "ships" "crews").merge (joining "berths" "quays")).merge
        (joining "berths" "tides")
      let right := (joining "ships" "crews").merge
        ((joining "berths" "quays").merge (joining "berths" "tides"))
      left.tables = right.tables ∧
        left.tables = .many
          [⟨.name "ships", none, .one ⟨.left, .name "crews", .absent⟩⟩,
            ⟨.name "berths", none,
              .many [⟨.left, .name "quays", .absent⟩, ⟨.left, .name "tides", .absent⟩]⟩] := by
  have hdistinct : ((joining "berths" "quays").tableList.filterMap Table.key?).Nodup :=
    List.nodup_singleton "berths"
  obtain ⟨-, -, htables, -⟩ := merge_merge (joining "ships" "crews") (joining "berths" "quays")
    (joining "berths" "tides") hdistinct
  exact ⟨hdistinct, htables, rfl⟩

end Query

end QueryWeave

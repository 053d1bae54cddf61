import QueryWeave.Proofs.Composer.Assembly

/-!
The grouping of a composed tree.  Main statement: `compose_groups`, grouping terms and conditions on
groups come from the base, the filters and the groupings in this order, and the conditions become
one condition or none.
-/

namespace QueryWeave

/-- A clause that says of each group what several conditions say together, with no more structure
than they need. -/
structure Combined (conditions : List Expr) (clause : Clause Expr) : Prop where
  none : conditions = [] → clause = .absent
  one : ∀ condition, conditions = [condition] → clause = .one condition
  several : 2 ≤ conditions.length → clause = .one (.conjunction conditions)
  unlisted : ∀ listed, clause ≠ .many listed
  /-- A conjunction of one condition was there before. -/
  kept : ∀ member, clause = .one (.conjunction [member]) → conditions = [.conjunction [member]]

theorem combined_ofOption_combine (conditions : List Expr) :
    Combined conditions (.ofOption (Expr.combine conditions)) := by
  match conditions with
  | [] => exact ⟨fun _ => rfl, nofun, nofun, nofun, nofun⟩
  | [condition] =>
      refine ⟨nofun, ?_, ?_, nofun, ?_⟩
      · rintro _ ⟨⟩
        rfl
      · intro htwo
        cases Nat.le_of_succ_le_succ htwo
      · rintro member ⟨⟩
        rfl
  | first :: second :: rest => exact ⟨nofun, nofun, fun _ => rfl, nofun, nofun⟩

namespace Composer

/-- The grouping terms of the tree are those of the base, of the filters and of the groupings in
order.  Their conditions are combined: none, the only one, or one conjunction of several. -/
theorem compose_groups (composer : Composer) (options : Options) (request : Request)
    (journal : Journal) (result : Query)
    (h : (composer.compose options request journal).1 = .ok result) :
    ∃ stages : Stages composer options request journal result, ∃ filters groupings conditions,
      (composer.contextOf options stages.working).filterTrees = .ok filters ∧
      stages.working.groupList.mapM (composer.contextOf options stages.working).groupPart =
        .ok groupings ∧
      stages.tree.groupTerms =
        stages.base.groupTerms ++ filters.flatMap Query.groupTerms ++
          groupings.flatMap Prod.fst ∧
      conditions =
        stages.base.havingList ++ filters.flatMap Query.havingList ++
          groupings.flatMap Prod.snd ∧
      stages.tree.havingClause = .ofOption (Expr.combine conditions) ∧
      Combined conditions stages.tree.havingClause := by
  obtain ⟨stages⟩ := exists_stages h
  obtain ⟨_, _, hfilters, hgroupings, _⟩ := Context.parts_eq_ok_iff.mp stages.parted
  refine ⟨stages, stages.parts.filters, stages.parts.groupings, _, hfilters, hgroupings, ?_, rfl, ?_⟩
  · rw [stages.tree_eq, groupTerms_treeFrom]
  · rw [stages.tree_eq, havingClause_treeFrom]
    exact ⟨rfl, combined_ofOption_combine _⟩

theorem harbor_groups :
    (harbor.compose {} visit []).1 = .ok berths ∧
    ∃ stages : Stages harbor {} visit [] berths,
      stages.tree.groupTerms = [.named "berth", .named "class", .named "flag"] ∧
      stages.tree.havingClause = .one (.conjunction [.named "several", .named "busy"]) := by
  obtain ⟨stages, filters, groupings, conditions, hfilters, hgroupings, hterms, hconditions, _,
    hcombined⟩ := compose_groups harbor {} visit [] berths harbor_composed
  have hworking : stages.working = visited :=
    Except.ok.inj (stages.prepared.symm.trans harbor_prepared)
  rw [hworking] at hfilters hgroupings
  cases hfilters
  cases hgroupings
  have hbase := Except.ok.inj stages.based
  refine ⟨harbor_composed, stages, ?_, ?_⟩
  · rw [hterms, ← hbase]
    rfl
  · rw [← hbase] at hconditions
    cases hconditions
    exact hcombined.several (Nat.le_refl 2)

end Composer

end QueryWeave

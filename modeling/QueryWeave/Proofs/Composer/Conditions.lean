import QueryWeave.Proofs.Composer.Assembly

/-!
The filter of a composed tree.  Main statement: `compose_admits_iff`, no condition is lost and none
is invented, whatever the conditions mean.
-/

namespace QueryWeave.Composer

/-- The filter of the tree holds exactly if that of the base, that of the fragment of every table,
that of the fragment of every filter, and the condition of the working request hold. -/
theorem compose_admits_iff (composer : Composer) (options : Options) (request : Request)
    (journal : Journal) (result : Query)
    (h : (composer.compose options request journal).1 = .ok result) :
    ∃ stages : Stages composer options request journal result, ∀ valuation : Expr → Prop,
      stages.tree.Admits valuation ↔
        stages.base.Admits valuation ∧
          (∀ name ∈ stages.working.tableList, ∀ fragment,
            (composer.contextOf options stages.working).find? .table name = some fragment →
              ∃ tree, fragment.apply stages.working = .ok tree ∧ tree.Admits valuation) ∧
          (∀ name ∈ Entries.keys stages.working.filters, ∀ fragment,
            (composer.contextOf options stages.working).find? .filter name = some fragment →
              ∃ tree, fragment.filterTree name stages.working = .ok tree ∧
                tree.Admits valuation) ∧
          ∀ condition, stages.working.condition? = some condition →
            condition.Holds valuation := by
  obtain ⟨stages⟩ := exists_stages h
  obtain ⟨_, htables, hfilters, _⟩ := Context.parts_eq_ok_iff.mp stages.parted
  refine ⟨stages, ?_⟩
  intro valuation
  have htables : (∀ tree ∈ stages.parts.tables, tree.Admits valuation) ↔ _ :=
    Context.forall_mem_iff_of_found (fun _ fragment => fragment.apply stages.working) htables
  have hfilters : (∀ tree ∈ stages.parts.filters, tree.Admits valuation) ↔ _ :=
    Context.forall_mem_iff_of_found (fun name fragment => fragment.filterTree name stages.working)
      hfilters
  rw [stages.tree_eq, admits_treeFrom, htables, hfilters]
  rfl

theorem harbor_admits :
    (harbor.compose {} visit []).1 = .ok berths ∧
    ∃ stages : Stages harbor {} visit [] berths, ∀ valuation : Expr → Prop,
      stages.tree.Admits valuation → valuation (.named "moored") ∧ valuation (.named "listed") := by
  obtain ⟨stages, hadmits⟩ := compose_admits_iff harbor {} visit [] berths harbor_composed
  have hworking : stages.working = visited :=
    Except.ok.inj (stages.prepared.symm.trans harbor_prepared)
  refine ⟨harbor_composed, stages, ?_⟩
  intro valuation htree
  obtain ⟨_, _, hfilters, hcondition⟩ := (hadmits valuation).mp htree
  rw [hworking] at hfilters hcondition
  obtain ⟨tree, hdefault, hmoored⟩ := hfilters defaultFilter (by decide) _ rfl
  cases hdefault
  exact ⟨hmoored _ (List.mem_singleton.mpr rfl), hcondition _ rfl⟩

end QueryWeave.Composer

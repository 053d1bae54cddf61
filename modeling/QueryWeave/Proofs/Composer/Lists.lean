import QueryWeave.Proofs.Composer.Assembly
import QueryWeave.Proofs.Composer.Failure

/-!
The columns and the order of a composed tree.  Main statement: `compose_lists`, columns and order
terms come from the base, the entries of the request and the filters, each in its place, and a sort
entry whose fragment has no order terms is refused.
-/

namespace QueryWeave.Composer

/-- Columns come from the base, the field entries and the filters; order terms from the base, the
filters and the sort entries.  The composition fails for want of order terms exactly if every step
succeeds up to such a sort entry, what the composer is given failing in that way aside. -/
theorem compose_lists (composer : Composer) (options : Options) (request : Request)
    (journal : Journal) :
    (∀ result, (composer.compose options request journal).1 = .ok result →
      ∃ stages : Stages composer options request journal result, ∃ fields filters orders,
        stages.working.fieldList.mapM (composer.contextOf options stages.working).fieldPart =
          .ok fields ∧
        (composer.contextOf options stages.working).filterTrees = .ok filters ∧
        stages.working.sortList.mapM (composer.contextOf options stages.working).orderPart =
          .ok orders ∧
        stages.tree.selectList =
          stages.base.plainColumns ++ fields.flatMap Prod.fst ++
            filters.flatMap Query.selectList ∧
        stages.tree.distinct =
          (stages.base.distinct || stages.working.distinct || fields.any Prod.snd ||
            filters.any Query.distinct) ∧
        stages.tree.orderList =
          stages.base.orderList ++ filters.flatMap Query.orderList ++ orders.flatten) ∧
    (∀ name working, composer.StopsBlank options request journal name working →
      (composer.compose options request journal).1 =
        .error (.emptyFragment (Context.key .order name) "ORDER BY")) ∧
    ∀ key clause,
      (composer.compose options request journal).1 = .error (.emptyFragment key clause) →
        composer.GivenFails options request journal (.emptyFragment key clause) ∨
          ∃ name working, composer.StopsBlank options request journal name working ∧
            key = Context.key .order name ∧ clause = "ORDER BY" := by
  refine ⟨?_, fun name working => compose_of_stopsBlank, ?_⟩
  · intro result hresult
    obtain ⟨stages⟩ := exists_stages hresult
    obtain ⟨hfields, _, hfilters, _, horders⟩ := Context.parts_eq_ok_iff.mp stages.parted
    refine ⟨stages, _, _, _, hfields, hfilters, horders, ?_⟩
    rw [stages.tree_eq]
    exact ⟨selectList_treeFrom, distinct_treeFrom, orderList_treeFrom⟩
  · intro key clause hfailed
    rcases cause_of_compose hfailed with hfinding | hgiven | ⟨name, working, hstops, hsame⟩
    · cases hfinding
    · exact Or.inl hgiven
    · cases hsame
      exact Or.inr ⟨name, working, hstops, rfl, rfl⟩

/-- An order without terms. -/
def idle : Composer where
  registry := [("orderBy:size", .ofQuery .empty .none)]

def bySize : Request where
  sorting := .one (.name "size")

theorem walk_bySize : Closure.walk idle.registry bySize = ⟨[⟨[], "orderBy:size"⟩], none⟩ := by
  cbv

theorem idle_stopsBlank : ∃ working, idle.StopsBlank {} bySize [] "size" working := by
  have hstatic : idle.registry.Static :=
    Registry.static_of_forall (by simp [idle, Fragment.ofQuery, Prerequisite.Static])
  have hprepare : (idle.prepare {} bySize []).1 = _ :=
    prepare_of_walk hstatic walk_bySize ["orderBy:size"] bySize (fun journal => by cbv) fun _ => rfl
  exact ⟨_, hprepare, ⟨_, rfl⟩, {
    fields := ⟨_, rfl⟩
    tables := ⟨_, rfl⟩
    filters := ⟨_, rfl⟩
    groupings := ⟨_, rfl⟩
    sorted := ⟨[], .name "size", [], [], rfl, rfl, rfl⟩
    blank := ⟨_, _, rfl, rfl, rfl⟩ }⟩

theorem harbor_lists :
    ((harbor.compose {} visit []).1 = .ok berths ∧
      ∃ stages : Stages harbor {} visit [] berths,
        stages.tree.selectList =
          [⟨.named "berth", none⟩, ⟨.named "gross", none⟩, ⟨.named "net", none⟩,
            ⟨.named "flag", none⟩, ⟨.named "class", none⟩] ∧
        stages.tree.distinct = true ∧
        stages.tree.orderList = [⟨.named "class", .descending⟩, ⟨.named "gross", .ascending⟩]) ∧
    (idle.compose {} bySize []).1 = .error (.emptyFragment "orderBy:size" "ORDER BY") := by
  obtain ⟨hlists, _⟩ := compose_lists harbor {} visit []
  obtain ⟨_, hblank, _⟩ := compose_lists idle {} bySize []
  obtain ⟨working, hstops⟩ := idle_stopsBlank
  obtain ⟨stages, fields, filters, orders, hfields, hfilters, horders, hselect, hdistinct, horder⟩ :=
    hlists berths harbor_composed
  have hworking : stages.working = visited :=
    Except.ok.inj (stages.prepared.symm.trans harbor_prepared)
  have hbase := Except.ok.inj stages.based
  rw [hworking] at hfields hfilters horders hdistinct
  cases hfields
  cases hfilters
  cases horders
  refine ⟨⟨harbor_composed, stages, ?_, ?_, ?_⟩, hblank "size" working hstops⟩
  · rw [hselect, ← hbase]
    rfl
  · rw [hdistinct, ← hbase]
    rfl
  · rw [horder, ← hbase]
    rfl

end QueryWeave.Composer

import QueryWeave.Proofs.Closure.Causes
import QueryWeave.Proofs.Composer.Stages
import QueryWeave.Proofs.Request.Keys

namespace QueryWeave

namespace Context

/-- A fragment that the request asks for fails. -/
inductive Fails (context : Context) (failure : Failure) : Prop
  | apply (kind : Kind) (name : String) (fragment : Fragment)
      (asked : name ∈ context.request.asked kind)
      (found : context.find? kind name = some fragment)
      (fails : fragment.apply context.request = .error failure)
  | filter (name : String) (fragment : Fragment)
      (asked : name ∈ context.request.asked .filter)
      (found : context.find? .filter name = some fragment)
      (fails : fragment.filterTree name context.request = .error failure)

/-- Every part can be made up to a sort entry whose fragment has no order terms. -/
structure EndsBlank (context : Context) (name : String) : Prop where
  fields : ∃ fields, context.request.fieldList.mapM context.fieldPart = .ok fields
  tables : ∃ tables, context.tableTrees = .ok tables
  filters : ∃ filters, context.filterTrees = .ok filters
  groupings : ∃ groupings, context.request.groupList.mapM context.groupPart = .ok groupings
  sorted : ∃ front entry back orders, context.request.sortList = front ++ entry :: back ∧
    front.mapM context.orderPart = .ok orders ∧ entry.sortName? = some name
  blank : ∃ fragment tree, context.find? .order name = some fragment ∧
    fragment.apply context.request = .ok tree ∧ tree.orderList = []

variable {context : Context} {failure : Failure}

theorem fails_of_fieldPart {entry : FieldEntry} (hentry : entry ∈ context.request.fieldList)
    (h : context.fieldPart entry = .error failure) : context.Fails failure := by
  cases entry with
  | pair table column => cases h
  | labelled table column label => cases h
  | column given => cases h
  | name name =>
      unfold fieldPart at h
      dsimp only at h
      cases hfound : context.find? .field name with
      | none =>
          rw [hfound] at h
          dsimp only at h
          split at h
          · cases h
          · cases h
      | some fragment =>
          rw [hfound] at h
          apply Fails.apply .field name fragment (List.mem_filterMap.mpr ⟨_, hentry, rfl⟩) hfound
          rw [Fragment.apply_eq_map_given, Action.map_eq_error_iff]
          exact Action.map_eq_error_iff.mp h

theorem fails_of_groupPart {entry : GroupEntry} (hentry : entry ∈ context.request.groupList)
    (h : context.groupPart entry = .error failure) : context.Fails failure := by
  cases entry with
  | grouping given => cases h
  | name name =>
      unfold groupPart at h
      dsimp only at h
      cases hfound : context.find? .group name with
      | none =>
          rw [hfound] at h
          cases h
      | some fragment =>
          rw [hfound] at h
          exact .apply .group name fragment (List.mem_filterMap.mpr ⟨_, hentry, rfl⟩) hfound
            (Action.map_eq_error_iff.mp h)

theorem orderTerms_eq_error_iff {name : String} {direction : Option Direction} :
    context.orderTerms name direction = .error failure ↔
      ∃ fragment, context.find? .order name = some fragment ∧
        (fragment.apply context.request = .error failure ∨
          ∃ tree, fragment.apply context.request = .ok tree ∧ tree.orderList = [] ∧
            failure = .emptyFragment (key .order name) "ORDER BY") := by
  unfold orderTerms
  cases context.find? .order name with
  | none => simp
  | some fragment =>
      dsimp only
      rw [Action.bind_eq_error_iff]
      simp only [Option.some.injEq, exists_eq_left']
      apply or_congr_right
      apply exists_congr
      intro tree
      apply and_congr_right
      intro _
      split
      next hnone => simp [hnone, eq_comm]
      next term hone => simp [hone]
      next terms hsome _ =>
        constructor
        · nofun
        · rintro ⟨hnone, _⟩
          exact absurd hnone hsome

theorem orderPart_eq_error_iff {entry : SortEntry} :
    context.orderPart entry = .error failure ↔
      ∃ name fragment, entry.sortName? = some name ∧
        context.find? .order name = some fragment ∧
        (fragment.apply context.request = .error failure ∨
          ∃ tree, fragment.apply context.request = .ok tree ∧ tree.orderList = [] ∧
            failure = .emptyFragment (key .order name) "ORDER BY") := by
  cases entry with
  | term given =>
      constructor
      · nofun
      · rintro ⟨_, _, ⟨⟩, _⟩
  | name name => simp [orderPart, SortEntry.sortName?, orderTerms_eq_error_iff]
  | key given => simp [orderPart, SortEntry.sortName?, orderTerms_eq_error_iff]

theorem fails_of_tableTrees (h : context.tableTrees = .error failure) :
    context.Fails failure := by
  obtain ⟨⟨name, fragment⟩, hpair, hfails⟩ := Action.exists_mem_of_mapM_error h
  obtain ⟨hname, hfound⟩ := mem_found.mp hpair
  exact .apply .table name fragment hname hfound hfails

theorem fails_of_filterTrees (h : context.filterTrees = .error failure) :
    context.Fails failure := by
  obtain ⟨⟨name, fragment⟩, hpair, hfails⟩ := Action.exists_mem_of_mapM_error h
  obtain ⟨hname, hfound⟩ := mem_found.mp hpair
  exact .filter name fragment hname hfound hfails

theorem EndsBlank.parts_eq {name : String} (h : context.EndsBlank name) :
    context.parts = .error (.emptyFragment (key .order name) "ORDER BY") := by
  obtain ⟨fields, hfields⟩ := h.fields
  obtain ⟨tables, htables⟩ := h.tables
  obtain ⟨filters, hfilters⟩ := h.filters
  obtain ⟨groupings, hgroupings⟩ := h.groupings
  obtain ⟨front, entry, back, orders, hsplit, hfront, hname⟩ := h.sorted
  obtain ⟨fragment, tree, hfound, happly, hnone⟩ := h.blank
  have horders : context.request.sortList.mapM context.orderPart =
      .error (.emptyFragment (key .order name) "ORDER BY") := by
    rw [Action.mapM_eq_error_iff]
    refine ⟨front, entry, back, orders, hsplit, hfront, ?_⟩
    rw [orderPart_eq_error_iff]
    exact ⟨name, fragment, hname, hfound, Or.inr ⟨tree, happly, hnone, rfl⟩⟩
  rw [parts, hfields, Action.ok_bind, htables, Action.ok_bind, hfilters, Action.ok_bind, hgroupings,
    Action.ok_bind, horders]
  rfl

theorem cause_of_parts (h : context.parts = .error failure) :
    context.Fails failure ∨
      ∃ name, context.EndsBlank name ∧ failure = .emptyFragment (key .order name) "ORDER BY" := by
  -- Clause by clause: the first part that cannot be made is the cause.
  rcases Action.bind_eq_error_iff.mp h with hfields | ⟨fields, hfields, h⟩
  · obtain ⟨entry, hentry, hfails⟩ := Action.exists_mem_of_mapM_error hfields
    exact Or.inl (fails_of_fieldPart hentry hfails)
  rcases Action.bind_eq_error_iff.mp h with htables | ⟨tables, htables, h⟩
  · exact Or.inl (fails_of_tableTrees htables)
  rcases Action.bind_eq_error_iff.mp h with hfilters | ⟨filters, hfilters, h⟩
  · exact Or.inl (fails_of_filterTrees hfilters)
  rcases Action.bind_eq_error_iff.mp h with hgroupings | ⟨groupings, hgroupings, h⟩
  · obtain ⟨entry, hentry, hfails⟩ := Action.exists_mem_of_mapM_error hgroupings
    exact Or.inl (fails_of_groupPart hentry hfails)
  rcases Action.bind_eq_error_iff.mp h with horders | ⟨orders, _, h⟩
  · obtain ⟨front, entry, back, earlier, hsplit, hfront, hentry⟩ :=
      Action.mapM_eq_error_iff.mp horders
    obtain ⟨name, fragment, hname, hfound, hfails | ⟨tree, happly, hnone, rfl⟩⟩ :=
      orderPart_eq_error_iff.mp hentry
    · have hasked : name ∈ context.request.asked .order := by
        apply List.mem_filterMap.mpr
        refine ⟨entry, ?_, hname⟩
        rw [hsplit]
        exact List.mem_append_right _ List.mem_cons_self
      exact Or.inl (.apply .order name fragment hasked hfound hfails)
    · exact Or.inr ⟨name, {
        fields := ⟨fields, hfields⟩
        tables := ⟨tables, htables⟩
        filters := ⟨filters, hfilters⟩
        groupings := ⟨groupings, hgroupings⟩
        sorted := ⟨front, entry, back, earlier, hsplit, hfront, hname⟩
        blank := ⟨fragment, tree, hfound, happly, hnone⟩ }, rfl⟩
  · cases h

end Context

theorem Finisher.cause_of_runAll {finishers : List Finisher} {query : Query} {failure : Failure}
    (h : runAll finishers query = .error failure) :
    ∃ front finisher back given, finishers = front ++ finisher :: back ∧
      runAll front query = .ok given ∧ finisher given = .error failure := by
  induction finishers generalizing query with
  | nil => cases h
  | cons finisher rest ih =>
      rw [runAll, List.foldlM_cons] at h
      rcases Action.bind_eq_error_iff.mp h with hfirst | ⟨next, hnext, hrest⟩
      · exact ⟨[], finisher, rest, query, rfl, rfl, hfirst⟩
      · obtain ⟨front, other, back, given, rfl, hfront, hgiven⟩ := ih hrest
        refine ⟨finisher :: front, other, back, given, rfl, ?_, hgiven⟩
        rw [runAll, List.foldlM_cons, hnext]
        exact hfront

namespace Composer

/-- What a composer is given to make queries with fails on the way of a composition. -/
inductive GivenFails (composer : Composer) (options : Options) (request : Request)
    (journal : Journal) (failure : Failure) : Prop
  | prerequisite (answers : composer.registry.Answers failure)
  | base (working : Request)
      (prepared : (composer.prepare options request journal).1 = .ok working)
      (fails : composer.base.query working = .error failure)
  | fragment (working : Request)
      (prepared : (composer.prepare options request journal).1 = .ok working)
      (fails : (composer.contextOf options working).Fails failure)
  | finisher (tree : Query) (front : List Finisher) (finisher : Finisher) (back : List Finisher)
      (given : Query)
      (unfinished : (composer.unfinished options request journal).1 = .ok tree)
      (split : composer.finishers = front ++ finisher :: back)
      (before : Finisher.runAll front tree = .ok given)
      (fails : finisher given = .error failure)

/-- Every step succeeds up to a sort entry whose fragment has no order terms. -/
structure StopsBlank (composer : Composer) (options : Options) (request : Request)
    (journal : Journal) (name : String) (working : Request) : Prop where
  prepared : (composer.prepare options request journal).1 = .ok working
  based : ∃ base, composer.base.query working = .ok base
  blank : (composer.contextOf options working).EndsBlank name

variable {composer : Composer} {options : Options} {request : Request} {journal : Journal}

theorem compose_of_stopsBlank {name : String} {working : Request}
    (h : composer.StopsBlank options request journal name working) :
    (composer.compose options request journal).1 =
      .error (.emptyFragment (Context.key .order name) "ORDER BY") := by
  obtain ⟨base, hbase⟩ := h.based
  rw [compose_outcome, unfinished_outcome, h.prepared, Action.ok_bind, hbase, Action.ok_bind,
    h.blank.parts_eq]
  rfl

/-- A composition fails because of its closure, of what it is given, or of a sort entry. -/
theorem cause_of_compose {failure : Failure}
    (h : (composer.compose options request journal).1 = .error failure) :
    Closure.Finding failure ∨ composer.GivenFails options request journal failure ∨
      ∃ name working, composer.StopsBlank options request journal name working ∧
        failure = .emptyFragment (Context.key .order name) "ORDER BY" := by
  rw [compose_outcome] at h
  rcases Action.bind_eq_error_iff.mp h with h | ⟨tree, hunfinished, hfinished⟩
  · rw [unfinished_outcome] at h
    rcases Action.bind_eq_error_iff.mp h with hprepare | ⟨working, hprepare, h⟩
    · rw [prepare_outcome, Action.map_eq_error_iff] at hprepare
      rcases Closure.cause_of_search hprepare with hfinding | hanswers
      · exact Or.inl hfinding
      · exact Or.inr (Or.inl (.prerequisite hanswers))
    rcases Action.bind_eq_error_iff.mp h with hbase | ⟨base, hbase, h⟩
    · exact Or.inr (Or.inl (.base working hprepare hbase))
    rcases Action.bind_eq_error_iff.mp h with hparts | ⟨parts, _, h⟩
    · rcases Context.cause_of_parts hparts with hfails | ⟨name, hblank, rfl⟩
      · exact Or.inr (Or.inl (.fragment working hprepare hfails))
      · exact Or.inr (Or.inr ⟨name, working, ⟨hprepare, ⟨base, hbase⟩, hblank⟩, rfl⟩)
    · cases h
  · obtain ⟨front, finisher, back, given, hsplit, hfront, hfails⟩ :=
      Finisher.cause_of_runAll hfinished
    exact Or.inr (Or.inl (.finisher tree front finisher back given hunfinished hsplit hfront hfails))

end Composer

end QueryWeave

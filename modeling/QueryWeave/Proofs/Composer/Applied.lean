import QueryWeave.Composer.Clauses
import QueryWeave.Proofs.Action
import QueryWeave.Proofs.Request.Keys
import QueryWeave.Proofs.Requirement.Graph

namespace QueryWeave.Context

/-- The fragment under a key is applied. -/
def Applies (context : Context) (key : String) : Prop :=
  key ∈ context.request.keys ∧ key ∈ Entries.keys context.registry

/-- Whatever the name lists lead to from a key is applied. -/
def NamesApplied (context : Context) (key : String) : Prop :=
  ∀ name, Relation.TransGen context.registry.Names key name → context.Applies name

/-- The outcome of a fragment where the step of a kind applies it under a name. -/
def treeOf (context : Context) (kind : Kind) (name : String) (fragment : Fragment) :
    Except Failure Query :=
  match kind with
  | .filter =>
      fragment.produce (Datum.member context.request.filters name) context.request
  | _ => fragment.apply context.request

variable {context : Context} {name : String} {fragment : Fragment} {base result : Query}
  {journal left : Journal}

theorem tree_of_columnsOf {columns : List ResultColumn × Bool}
    (hfound : context.find? .field name = some fragment)
    (h : context.columnsOf (.name name) journal = (.ok columns, left)) :
    ∃ tree, context.treeOf .field name fragment = .ok tree := by
  unfold columnsOf at h
  dsimp only at h
  rw [hfound] at h
  exact Action.liftExcept_ok_inv h

theorem tree_of_addFields (h : context.addFields base journal = (.ok result, left))
    (hasked : name ∈ context.request.asked .field)
    (hfound : context.find? .field name = some fragment) :
    ∃ tree, context.treeOf .field name fragment = .ok tree := by
  have hentry := Request.mem_asked_field.mp hasked
  obtain ⟨first, rest, hlist⟩ := List.exists_cons_of_ne_nil (List.ne_nil_of_mem hentry)
  unfold addFields at h
  rw [hlist] at h hentry
  obtain ⟨parts, middle, hparts, _⟩ := Action.bind_ok_inv h
  obtain ⟨before, columns, after, hcolumns⟩ := Action.mapM_ok_inv hparts hentry
  exact tree_of_columnsOf hfound hcolumns

theorem tree_of_addTables (h : context.addTables base journal = (.ok result, left))
    (hasked : name ∈ context.request.asked .table)
    (hfound : context.find? .table name = some fragment) :
    ∃ tree, context.treeOf .table name fragment = .ok tree := by
  obtain ⟨held, before, next, after, hstep⟩ := Action.foldlM_ok_inv h hasked
  unfold addTable at hstep
  rw [hfound] at hstep
  exact Action.liftExcept_ok_inv hstep

theorem tree_of_addFilters (h : context.addFilters base journal = (.ok result, left))
    (hasked : name ∈ context.request.asked .filter)
    (hfound : context.find? .filter name = some fragment) :
    ∃ tree, context.treeOf .filter name fragment = .ok tree := by
  obtain ⟨held, before, next, after, hstep⟩ := Action.foldlM_ok_inv h hasked
  unfold addFilter at hstep
  rw [show Entries.get? context.registry name = some fragment from hfound] at hstep
  obtain ⟨filled, middle, hfilled, _⟩ := Action.bind_ok_inv hstep
  exact Action.liftExcept_ok_inv hfilled

theorem tree_of_addGroupings (h : context.addGroupings base journal = (.ok result, left))
    (hasked : name ∈ context.request.asked .group)
    (hfound : context.find? .group name = some fragment) :
    ∃ tree, context.treeOf .group name fragment = .ok tree := by
  have hentry := Request.mem_asked_group.mp hasked
  obtain ⟨first, rest, hlist⟩ := List.exists_cons_of_ne_nil (List.ne_nil_of_mem hentry)
  unfold addGroupings at h
  rw [hlist] at h hentry
  obtain ⟨parts, middle, hparts, _⟩ := Action.bind_ok_inv h
  obtain ⟨before, terms, after, hterms⟩ := Action.mapM_ok_inv hparts hentry
  unfold groupingOf at hterms
  dsimp only at hterms
  rw [hfound] at hterms
  exact Action.liftExcept_ok_inv hterms

theorem tree_of_orderBy {direction : Option Direction} {terms : List OrderTerm}
    (hfound : context.find? .order name = some fragment)
    (h : context.orderBy name direction journal = (.ok terms, left)) :
    ∃ tree, context.treeOf .order name fragment = .ok tree := by
  unfold orderBy at h
  rw [hfound] at h
  exact Action.liftExcept_ok_inv h

theorem tree_of_addOrder (h : context.addOrder base journal = (.ok result, left))
    (hasked : name ∈ context.request.asked .order)
    (hfound : context.find? .order name = some fragment) :
    ∃ tree, context.treeOf .order name fragment = .ok tree := by
  obtain ⟨entry, hentry, hname⟩ := List.mem_filterMap.mp hasked
  obtain ⟨first, rest, hlist⟩ := List.exists_cons_of_ne_nil (List.ne_nil_of_mem hentry)
  unfold addOrder at h
  rw [hlist] at h hentry
  obtain ⟨parts, middle, hparts, _⟩ := Action.bind_ok_inv h
  obtain ⟨before, terms, after, hterms⟩ := Action.mapM_ok_inv hparts hentry
  cases entry with
  | name given =>
      cases hname
      exact tree_of_orderBy hfound hterms
  | key given =>
      cases hname
      exact tree_of_orderBy hfound hterms
  | term given => cases hname

/-- When the clause steps succeed, so has every fragment that they apply. -/
theorem tree_of_addClauses (h : context.addClauses base journal = (.ok result, left)) {kind : Kind}
    (hasked : name ∈ context.request.asked kind)
    (hfound : context.find? kind name = some fragment) :
    ∃ tree, context.treeOf kind name fragment = .ok tree := by
  obtain ⟨withFields, _, hfields, h⟩ := Action.bind_ok_inv h
  obtain ⟨withTables, _, htables, h⟩ := Action.bind_ok_inv h
  obtain ⟨withFilters, _, hfilters, h⟩ := Action.bind_ok_inv h
  obtain ⟨withGroups, _, hgroups, horder⟩ := Action.bind_ok_inv h
  cases kind with
  | field => exact tree_of_addFields hfields hasked hfound
  | table => exact tree_of_addTables htables hasked hfound
  | filter => exact tree_of_addFilters hfilters hasked hfound
  | group => exact tree_of_addGroupings hgroups hasked hfound
  | order => exact tree_of_addOrder horder hasked hfound

theorem exists_tree_of_applies (h : context.addClauses base journal = (.ok result, left))
    {key : String} (happlies : context.Applies key) :
    ∃ kind, ∃ name ∈ context.request.asked kind, (Key.mk kind name).render = key ∧
      ∃ fragment tree, context.find? kind name = some fragment ∧
        context.treeOf kind name fragment = .ok tree := by
  obtain ⟨hnamed, hregistered⟩ := happlies
  obtain ⟨kind, name, hasked, rfl⟩ := Request.mem_keys.mp hnamed
  obtain ⟨fragment, hfound⟩ := Entries.exists_get?_of_mem_keys hregistered
  obtain ⟨tree, htree⟩ := tree_of_addClauses h hasked hfound
  exact ⟨kind, name, hasked, rfl, fragment, tree, hfound, htree⟩

section OtherRegistry

variable {registry : Registry}
  (hsame : ∀ key ∈ context.request.keys,
    Entries.get? registry key = Entries.get? context.registry key)

include hsame

theorem find?_congr (kind : Kind) (hasked : name ∈ context.request.asked kind) :
    ({ context with registry } : Context).find? kind name = context.find? kind name :=
  hsame _ (Request.mem_keys.mpr ⟨kind, name, hasked, rfl⟩)

theorem addFields_congr (base : Query) :
    ({ context with registry } : Context).addFields base = context.addFields base := by
  have hstep : ∀ entry ∈ context.request.fieldList,
      ({ context with registry } : Context).columnsOf entry = context.columnsOf entry := by
    intro entry hentry
    cases entry with
    | name given =>
        have hasked : given ∈ context.request.asked .field :=
          List.mem_filterMap.mpr ⟨_, hentry, rfl⟩
        unfold columnsOf
        dsimp only
        rw [find?_congr hsame _ hasked]
    | pair table column => rfl
    | labelled table column label => rfl
    | column given => rfl
  unfold addFields
  cases hlist : context.request.fieldList with
  | nil => rfl
  | cons first rest =>
      rw [hlist] at hstep
      dsimp only
      rw [Action.mapM_congr hstep]

theorem addTables_congr (base : Query) :
    ({ context with registry } : Context).addTables base = context.addTables base := by
  apply Action.foldlM_congr
  intro held name hasked
  have hfound := find?_congr hsame .table hasked
  unfold addTable
  rw [hfound]

theorem addFilters_congr (base : Query) :
    ({ context with registry } : Context).addFilters base = context.addFilters base := by
  apply Action.foldlM_congr
  intro held name hasked
  have hfound : Entries.get? registry name = Entries.get? context.registry name :=
    find?_congr hsame .filter hasked
  unfold addFilter
  dsimp only
  rw [hfound]

theorem addGroupings_congr (base : Query) :
    ({ context with registry } : Context).addGroupings base = context.addGroupings base := by
  have hstep : ∀ entry ∈ context.request.groupList,
      ({ context with registry } : Context).groupingOf entry = context.groupingOf entry := by
    intro entry hentry
    cases entry with
    | name given =>
        have hasked : given ∈ context.request.asked .group :=
          List.mem_filterMap.mpr ⟨_, hentry, rfl⟩
        unfold groupingOf
        dsimp only
        rw [find?_congr hsame _ hasked]
    | grouping given => rfl
  unfold addGroupings
  cases hlist : context.request.groupList with
  | nil => rfl
  | cons first rest =>
      rw [hlist] at hstep
      dsimp only
      rw [Action.mapM_congr hstep]

theorem orderBy_congr (hasked : name ∈ context.request.asked .order)
    (direction : Option Direction) :
    ({ context with registry } : Context).orderBy name direction =
      context.orderBy name direction := by
  unfold orderBy
  rw [find?_congr hsame _ hasked]

theorem addOrder_congr (base : Query) :
    ({ context with registry } : Context).addOrder base = context.addOrder base := by
  have hstep : ∀ entry ∈ context.request.sortList,
      ({ context with registry } : Context).orderOf entry = context.orderOf entry := by
    intro entry hentry
    cases entry with
    | name given => exact orderBy_congr hsame (List.mem_filterMap.mpr ⟨_, hentry, rfl⟩) _
    | key given => exact orderBy_congr hsame (List.mem_filterMap.mpr ⟨_, hentry, rfl⟩) _
    | term given => rfl
  unfold addOrder
  cases hlist : context.request.sortList with
  | nil => rfl
  | cons first rest =>
      rw [hlist] at hstep
      dsimp only
      rw [Action.mapM_congr hstep]

/-- The clause steps depend on no fragment but those under the keys that the request names. -/
theorem addClauses_congr (base : Query) :
    ({ context with registry } : Context).addClauses base = context.addClauses base := by
  unfold addClauses
  rw [addFields_congr hsame]
  simp only [addTables_congr hsame, addFilters_congr hsame, addGroupings_congr hsame,
    addOrder_congr hsame]
  rfl

end OtherRegistry

end QueryWeave.Context

import QueryWeave.Composer.Clauses
import QueryWeave.Proofs.Action.Outcome
import QueryWeave.Proofs.Tree.Merge

/-!
What each entry of a working request contributes to a query, and the query put together from that.
Main statement: `addClauses_yields`, the clause steps make all parts first and then assemble them.
-/

namespace QueryWeave

/-- What the source of a fragment gives for a request, unqualified `*` columns included. -/
def Fragment.given (fragment : Fragment) (request : Request) : Except Failure Query :=
  match fragment.recipe with
  | .fixed query => .ok query
  | .unusable => .error .malformed
  | .computed ofRequest _ => ofRequest fragment.catalogue request

def Fragment.filterTree (fragment : Fragment) (name : String) (request : Request) :
    Except Failure Query := do
  let bound := Datum.member request.filters name
  let query ← fragment.produce bound request
  let pairs ← fragment.bindings (fragment.effectiveValue bound) 0 query.placeholders
  return query.fill (pairs.map Prod.snd)

theorem Fragment.apply_eq_map_given (fragment : Fragment) (request : Request) :
    fragment.apply request = (fragment.given request).map Query.withoutWildcard := by
  rw [apply, given]
  cases fragment.recipe with
  | fixed query => rfl
  | unusable => rfl
  | computed ofRequest ofBound => rfl

theorem Fragment.applyFilter_yields (fragment : Fragment) (name : String) (request : Request) :
    (fragment.applyFilter name request).Yields (fragment.filterTree name request) := by
  apply (Action.yields_liftExcept _).bind
  intro query _
  apply (Action.yields_liftExcept _).bind
  intro pairs _
  exact (Action.yields_pure _).modify_bind _

namespace Query

/-- What is used of the tree of a table fragment. -/
def tablePart (tree : Query) : Query :=
  { Query.empty with tables := tree.tables, filter := tree.filter }

def withFields (base : Query) (parts : List (List ResultColumn × Bool)) : Query :=
  { base with
    select :=
      match parts with
      | [] => base.select
      | parts => .ofNonempty (base.selectList ++ parts.flatMap Prod.fst)
    distinct := base.distinct || parts.any Prod.snd }

def withGroupings (base : Query) (parts : List (List Expr × List Expr)) : Query :=
  { base with
    group :=
      match parts with
      | [] => base.group
      | parts =>
          .by ⟨.many (base.groupTerms ++ parts.flatMap Prod.fst),
            .ofOption (Expr.combine (base.havingList ++ parts.flatMap Prod.snd))⟩ }

def withOrder (base : Query) (parts : List (List OrderTerm)) : Query :=
  { base with
    order :=
      match parts with
      | [] => base.order
      | parts => .many (base.orderList ++ parts.flatten) }

theorem withFields_nil (base : Query) : base.withFields [] = base := by
  cases base
  simp [withFields]

theorem withGroupings_nil (base : Query) : base.withGroupings [] = base := by
  cases base
  rfl

theorem withOrder_nil (base : Query) : base.withOrder [] = base := by
  cases base
  rfl

end Query

namespace Context

variable (context : Context)

/-- The fragments of a kind that names lead to, in order, each with its name. -/
def found (kind : Kind) (names : List String) : List (String × Fragment) :=
  names.filterMap fun name => (context.find? kind name).map (name, ·)

/-- The columns of a field entry, and whether it makes the query distinct. -/
def fieldPart : FieldEntry → Except Failure (List ResultColumn × Bool)
  | .name name =>
      match context.find? .field name with
      | some fragment => (fragment.given context.request).map fun tree =>
          (tree.plainColumns, tree.distinct)
      | none =>
          if context.options.skipUnregistered.holds then .ok ([], false)
          else .ok ([⟨.named name, none⟩], false)
  | .pair table column => .ok ([⟨.column (some table) column, none⟩], false)
  | .labelled table column label => .ok ([⟨.column (some table) column, label⟩], false)
  | .column given => .ok ([given], false)

/-- The grouping terms and the conditions on groups of a grouping entry. -/
def groupPart : GroupEntry → Except Failure (List Expr × List Expr)
  | .grouping given => .ok (given.termList, given.havingList)
  | .name name =>
      match context.find? .group name with
      | some fragment => (fragment.apply context.request).map fun tree =>
          (tree.groupTerms, tree.havingList)
      | none => .ok ([.named name], [])

/-- The order terms that a name stands for.  A direction goes to a fragment's only term. -/
def orderTerms (name : String) (direction : Option Direction) :
    Except Failure (List OrderTerm) :=
  match context.find? .order name with
  | some fragment => do
      match (← fragment.apply context.request).orderList with
      | [] => .error (.emptyFragment (key .order name) "ORDER BY")
      | [term] => .ok [{ term with direction := direction.getD term.direction }]
      | terms => .ok terms
  | none => .ok [⟨.named name, direction.getD .ascending⟩]

def orderPart : SortEntry → Except Failure (List OrderTerm)
  | .name name => context.orderTerms name none
  | .key given => context.orderTerms given.key given.direction
  | .term given => .ok [given]

/-- What the entries of a request contribute, clause by clause. -/
structure Parts where
  fields : List (List ResultColumn × Bool)
  tables : List Query
  filters : List Query
  groupings : List (List Expr × List Expr)
  orders : List (List OrderTerm)

def tableTrees : Except Failure (List Query) :=
  (context.found .table context.request.tableList).mapM fun pair =>
    pair.2.apply context.request

def filterTrees : Except Failure (List Query) :=
  (context.found .filter (Entries.keys context.request.filters)).mapM fun pair =>
    pair.2.filterTree pair.1 context.request

def parts : Except Failure Parts := do
  let fields ← context.request.fieldList.mapM context.fieldPart
  let tables ← context.tableTrees
  let filters ← context.filterTrees
  let groupings ← context.request.groupList.mapM context.groupPart
  let orders ← context.request.sortList.mapM context.orderPart
  return { fields, tables, filters, groupings, orders }

def assemble (base : Query) (parts : Parts) : Query :=
  let query := (parts.tables.map Query.tablePart).foldl Query.merge (base.withFields parts.fields)
  let query := context.addCondition (parts.filters.foldl Query.merge query)
  (query.withGroupings parts.groupings).withOrder parts.orders

variable {context}

theorem mem_found {kind : Kind} {names : List String} {name : String} {fragment : Fragment} :
    (name, fragment) ∈ context.found kind names ↔
      name ∈ names ∧ context.find? kind name = some fragment := by
  simp [found, List.mem_filterMap, Option.map_eq_some_iff]

theorem forall_mem_iff_of_found {kind : Kind} {names : List String}
    (make : String → Fragment → Except Failure Query) {trees : List Query}
    (h : ((context.found kind names).mapM fun pair => make pair.1 pair.2) = .ok trees)
    {property : Query → Prop} :
    (∀ tree ∈ trees, property tree) ↔
      ∀ name ∈ names, ∀ fragment, context.find? kind name = some fragment →
        ∃ tree, make name fragment = .ok tree ∧ property tree := by
  rw [Action.forall_mem_iff_of_mapM h]
  constructor
  · intro hall name hname fragment hfound
    exact hall (name, fragment) (mem_found.mpr ⟨hname, hfound⟩)
  · rintro hall ⟨name, fragment⟩ hpair
    obtain ⟨hname, hfound⟩ := mem_found.mp hpair
    exact hall name hname fragment hfound

theorem parts_eq_ok_iff {parts : Parts} :
    context.parts = .ok parts ↔
      context.request.fieldList.mapM context.fieldPart = .ok parts.fields ∧
        context.tableTrees = .ok parts.tables ∧ context.filterTrees = .ok parts.filters ∧
          context.request.groupList.mapM context.groupPart = .ok parts.groupings ∧
            context.request.sortList.mapM context.orderPart = .ok parts.orders := by
  simp only [Context.parts, Action.bind_eq_ok_iff]
  constructor
  · rintro ⟨fields, hfields, tables, htables, filters, hfilters, groupings, hgroupings, orders,
      horders, ⟨⟩⟩
    exact ⟨hfields, htables, hfilters, hgroupings, horders⟩
  · rintro ⟨hfields, htables, hfilters, hgroupings, horders⟩
    exact ⟨_, hfields, _, htables, _, hfilters, _, hgroupings, _, horders, rfl⟩

theorem columnsOf_yields (entry : FieldEntry) :
    (context.columnsOf entry).Yields (context.fieldPart entry) := by
  cases entry with
  | pair table column => exact Action.yields_pure _
  | labelled table column label => exact Action.yields_pure _
  | column given => exact Action.yields_pure _
  | name name =>
      unfold columnsOf fieldPart
      dsimp only
      cases context.find? .field name with
      | none =>
          dsimp only
          split
          · exact Action.yields_pure _
          · exact Action.yields_pure _
      | some fragment =>
          have happly : ((fragment.given context.request).map fun tree =>
              (tree.plainColumns, tree.distinct)) =
              (fragment.apply context.request).map fun tree =>
                (tree.selectList, tree.distinct) := by
            rw [Fragment.apply_eq_map_given]
            cases fragment.given context.request with
            | error failure => rfl
            | ok tree =>
                change Except.ok _ = Except.ok (tree.withoutWildcard.selectList, tree.distinct)
                rw [Query.selectList_withoutWildcard]
          dsimp only
          rw [happly]
          apply (Action.yields_liftExcept _).bind_map
          intro tree _
          split
          · exact (Action.yields_pure _).modify_bind _
          · exact Action.yields_pure _

theorem groupingOf_yields (entry : GroupEntry) :
    (context.groupingOf entry).Yields (context.groupPart entry) := by
  cases entry with
  | grouping given => exact Action.yields_pure _
  | name name =>
      unfold groupingOf groupPart
      dsimp only
      cases context.find? .group name with
      | none => exact Action.yields_pure _
      | some fragment =>
          apply (Action.yields_liftExcept _).bind_map
          intro tree _
          split
          · exact (Action.yields_pure _).modify_bind _
          · exact (Action.yields_pure _).modify_bind _

theorem orderBy_yields (name : String) (direction : Option Direction) :
    (context.orderBy name direction).Yields (context.orderTerms name direction) := by
  unfold orderBy orderTerms
  cases context.find? .order name with
  | none => exact Action.yields_pure _
  | some fragment =>
      apply (Action.yields_liftExcept _).bind
      intro tree _
      match tree.orderList, direction with
      | [], _ => exact Action.yields_throw _
      | [⟨_, _⟩], none => exact (Action.yields_pure _).modify_bind _
      | [_], some _ => exact (Action.yields_pure _).modify_bind _
      | _ :: _ :: _, none => exact (Action.yields_pure _).modify_bind _
      | _ :: _ :: _, some _ => exact (Action.yields_pure _).modify_bind _

theorem orderOf_yields (entry : SortEntry) :
    (context.orderOf entry).Yields (context.orderPart entry) := by
  cases entry with
  | name name => exact orderBy_yields name none
  | key given => exact orderBy_yields given.key given.direction
  | term given => exact Action.yields_pure _

variable (context)

theorem foldlM_merge_yields (kind : Kind) (step : Query → String → Journaled Query)
    (make : String → Fragment → Except Failure Query) (part : Query → Query)
    (hnone : ∀ base name, context.find? kind name = none → step base name = pure base)
    (hsome : ∀ base name fragment, context.find? kind name = some fragment →
      (step base name).Yields ((make name fragment).map fun tree => base.merge (part tree)))
    (names : List String) (base : Query) :
    (names.foldlM step base).Yields
      (((context.found kind names).mapM fun pair => make pair.1 pair.2).map fun trees =>
        (trees.map part).foldl Query.merge base) := by
  induction names generalizing base with
  | nil => exact Action.yields_pure base
  | cons name rest ih =>
      rw [List.foldlM_cons]
      cases hfound : context.find? kind name with
      | none =>
          -- A name without a fragment leaves no tree and no step behind.
          have hrest : context.found kind (name :: rest) = context.found kind rest := by
            simp [found, hfound]
          rw [hnone base name hfound, pure_bind, hrest]
          exact ih base
      | some fragment =>
          have hrest : context.found kind (name :: rest) =
              (name, fragment) :: context.found kind rest := by
            simp [found, hfound]
          rw [hrest, List.mapM_cons]
          have hstep := (hsome base name fragment hfound).bind fun query _ => ih query
          cases htree : make name fragment with
          | error failure =>
              rw [htree] at hstep
              exact hstep
          | ok tree =>
              rw [htree] at hstep
              cases htrees : (context.found kind rest).mapM fun pair => make pair.1 pair.2 with
              | error failure =>
                  rw [htrees] at hstep
                  exact hstep
              | ok trees =>
                  rw [htrees] at hstep
                  exact hstep

theorem addTables_yields (base : Query) :
    (context.addTables base).Yields (context.tableTrees.map fun trees =>
      (trees.map Query.tablePart).foldl Query.merge base) := by
  refine context.foldlM_merge_yields .table context.addTable
    (fun _ fragment => fragment.apply context.request) Query.tablePart ?_ ?_ _ base
  · intro base name hfound
    unfold addTable
    rw [hfound]
  · intro base name fragment hfound
    unfold addTable
    rw [hfound]
    apply (Action.yields_liftExcept _).bind_map
    intro tree _
    exact (Action.yields_pure _).modify_bind _

theorem addFilters_yields (base : Query) :
    (context.addFilters base).Yields (context.filterTrees.map fun trees =>
      trees.foldl Query.merge base) := by
  have hfold := context.foldlM_merge_yields .filter context.addFilter
    (fun name fragment => fragment.filterTree name context.request) id ?_ ?_
    (Entries.keys context.request.filters) base
  · simp only [List.map_id] at hfold
    exact hfold
  · intro base name hfound
    have hget : Entries.get? context.registry name = none := hfound
    unfold addFilter
    rw [hget]
  · intro base name fragment hfound
    have hget : Entries.get? context.registry name = some fragment := hfound
    unfold addFilter
    rw [hget]
    apply (fragment.applyFilter_yields name context.request).bind_map
    intro tree _
    exact Action.yields_pure _

theorem addFields_yields (base : Query) :
    (context.addFields base).Yields
      ((context.request.fieldList.mapM context.fieldPart).map base.withFields) := by
  unfold addFields
  cases hlist : context.request.fieldList with
  | nil =>
      change Action.Yields (pure base) (.ok (base.withFields []))
      rw [Query.withFields_nil]
      exact Action.yields_pure base
  | cons first rest =>
      apply Action.Yields.mapM_cons_bind columnsOf_yields
      intro part parts
      exact Action.yields_pure _

theorem addGroupings_yields (base : Query) :
    (context.addGroupings base).Yields
      ((context.request.groupList.mapM context.groupPart).map base.withGroupings) := by
  unfold addGroupings
  cases hlist : context.request.groupList with
  | nil =>
      change Action.Yields (pure base) (.ok (base.withGroupings []))
      rw [Query.withGroupings_nil]
      exact Action.yields_pure base
  | cons first rest =>
      apply Action.Yields.mapM_cons_bind groupingOf_yields
      intro part parts
      exact Action.yields_pure _

theorem addOrder_yields (base : Query) :
    (context.addOrder base).Yields
      ((context.request.sortList.mapM context.orderPart).map base.withOrder) := by
  unfold addOrder
  cases hlist : context.request.sortList with
  | nil =>
      change Action.Yields (pure base) (.ok (base.withOrder []))
      rw [Query.withOrder_nil]
      exact Action.yields_pure base
  | cons first rest =>
      apply Action.Yields.mapM_cons_bind orderOf_yields
      intro part parts
      exact Action.yields_pure _

/-- The clause steps make all parts first and then put them together. -/
theorem addClauses_yields (base : Query) :
    (context.addClauses base).Yields (context.parts.map (context.assemble base)) := by
  have hsteps := (context.addFields_yields base).bind fun query _ =>
    (context.addTables_yields query).bind fun query _ =>
      (context.addFilters_yields query).bind fun query _ =>
        (context.addGroupings_yields (context.addCondition query)).bind fun query _ =>
          context.addOrder_yields query
  intro state
  refine (hsteps state).trans ?_
  unfold parts assemble
  cases context.request.fieldList.mapM context.fieldPart with
  | error failure => rfl
  | ok fields =>
      cases context.tableTrees with
      | error failure => rfl
      | ok tables =>
          cases context.filterTrees with
          | error failure => rfl
          | ok filters =>
              cases context.request.groupList.mapM context.groupPart with
              | error failure => rfl
              | ok groupings =>
                  cases context.request.sortList.mapM context.orderPart with
                  | error failure => rfl
                  | ok orders => rfl

end Context

end QueryWeave

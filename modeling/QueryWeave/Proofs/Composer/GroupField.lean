import QueryWeave.Proofs.Closure.Covers
import QueryWeave.Proofs.Composer.Assembly
import QueryWeave.Proofs.Composer.Prerequisites
import QueryWeave.Proofs.Registry

/-!
A field and a grouping that share an expression.  Main statement: `compose_groupField`, the two
agree on the label of the column whatever the closure, patches and prerequisites have made of the
request.
-/

namespace QueryWeave

namespace GroupField

def computedBy (expression : Draft) : Computed :=
  fun catalogue argument => (expression.resolveExpr argument catalogue).map Prod.fst

/-- A labelled column as a fragment gives it: an unqualified `*` is left out. -/
def shown (value : Expr) (label : String) : List ResultColumn :=
  if value.isWildcard then [] else [⟨value, some label⟩]

theorem plainColumns_labelled (value : Expr) (label : String) :
    { Query.empty with select := .many [⟨value, some label⟩] }.plainColumns = shown value label := by
  have hlist : { Query.empty with select := .many [⟨value, some label⟩] }.selectList =
      [⟨value, some label⟩] := rfl
  rw [Query.plainColumns, hlist, List.filter_singleton, shown]
  cases value.isWildcard with
  | false => rfl
  | true => rfl

variable {name label : String} {resolve : Computed} {request : Request} {fragment : Fragment}

theorem grouped_iff :
    grouped name request = true ↔ name ∈ request.asked .field ∧ name ∈ request.asked .group := by
  rw [grouped, Bool.and_eq_true, any_name?_iff, any_name?_iff]
  rfl

theorem columns_of_column (h : fragment.recipe = column name label resolve) :
    ((fragment.given request).map fun tree => (tree.plainColumns, tree.distinct)) =
      (resolve fragment.catalogue (.request request)).map fun value =>
        (shown value (if grouped name request then label else name), false) := by
  rw [Fragment.given, h, column]
  dsimp only
  cases resolve fragment.catalogue (.request request) with
  | error failure => rfl
  | ok value =>
      change Except.ok (Query.plainColumns _, false) = _
      rw [plainColumns_labelled]
      rfl

theorem terms_of_grouping (h : fragment.recipe = grouping name label resolve) :
    ((fragment.apply request).map fun tree => (tree.groupTerms, tree.havingList)) =
      if grouped name request then .ok ([.named label], [])
      else (resolve fragment.catalogue (.request request)).map fun value => ([value], []) := by
  rw [Fragment.apply, h, grouping]
  dsimp only
  split
  · rfl
  · cases resolve fragment.catalogue (.request request) with
    | error failure => rfl
    | ok value => rfl

end GroupField

namespace Registry

variable {registry : Registry} {name labelStart : String} {expression : Draft}
  {catalogue : Catalogue}

/-- The field and the grouping under a name are what one call has registered for an expression, with
whatever slots they have been given since and the expressions that they can look up. -/
def PairedBy (registry : Registry) (name labelStart : String) (expression : Draft)
    (catalogue : Catalogue) : Prop :=
  ∃ prerequisite overwrite before after,
    registerGroupField (.text name) expression labelStart prerequisite overwrite before =
      (.ok (), after) ∧
    ∀ kind ∈ [Kind.field, .group], ∃ fragment slots,
      Entries.get? after.registry (Key.mk kind name).render = some fragment ∧
      Entries.get? registry (Key.mk kind name).render = some { fragment with slots, catalogue }

theorem registerWith_ok_inv {kind : Kind} {overwrite : Bool} {fragment : Fragment} {key : String}
    {before after : Shelf}
    (h : registerWith kind (.text name) overwrite (.ok fragment) before = (.ok key, after)) :
    after.registry = Entries.put before.registry (Key.mk kind name).render fragment := by
  have hleaves : leaves (registerWith kind (.text name) overwrite (.ok fragment)) before =
      (.ok (), after.registry) := by
    rw [leaves, h]
    rfl
  rw [leaves_registerWith] at hleaves
  cases hname : nameOf (.text name) with
  | error failure =>
      rw [hname] at hleaves
      cases hleaves
  | ok given =>
      cases (nameOf_eq_ok_iff.mp hname).1
      rw [hname] at hleaves
      dsimp only at hleaves
      split at hleaves
      · cases hleaves
      · exact (congrArg Prod.snd hleaves).symm

theorem PairedBy.recipes (h : registry.PairedBy name labelStart expression catalogue) :
    (∃ fragment, Entries.get? registry (Key.mk .field name).render = some fragment ∧
      fragment.recipe =
        GroupField.column name (labelStart ++ name) (GroupField.computedBy expression) ∧
      fragment.catalogue = catalogue) ∧
    ∃ fragment, Entries.get? registry (Key.mk .group name).render = some fragment ∧
      fragment.recipe =
        GroupField.grouping name (labelStart ++ name) (GroupField.computedBy expression) ∧
      fragment.catalogue = catalogue := by
  obtain ⟨prerequisite, overwrite, before, after, hregistered, hheld⟩ := h
  obtain ⟨_, middle, hfield, hregistered⟩ := Action.bind_ok_inv hregistered
  obtain ⟨_, last, hgroup, hregistered⟩ := Action.bind_ok_inv hregistered
  cases hregistered
  have hne : (Key.mk .group name).render ≠ (Key.mk .field name).render := by
    intro hsame
    have hparsed := congrArg Key.parse hsame
    rw [Key.parse_render (by decide), Key.parse_render (by decide)] at hparsed
    cases hparsed
  constructor
  · obtain ⟨fragment, slots, hmade, hfound⟩ := hheld .field List.mem_cons_self
    rw [registerWith_ok_inv hgroup, Entries.get?_put_of_ne _ _ hne, registerWith_ok_inv hfield,
      Entries.get?_put_self] at hmade
    cases hmade
    exact ⟨_, hfound, rfl, rfl⟩
  · obtain ⟨fragment, slots, hmade, hfound⟩ := hheld .group (List.mem_cons_of_mem _ List.mem_cons_self)
    rw [registerWith_ok_inv hgroup, Entries.get?_put_self] at hmade
    cases hmade
    exact ⟨_, hfound, rfl, rfl⟩

end Registry

namespace Context

variable {context : Context} {name labelStart : String} {expression : Draft}
  {catalogue : Catalogue}
  (hpair : context.registry.PairedBy name labelStart expression catalogue)

include hpair

theorem fieldPart_paired : context.fieldPart (.name name) =
    (GroupField.computedBy expression catalogue (.request context.request)).map fun value =>
      (GroupField.shown value
        (if GroupField.grouped name context.request then labelStart ++ name else name), false) := by
  obtain ⟨⟨fragment, hfound, hrecipe, rfl⟩, _⟩ := hpair.recipes
  have hfragment : context.find? .field name = some fragment := hfound
  rw [fieldPart, hfragment]
  exact GroupField.columns_of_column hrecipe

theorem groupPart_paired : context.groupPart (.name name) =
    if GroupField.grouped name context.request then .ok ([.named (labelStart ++ name)], [])
    else (GroupField.computedBy expression catalogue (.request context.request)).map fun value =>
      ([value], []) := by
  obtain ⟨_, fragment, hfound, hrecipe, rfl⟩ := hpair.recipes
  have hfragment : context.find? .group name = some fragment := hfound
  rw [groupPart, hfragment]
  exact GroupField.terms_of_grouping hrecipe

end Context

namespace Composer

variable {composer : Composer} {options : Options} {request working : Request} {journal : Journal}

/-- Of the kinds that mark their keys, the working request asks for every fragment that is applied;
a filter that goes by such a key is no exception. -/
theorem asked_of_applies (hprepare : (composer.prepare options request journal).1 = .ok working)
    {kind : Kind} (hkind : kind ≠ .filter) {name : String}
    (happlies : (composer.contextOf options working).Applies (Context.key kind name)) :
    name ∈ working.asked kind := by
  obtain ⟨hnamed, hregistered⟩ := happlies
  change (Key.mk kind name).render ∈ working.keys at hnamed
  change (Key.mk kind name).render ∈ Entries.keys composer.registry at hregistered
  obtain ⟨keys, left, hsearch, rfl⟩ := prepare_ok_inv hprepare
  obtain ⟨hclosed, hknown⟩ := Closure.covers_search rfl hsearch
  have hfilters : ∀ name ∈ Closure.namesOf .filter keys, name ∈ Entries.keys composer.registry :=
    fun name hname => hknown name (Closure.mem_of_mem_namesOf_filter hname)
  have hkey : (Key.mk kind name).render ∈ keys := by
    rcases mem_keys_withDefaultFilter.mp hnamed with hwritten | ⟨_, hdefault⟩
    · rcases (Closure.mem_keys_writeBack hfilters).mp hwritten with hleft | hkey
      · exact hclosed _ hleft hregistered
      · exact hkey
    · -- The default filter goes by a bare name, which is read as that of a filter.
      have hparsed := congrArg Key.parse hdefault
      have hfilter : Key.parse defaultFilter = ⟨.filter, defaultFilter⟩ := by decide
      rw [Key.parse_render hkind, hfilter] at hparsed
      exact absurd (congrArg Key.kind hparsed) hkind
  have hname : name ∈ Closure.namesOf kind keys :=
    Closure.mem_namesOf.mpr ⟨_, hkey, Key.parse_render hkind name⟩
  exact mem_asked_withDefaultFilter.mpr
    (.inl ((Closure.mem_asked_writeBack hfilters).mpr (.inr hname)))

section Pair

variable {name labelStart : String} {expression : Draft} {catalogue : Catalogue} {result : Query}

/-- The entry of a name contributes these columns, and the tree has them. -/
def Stages.Shows (stages : Stages composer options request journal result) (name : String)
    (columns : List ResultColumn) : Prop :=
  (composer.contextOf options stages.working).fieldPart (.name name) = .ok (columns, false) ∧
    columns ⊆ stages.tree.selectList

/-- The entry of a name contributes these grouping terms, and the tree has them. -/
def Stages.Groups (stages : Stages composer options request journal result) (name : String)
    (terms : List Expr) : Prop :=
  (composer.contextOf options stages.working).groupPart (.name name) = .ok (terms, []) ∧
    terms ⊆ stages.tree.groupTerms

theorem Stages.exists_columns (stages : Stages composer options request journal result)
    (hasked : name ∈ stages.working.asked .field) :
    ∃ columns distinct,
      (composer.contextOf options stages.working).fieldPart (.name name) =
        .ok (columns, distinct) ∧
      columns ⊆ stages.tree.selectList := by
  obtain ⟨hfields, _⟩ := Context.parts_eq_ok_iff.mp stages.parted
  obtain ⟨⟨columns, distinct⟩, hmem, hpart⟩ :=
    Action.exists_mem_of_mapM hfields (Request.mem_asked_field.mp hasked)
  refine ⟨columns, distinct, hpart, ?_⟩
  intro column hcolumn
  have hfields : column ∈ stages.parts.fields.flatMap Prod.fst :=
    List.mem_flatMap.mpr ⟨_, hmem, hcolumn⟩
  rw [stages.selectList_tree]
  exact List.mem_append_left _ (List.mem_append_right _ hfields)

theorem Stages.exists_terms (stages : Stages composer options request journal result)
    (hasked : name ∈ stages.working.asked .group) :
    ∃ terms conditions,
      (composer.contextOf options stages.working).groupPart (.name name) =
        .ok (terms, conditions) ∧
      terms ⊆ stages.tree.groupTerms := by
  obtain ⟨_, _, _, hgroupings, _⟩ := Context.parts_eq_ok_iff.mp stages.parted
  obtain ⟨⟨terms, conditions⟩, hmem, hpart⟩ :=
    Action.exists_mem_of_mapM hgroupings (Request.mem_asked_group.mp hasked)
  refine ⟨terms, conditions, hpart, ?_⟩
  intro term hterm
  have hgroupings : term ∈ stages.parts.groupings.flatMap Prod.fst :=
    List.mem_flatMap.mpr ⟨_, hmem, hterm⟩
  rw [stages.groupTerms_tree]
  exact List.mem_append_right _ hgroupings

theorem Stages.shows_paired (stages : Stages composer options request journal result)
    (hpair : composer.registry.PairedBy name labelStart expression catalogue)
    (hasked : name ∈ stages.working.asked .field) :
    ∃ value, GroupField.computedBy expression catalogue (.request stages.working) = .ok value ∧
      stages.Shows name (GroupField.shown value
        (if GroupField.grouped name stages.working then labelStart ++ name else name)) := by
  obtain ⟨columns, distinct, hpart, hshown⟩ := stages.exists_columns hasked
  have hgiven := hpart
  rw [Context.fieldPart_paired hpair] at hgiven
  obtain ⟨value, hvalue, hcolumns⟩ := Action.map_eq_ok_iff.mp hgiven
  cases hcolumns
  exact ⟨value, hvalue, hpart, hshown⟩

theorem Stages.groups_label (stages : Stages composer options request journal result)
    (hpair : composer.registry.PairedBy name labelStart expression catalogue)
    (hgrouped : GroupField.grouped name stages.working = true) :
    stages.Groups name [.named (labelStart ++ name)] := by
  obtain ⟨terms, conditions, hpart, hgroups⟩ :=
    stages.exists_terms (GroupField.grouped_iff.mp hgrouped).2
  have hgiven := hpart.symm.trans ((Context.groupPart_paired hpair).trans (if_pos hgrouped))
  cases hgiven
  exact ⟨hpart, hgroups⟩

theorem Stages.groups_value (stages : Stages composer options request journal result)
    (hpair : composer.registry.PairedBy name labelStart expression catalogue)
    (hasked : name ∈ stages.working.asked .group)
    (halone : ¬ GroupField.grouped name stages.working = true) :
    ∃ value, GroupField.computedBy expression catalogue (.request stages.working) = .ok value ∧
      stages.Groups name [value] := by
  obtain ⟨terms, conditions, hpart, hgroups⟩ := stages.exists_terms hasked
  have hgiven := ((Context.groupPart_paired hpair).trans (if_neg halone)).symm.trans hpart
  obtain ⟨value, hvalue, hterms⟩ := Action.map_eq_ok_iff.mp hgiven
  cases hterms
  exact ⟨value, hvalue, hpart, hgroups⟩

/-- Asked for both, the column has the label and the grouping is by it; asked for one, the column
has the name or the grouping is by the expression, and the fragment of the other is not applied. -/
theorem compose_groupField (composer : Composer) (options : Options) (request : Request)
    (journal : Journal) (result : Query) {name labelStart : String} {expression : Draft}
    {catalogue : Catalogue}
    (hpair : composer.registry.PairedBy name labelStart expression catalogue)
    (hresult : (composer.compose options request journal).1 = .ok result) :
    ∃ stages : Stages composer options request journal result,
      stages.tree.selectList =
        stages.base.plainColumns ++ stages.parts.fields.flatMap Prod.fst ++
          stages.parts.filters.flatMap Query.selectList ∧
      stages.tree.groupTerms =
        stages.base.groupTerms ++ stages.parts.filters.flatMap Query.groupTerms ++
          stages.parts.groupings.flatMap Prod.fst ∧
      (name ∈ stages.working.asked .field → name ∈ stages.working.asked .group →
        ∃ value,
          GroupField.computedBy expression catalogue (.request stages.working) = .ok value ∧
          stages.Shows name (GroupField.shown value (labelStart ++ name)) ∧
          stages.Groups name [.named (labelStart ++ name)]) ∧
      (name ∈ stages.working.asked .field → name ∉ stages.working.asked .group →
        ∃ value,
          GroupField.computedBy expression catalogue (.request stages.working) = .ok value ∧
          stages.Shows name (GroupField.shown value name) ∧
          ¬ (composer.contextOf options stages.working).Applies (Context.key .group name)) ∧
      (name ∉ stages.working.asked .field → name ∈ stages.working.asked .group →
        ∃ value,
          GroupField.computedBy expression catalogue (.request stages.working) = .ok value ∧
          stages.Groups name [value] ∧
          ¬ (composer.contextOf options stages.working).Applies (Context.key .field name)) := by
  obtain ⟨stages⟩ := exists_stages hresult
  refine ⟨stages, stages.selectList_tree, stages.groupTerms_tree, ?_, ?_, ?_⟩
  · intro hfield hgroup
    have hgrouped : GroupField.grouped name stages.working = true :=
      GroupField.grouped_iff.mpr ⟨hfield, hgroup⟩
    obtain ⟨value, hvalue, hshown⟩ := stages.shows_paired hpair hfield
    rw [if_pos hgrouped] at hshown
    exact ⟨value, hvalue, hshown, stages.groups_label hpair hgrouped⟩
  · intro hfield hgroup
    have halone : ¬ GroupField.grouped name stages.working = true :=
      fun h => hgroup (GroupField.grouped_iff.mp h).2
    obtain ⟨value, hvalue, hshown⟩ := stages.shows_paired hpair hfield
    rw [if_neg halone] at hshown
    refine ⟨value, hvalue, hshown, ?_⟩
    exact fun happlies => hgroup (asked_of_applies stages.prepared (by decide) happlies)
  · intro hfield hgroup
    have halone : ¬ GroupField.grouped name stages.working = true :=
      fun h => hfield (GroupField.grouped_iff.mp h).1
    obtain ⟨value, hvalue, hgroups⟩ := stages.groups_value hpair hgroup halone
    refine ⟨value, hvalue, hgroups, ?_⟩
    exact fun happlies => hfield (asked_of_applies stages.prepared (by decide) happlies)

end Pair

/-- Orders by day, where a table patches in the grouping by the day. -/
def daily (day : Expr) : Composer where
  base := .fixed { Query.empty with tables := .name "orders" }
  registry :=
    [("table:sailings",
        .ofQuery { Query.empty with tables := .name "sailings" }
          (.patch { grouping := some [.name "day"] })),
      ("field:day",
        { recipe := GroupField.column "day" "group_day" (GroupField.computedBy (.expression day))
          prerequisite := .settled .none }),
      ("groupBy:day",
        { recipe := GroupField.grouping "day" "group_day" (GroupField.computedBy (.expression day))
          prerequisite := .settled .none })]

def byDay : Request where
  fields := some [.name "day"]
  tables := some ["sailings"]

def dated : Query :=
  { Query.empty with
    select := .many [⟨.named "date", some "group_day"⟩]
    tables := .many [.ofName "orders", .ofName "sailings"]
    group := .by ⟨.many [.named "group_day"], .absent⟩ }

theorem paired_daily (day : Expr) :
    (daily day).registry.PairedBy "day" "group_" (.expression day) {} := by
  refine ⟨.settled .none, false, ⟨[], []⟩, _, rfl, ?_⟩
  intro kind hkind
  rcases List.mem_pair.mp hkind with rfl | rfl
  · exact ⟨_, [], rfl, rfl⟩
  · exact ⟨_, [], rfl, rfl⟩

theorem walk_daily (day : Expr) : Closure.walk (daily day).registry byDay =
    ⟨[⟨[], "field:day"⟩, ⟨[], "table:sailings"⟩, ⟨["table:sailings"], "groupBy:day"⟩], none⟩ := by
  cbv

def byDayGrouped : Request :=
  { byDay with
    grouping := some [.name "day"]
    sorting := .many [] }

theorem daily_prepared (day : Expr) : ((daily day).prepare {} byDay []).1 = .ok byDayGrouped := by
  have hstatic : (daily day).registry.Static :=
    Registry.static_of_forall (by simp [daily, Fragment.ofQuery, Prerequisite.Static])
  rw [prepare_of_walk hstatic (walk_daily day) ["groupBy:day", "field:day", "table:sailings"]
    { byDay with grouping := some [.name "day"] } (fun journal => by cbv) fun _ => rfl]
  rfl

theorem daily_composed : ((daily (.named "date")).compose {} byDay []).1 = .ok dated := by
  rw [compose_outcome, unfinished_outcome, daily_prepared]
  rfl

theorem daily_date_labelled :
    ((daily (.named "date")).registry.PairedBy "day" "group_" (.expression (.named "date")) {} ∧
      ((daily (.named "date")).compose {} byDay []).1 = .ok dated) ∧
    ∃ stages : Stages (daily (.named "date")) {} byDay [] dated,
      stages.Shows "day" [⟨.named "date", some "group_day"⟩] ∧
      stages.Groups "day" [.named "group_day"] := by
  obtain ⟨stages, _, _, hboth, _⟩ :=
    compose_groupField (daily (.named "date")) {} byDay [] dated (paired_daily _) daily_composed
  have hworking : stages.working = byDayGrouped :=
    Except.ok.inj (stages.prepared.symm.trans (daily_prepared _))
  rw [hworking] at hboth
  obtain ⟨value, hvalue, hshown, hgroups⟩ := hboth (by decide) (by decide)
  cases hvalue
  exact ⟨⟨paired_daily _, daily_composed⟩, stages, hshown, hgroups⟩

def undated : Query :=
  { dated with select := .absent }

/-- Where the expression is an unqualified `*`, the grouping refers to a label that no column has. -/
theorem daily_wildcard_unlabelled :
    (daily (.named "*")).registry.PairedBy "day" "group_" (.expression (.named "*")) {} ∧
    ((daily (.named "*")).compose {} byDay []).1 = .ok undated ∧
    ∃ stages : Stages (daily (.named "*")) {} byDay [] undated,
      "day" ∈ stages.working.asked .field ∧ "day" ∈ stages.working.asked .group ∧
      stages.tree.selectList = [] ∧ stages.tree.groupTerms = [.named "group_day"] := by
  have hunfinished : ((daily (.named "*")).unfinished {} byDay []).1 = .ok undated := by
    rw [unfinished_outcome, daily_prepared]
    rfl
  have hcomposed : ((daily (.named "*")).compose {} byDay []).1 = .ok undated := by
    rw [compose_outcome, hunfinished]
    rfl
  obtain ⟨stages⟩ := exists_stages hcomposed
  have hworking : stages.working = byDayGrouped :=
    Except.ok.inj (stages.prepared.symm.trans (daily_prepared _))
  have htree : stages.tree = undated :=
    Except.ok.inj (stages.unfinished.symm.trans hunfinished)
  refine ⟨paired_daily _, hcomposed, stages, ?_⟩
  rw [hworking, htree]
  exact ⟨by decide, by decide, rfl, rfl⟩

end Composer

end QueryWeave

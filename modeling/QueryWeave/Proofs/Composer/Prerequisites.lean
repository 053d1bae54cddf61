import QueryWeave.Proofs.Closure.Reach
import QueryWeave.Proofs.Composer.Applied
import QueryWeave.Proofs.Composer.Stages

/-!
Whether a composition applies what its fragments name as prerequisites.  What the closure brings in
is closed under naming.  The default filter is activated after the closure, so its own names are in
place only when they are needed for something else.
-/

namespace QueryWeave

/-- A failure is a missing name where no cycle is within reach. -/
theorem Failure.Routed.missing_of_acyclic {registry : Registry} {starts : List String}
    {failure : Failure} (h : failure.Routed registry starts)
    (hacyclic : ∀ key, registry.Needed starts key → ¬ registry.Depends key key) :
    ∃ missing path, failure = .prerequisiteNotFound missing path := by
  cases h with
  | @cycle path key route leads repeated =>
      obtain ⟨start, hstart, hregistered, _, hdepends⟩ :=
        route.exists_start leads (List.ne_nil_of_mem repeated)
      have hneeded : registry.Needed starts key :=
        ⟨route.registered_of_mem repeated, start, hstart, hregistered, hdepends.to_reflTransGen⟩
      exact absurd (route.depends_of_leads leads repeated) (hacyclic key hneeded)
  | @missing path key route leads unregistered below => exact ⟨key, path, rfl⟩

theorem Closure.needed_of_requires {registry : Registry} {request : Request}
    (hdone : (walk registry request).failure = none) {key other : String}
    (hneeded : registry.Needed request.keys key) (hrequires : registry.Requires key other) :
    registry.Needed request.keys other := by
  obtain ⟨visit, hvisit, rfl⟩ := List.mem_map.mp ((mem_visited_iff_needed hdone).mpr hneeded)
  have honward := (walk_saturated hdone).onward visit hvisit other hrequires
  exact (mem_visited_iff_needed hdone).mp (List.mem_map_of_mem honward)

namespace Composer

/-- The default filter is put into the working request. -/
def Activates (registry : Registry) (options : Options) : Prop :=
  options.withDefault.holds = true ∧ defaultFilter ∈ Entries.keys registry

variable {registry : Registry} {options : Options} {request : Request}

theorem mem_asked_withDefaultFilter {kind : Kind} {name : String} :
    name ∈ (withDefaultFilter registry options request).asked kind ↔
      name ∈ request.asked kind ∨
        (Activates registry options ∧ kind = .filter ∧ name = defaultFilter) := by
  rw [withDefaultFilter]
  split
  next hactive =>
    have hactivates : Activates registry options := by
      rw [Bool.and_eq_true, Entries.has_iff] at hactive
      exact hactive
    cases kind with
    | filter =>
        simp only [Request.asked, Entries.mem_keys_put, hactivates, true_and]
    | field => simp [Request.asked, Request.fieldList]
    | table => simp [Request.asked, Request.tableList]
    | group => simp [Request.asked, Request.groupList]
    | order => simp [Request.asked, Request.sortList]
  next hinactive =>
    have hnot : ¬ Activates registry options := by
      intro h
      rw [Bool.and_eq_true, Entries.has_iff] at hinactive
      exact hinactive h
    simp [hnot]

theorem mem_keys_withDefaultFilter {key : String} :
    key ∈ (withDefaultFilter registry options request).keys ↔
      key ∈ request.keys ∨ (Activates registry options ∧ key = defaultFilter) := by
  simp only [Request.mem_keys, mem_asked_withDefaultFilter]
  constructor
  · rintro ⟨kind, name, hold | ⟨hactivates, rfl, rfl⟩, hrender⟩
    · exact Or.inl ⟨kind, name, hold, hrender⟩
    · exact Or.inr ⟨hactivates, hrender.symm⟩
  · rintro (⟨kind, name, hold, hrender⟩ | ⟨hactivates, rfl⟩)
    · exact ⟨kind, name, Or.inl hold, hrender⟩
    · exact ⟨.filter, defaultFilter, Or.inr ⟨hactivates, rfl, rfl⟩, rfl⟩

variable {composer : Composer} {journal : Journal}

theorem prepare_of_broken (hstatic : composer.registry.Static) {failure : Failure}
    (hbroken : (Closure.walk composer.registry request).failure = some failure) :
    (composer.prepare options request journal).1 = .error failure := by
  rw [prepare_outcome, Closure.search_of_broken hstatic (opening request journal) hbroken]
  rfl

theorem compose_of_broken (hstatic : composer.registry.Static) {failure : Failure}
    (hbroken : (Closure.walk composer.registry request).failure = some failure) :
    (composer.compose options request journal).1 = .error failure := by
  have hprepare : (composer.prepare options request journal).1 = .error failure :=
    prepare_of_broken hstatic hbroken
  rw [compose, Action.bind_of_error (Prod.ext hprepare rfl)]

/-- A composition that has a result has closed the request and folded in every clause. -/
theorem compose_ok_inv {query : Query} (h : (composer.compose options request journal).1 = .ok query) :
    ∃ working base result before after,
      (composer.prepare options request journal).1 = .ok working ∧
        (composer.contextOf options working).addClauses base before = (.ok result, after) := by
  have hwhole : composer.compose options request journal =
      (.ok query, (composer.compose options request journal).2) := Prod.ext h rfl
  obtain ⟨working, _, hprepare, hrest⟩ := Action.bind_ok_inv hwhole
  obtain ⟨base, before, _, hrest⟩ := Action.bind_ok_inv hrest
  obtain ⟨result, after, hclauses, _⟩ := Action.bind_ok_inv hrest
  exact ⟨working, base.withoutWildcard, result, before, after, congrArg Prod.fst hprepare, hclauses⟩

theorem walk_of_prepare (hstatic : composer.registry.Static) {working : Request}
    (hprepare : (composer.prepare options request journal).1 = .ok working) :
    (Closure.walk composer.registry request).failure = none := by
  cases hwalk : (Closure.walk composer.registry request).failure with
  | none => rfl
  | some failure =>
      rw [prepare_of_broken hstatic hwalk] at hprepare
      cases hprepare

/-- The working request names of the registry what is needed, and the default filter. -/
theorem applies_iff (hstatic : composer.registry.Static) {working : Request}
    (hprepare : (composer.prepare options request journal).1 = .ok working) {key : String} :
    (composer.contextOf options working).Applies key ↔
      composer.registry.Needed request.keys key ∨
        (Activates composer.registry options ∧ key = defaultFilter) := by
  have hwalk := walk_of_prepare hstatic hprepare
  rw [prepare_of_done hstatic hwalk] at hprepare
  cases hprepare
  have hweights : (opening request journal).weights = [] := rfl
  have hasks : (opening request journal).request = request := rfl
  rw [← hasks, ← Closure.registered_keys_writeBack_iff_needed hweights hwalk]
  unfold Context.Applies contextOf
  dsimp only
  rw [mem_keys_withDefaultFilter]
  constructor
  · rintro ⟨hold | hactivated, hregistered⟩
    · exact Or.inl ⟨hold, hregistered⟩
    · exact Or.inr hactivated
  · rintro (⟨hold, hregistered⟩ | ⟨hactivates, rfl⟩)
    · exact ⟨Or.inl hold, hregistered⟩
    · exact ⟨Or.inr ⟨hactivates, rfl⟩, hactivates.2⟩

section Prepared

variable {working : Request} (hstatic : composer.registry.Static)
  (hprepare : (composer.prepare options request journal).1 = .ok working)

include hstatic hprepare

theorem needed_of_names {key name : String} (hneeded : composer.registry.Needed request.keys key)
    (hnames : Relation.TransGen composer.registry.Names key name) :
    composer.registry.Needed request.keys name := by
  have hwalk := walk_of_prepare hstatic hprepare
  induction hnames with
  | single hname => exact Closure.needed_of_requires hwalk hneeded hname.requires
  | tail _ hname ih => exact Closure.needed_of_requires hwalk ih hname.requires

theorem namesApplied_of_needed {key : String}
    (hneeded : composer.registry.Needed request.keys key) :
    (composer.contextOf options working).NamesApplied key := by
  intro name hnames
  exact (applies_iff hstatic hprepare).mpr
    (Or.inl (needed_of_names hstatic hprepare hneeded hnames))

/-- What the default filter itself names decides whether every name is applied. -/
theorem forall_namesApplied_iff :
    (∀ key, (composer.contextOf options working).Applies key →
      (composer.contextOf options working).NamesApplied key) ↔
      (Activates composer.registry options →
        ∀ name, composer.registry.Names defaultFilter name →
          name = defaultFilter ∨ composer.registry.Needed request.keys name) := by
  constructor
  · intro hall hactivates name hname
    have hdefault := (applies_iff hstatic hprepare).mpr (Or.inr ⟨hactivates, rfl⟩)
    have happlies := hall _ hdefault name (.single hname)
    rcases (applies_iff hstatic hprepare).mp happlies with hneeded | ⟨_, hsame⟩
    · exact Or.inr hneeded
    · exact Or.inl hsame
  · intro hnamed key happlies name hnames
    rw [applies_iff hstatic hprepare] at happlies ⊢
    -- Every link of the chain of names leads from a needed key or from the default filter itself.
    have hstep : ∀ first second, composer.registry.Names first second →
        (composer.registry.Needed request.keys first ∨
          (Activates composer.registry options ∧ first = defaultFilter)) →
        composer.registry.Needed request.keys second ∨
          (Activates composer.registry options ∧ second = defaultFilter) := by
      rintro first second hname (hneeded | ⟨hactivates, rfl⟩)
      · exact Or.inl (needed_of_names hstatic hprepare hneeded (.single hname))
      · rcases hnamed hactivates second hname with rfl | hneeded
        · exact Or.inr ⟨hactivates, rfl⟩
        · exact Or.inl hneeded
    induction hnames with
    | single hname => exact hstep _ _ hname happlies
    | tail _ hname ih => exact hstep _ _ hname ih

end Prepared

/-- A composition with a result has made the tree of each fragment that it applies and depends on no
other, and applies what these name, but for the default filter when nothing but the options
activates it.  A composition that needs a fragment with a missing name fails. -/
theorem compose_applies_names (composer : Composer) (hstatic : composer.registry.Static)
    (options : Options) (request : Request) (journal : Journal) :
    (∀ query, (composer.compose options request journal).1 = .ok query →
      ∃ working, (composer.prepare options request journal).1 = .ok working ∧
        (∀ key, (composer.contextOf options working).Applies key →
          ∃ kind, ∃ name ∈ working.asked kind, (Key.mk kind name).render = key ∧
            ∃ fragment tree,
              (composer.contextOf options working).find? kind name = some fragment ∧
              (composer.contextOf options working).treeOf kind name fragment = .ok tree) ∧
        (∀ registry : Registry,
          (∀ key ∈ working.keys,
            Entries.get? registry key = Entries.get? composer.registry key) →
          ∀ base, ({ registry, request := working, options } : Context).addClauses base =
            (composer.contextOf options working).addClauses base) ∧
        (∀ key, (composer.contextOf options working).Applies key →
          (key ≠ defaultFilter ∨ ¬ Activates composer.registry options ∨
            composer.registry.Needed request.keys defaultFilter) →
          (composer.contextOf options working).NamesApplied key) ∧
        ((∀ key, (composer.contextOf options working).Applies key →
          (composer.contextOf options working).NamesApplied key) ↔
          (Activates composer.registry options →
            ∀ name, composer.registry.Names defaultFilter name →
              name = defaultFilter ∨ composer.registry.Needed request.keys name))) ∧
    ∀ key missing, composer.registry.Needed request.keys key →
      composer.registry.Names key missing → missing ∉ Entries.keys composer.registry →
      ∃ failure, (composer.compose options request journal).1 = .error failure ∧
        failure.Reports composer.registry request.keys ∧
        ((∀ reached, composer.registry.Needed request.keys reached →
          ¬ composer.registry.Depends reached reached) →
          ∃ other path, failure = .prerequisiteNotFound other path) := by
  constructor
  · intro query hquery
    obtain ⟨working, base, result, before, after, hprepare, hclauses⟩ := compose_ok_inv hquery
    refine ⟨working, hprepare, ?_, ?_, ?_, forall_namesApplied_iff hstatic hprepare⟩
    · intro key happlies
      exact Context.exists_tree_of_applies hclauses happlies
    · intro registry hsame
      exact @Context.addClauses_congr (composer.contextOf options working) registry hsame
    · intro key happlies hbrought
      apply namesApplied_of_needed hstatic hprepare
      rcases (applies_iff hstatic hprepare).mp happlies with hneeded | ⟨hactivates, rfl⟩
      · exact hneeded
      · rcases hbrought with hother | hidle | hneeded
        · exact absurd rfl hother
        · exact absurd hactivates hidle
        · exact hneeded
  · rintro key missing ⟨_, source, hsource, hregistered, hreaches⟩ hnames hmissing
    have hdoomed : composer.registry.Doomed source :=
      ⟨key, hreaches, Or.inr ⟨missing, hnames, hmissing⟩⟩
    obtain ⟨failure, hbroken⟩ :=
      Closure.walk_broken_iff_doomed.mpr ⟨source, hsource, hregistered, hdoomed⟩
    have hrouted := (Closure.walk_sound composer.registry request).failure failure hbroken
    exact ⟨failure, compose_of_broken hstatic hbroken, hrouted.reports, hrouted.missing_of_acyclic⟩

/-- A condition as the default filter, which names a table that is not registered. -/
def adrift : Composer where
  registry :=
    [("default",
      { recipe := .fixed { Query.empty with filter := .one (.named "deleted") }
        prerequisite := .settled (.names ["table:items"]) })]

def moored : Composer where
  registry := adrift.registry ++ [("table:items", .bare .none)]

theorem moored_names_applied :
    moored.registry.Static ∧
    ∃ working, (moored.prepare {} { tables := some ["items"] } []).1 = .ok working ∧
      ∀ key, (moored.contextOf {} working).Applies key →
        (moored.contextOf {} working).NamesApplied key := by
  have hstatic : moored.registry.Static :=
    Registry.static_of_forall
      (by simp [moored, adrift, Fragment.bare, Prerequisite.Static])
  have hwalk : Closure.walk moored.registry { tables := some ["items"] } =
      ⟨[⟨[], "table:items"⟩], none⟩ := by
    cbv
  have hcompose : (moored.compose {} { tables := some ["items"] } []).1 =
      .ok { Query.empty with filter := .one (.conjunction [.named "deleted"]) } := by
    rw [compose_outcome, unfinished_outcome, prepare_of_walk hstatic hwalk ["table:items"]
      { tables := some ["items"] } (fun journal => by cbv) fun _ => rfl]
    rfl
  obtain ⟨hresult, _⟩ := compose_applies_names moored hstatic {} { tables := some ["items"] } []
  obtain ⟨working, hprepare, _, _, _, hiff⟩ := hresult _ hcompose
  refine ⟨hstatic, working, hprepare, hiff.mpr ?_⟩
  rintro _ name ⟨listed, hlisted, hname⟩
  cases hlisted
  rw [List.mem_singleton.mp hname]
  exact Or.inr ⟨by decide, "table:items", by decide, by decide, .refl⟩

/-- The default filter is applied although the table that it names is not registered. -/
theorem adrift_default_applied :
    adrift.registry.Static ∧
    (adrift.compose {} {} []).1 =
      .ok { Query.empty with filter := .one (.conjunction [.named "deleted"]) } ∧
    adrift.registry.Names defaultFilter "table:items" ∧
    "table:items" ∉ Entries.keys adrift.registry ∧
    ∃ working, (adrift.prepare {} {} []).1 = .ok working ∧
      (adrift.contextOf {} working).Applies defaultFilter := by
  have hstatic : adrift.registry.Static :=
    Registry.static_of_forall (by simp [adrift, Prerequisite.Static])
  have hwalk : Closure.walk adrift.registry {} = ⟨[], none⟩ := by
    cbv
  have hcompose : (adrift.compose {} {} []).1 =
      .ok { Query.empty with filter := .one (.conjunction [.named "deleted"]) } := by
    rw [compose_outcome, unfinished_outcome, prepare_of_walk hstatic hwalk [] {}
      (fun journal => by cbv) fun _ => rfl]
    rfl
  obtain ⟨working, _, _, _, _, hprepare, _⟩ := compose_ok_inv hcompose
  have hactivates : Activates adrift.registry {} := ⟨rfl, by decide⟩
  refine ⟨hstatic, hcompose, ⟨_, rfl, List.mem_singleton.mpr rfl⟩, by decide, working, hprepare, ?_⟩
  exact (applies_iff hstatic hprepare).mpr (Or.inr ⟨hactivates, rfl⟩)

end Composer

end QueryWeave

import QueryWeave.Proofs.Closure.Causes
import QueryWeave.Proofs.Closure.Failure
import QueryWeave.Proofs.Closure.Settles
import QueryWeave.Proofs.Requirement.Merge

/-!
A fragment whose prerequisite is a name list merged with a patch, beside the same fragment with the
name list alone.  Alone, a name without a fragment makes the search fail and bound values are kept;
merged, such a name is passed over and the filters that are named are set to true.  Main statement:
`search_blended`.
-/

namespace QueryWeave

/-- The registry in which the prerequisite of a fragment is a name list. -/
def Registry.withNames (registry : Registry) (key : String) (names : List String) : Registry :=
  registry.modifyAt key fun fragment => { fragment with prerequisite := .settled (.names names) }

namespace Closure

variable {registry : Registry} {key name : String} {fragment : Fragment} {names : List String}
  {patch merged : Request} {start left : Search} {keys : List String}

section Names

theorem get?_withNames (hfound : Entries.get? registry key = some fragment) :
    Entries.get? (registry.withNames key names) key =
      some { fragment with prerequisite := .settled (.names names) } := by
  rw [Registry.withNames, Registry.modifyAt, hfound]
  exact Entries.get?_put_self registry key _

theorem keys_withNames : Entries.keys (registry.withNames key names) = Entries.keys registry := by
  rw [Registry.withNames, Registry.modifyAt]
  split
  next fragment hfound => rw [Entries.keys_put, if_pos (Entries.mem_keys_of_get? hfound)]
  next => rfl

/-- A name list is searched whole, so every name in it has a fragment when the search ends well. -/
theorem registered_of_names (hfound : Entries.get? registry key = some fragment)
    (hnames : fragment.prerequisite = .settled (.names names))
    (hrequested : key ∈ start.request.keys) (hdone : search registry start = (.ok keys, left)) :
    ∀ name ∈ names, name ∈ Entries.keys registry := by
  obtain ⟨before, asked, middle, last, hrequired, hbelow, _⟩ :=
    exists_visit_of_mem hfound hrequested (search_ok_inv hdone)
  obtain ⟨requirement, journal, hresolved, rfl, _⟩ := requirements_ok_inv hrequired
  rw [hnames] at hresolved
  cases hresolved
  exact registered_of_visitAll (by simp) hbelow

end Names

section Values

theorem get?_foldl_addFilter {filters : Entries Datum} {value : Datum}
    (h : Entries.get? filters name = some value) :
    Entries.get? (names.foldl (addFilter registry) filters) name = some value := by
  induction names generalizing filters with
  | nil => exact h
  | cons first rest ih =>
      refine ih ?_
      rw [addFilter]
      split
      next => exact h
      next hmissing =>
        split
        next fragment hfound =>
          rw [Entries.get?_put_of_ne _ _ ?_, h]
          rintro rfl
          rw [Entries.has, h] at hmissing
          exact hmissing rfl
        next => exact h

/-- A filter keeps its value when no settled patch mentions it. -/
theorem get?_filters_of_unmentioned {value : Datum}
    (hbound : Entries.get? start.request.filters name = some value)
    (hunmentioned : ∀ other change,
      Settles registry [] start.request.keys start other (.patch change) →
        name ∉ Entries.keys change.filters)
    (hdone : search registry start = (.ok keys, left)) :
    Entries.get? (writeBack registry keys left.request).filters name = some value := by
  refine get?_foldl_addFilter ?_
  rw [← hbound]
  refine request_visitAll (fun request => Entries.get? request.filters name) ?_
    (search_ok_inv hdone)
  intro other change hsettled request
  have hnot := hunmentioned other change hsettled
  exact (Datum.get?_deepMerge (Entries.OnlyTrue.of_not_mem hnot)).trans (if_neg hnot)

/-- A filter that the patch of a requested key sets to true is true when no settled patch sets it to
anything else. -/
theorem get?_filters_of_patch (hfound : Entries.get? registry key = some fragment)
    (hpatch : fragment.prerequisite = .settled (.patch merged))
    (hrequested : key ∈ start.request.keys) (hunpatched : start.patched = [])
    (hmentioned : name ∈ Entries.keys merged.filters)
    (htrue : ∀ other change,
      Settles registry [] start.request.keys start other (.patch change) →
        change.filters.OnlyTrue name)
    (hdone : search registry start = (.ok keys, left)) :
    Entries.get? (writeBack registry keys left.request).filters name = some (.bool true) := by
  refine get?_foldl_addFilter ?_
  have hsearched := search_ok_inv hdone
  obtain ⟨before, asked, middle, last, hrequired, _, hsubset⟩ :=
    exists_visit_of_mem hfound hrequested hsearched
  obtain ⟨requirement, journal, hresolved, _, _, hpatched⟩ := requirements_ok_inv hrequired
  rw [hpatch] at hresolved
  cases hresolved
  -- From the visit of the key on, its patch is in the request, and every later patch keeps it.
  have hkept := visitAll_keeps
    (fun request patched => key ∈ patched → Entries.get? request.filters name = some (.bool true))
    ?_ (by simp [hunpatched]) hsearched
  · apply hkept
    apply hsubset
    rw [hpatched, Search.obey, Search.applyPatch]
    split
    next hheld => exact List.contains_iff_mem.mp hheld
    next => exact List.mem_append_right _ (List.mem_singleton_self key)
  · intro other change hsettled current hcurrent
    rw [Search.applyPatch]
    split
    next => exact hcurrent
    next =>
      intro hmem
      refine (Datum.get?_deepMerge (htrue other change hsettled)).trans ?_
      split
      next => rfl
      next hnot =>
        refine hcurrent ((List.mem_append.mp hmem).resolve_right ?_)
        intro hother
        obtain rfl := List.mem_singleton.mp hother
        cases hsettled.eq_of_settled hfound hpatch
        exact hnot hmentioned

end Values

/-- A merged patch asks for the registered keys that the name list or the patch asks for. -/
theorem requirements_blended (hpatch : fragment.prerequisite = .settled (.patch merged))
    (hblends : Requirement.Blends names patch merged) (current : Search) :
    ∃ asked left, requirements registry key fragment current = (.ok asked, left) ∧
      ∀ other, other ∈ asked ↔
        other ∈ Entries.keys registry ∧ (other ∈ names ∨ other ∈ patch.keys) := by
  refine ⟨_, _, requirements_settled hpatch trivial key current, ?_⟩
  intro other
  rw [Requirement.asked, List.mem_filter, hblends.mem_keys, Entries.has_iff, and_comm]

/-- No failure to find a fragment is due to a merged patch. -/
theorem answers_of_blended (hfound : Entries.get? registry key = some fragment)
    (hpatch : fragment.prerequisite = .settled (.patch merged)) {missing : String}
    {path : List String}
    (hfailed : (search registry start).1 = .error (.prerequisiteNotFound missing path))
    (hlast : path.getLast? = some key) :
    registry.Answers (.prerequisiteNotFound missing path) := by
  rcases cause_of_missing (search_error_inv (Prod.ext hfailed rfl)) with
    hanswer | ⟨hmissing, ⟨rfl, _⟩ | ⟨other, held, before, asked, middle, hother, hget, hasked, hmem⟩⟩
  · exact hanswer
  · cases hlast
  · rw [hlast] at hother
    cases hother
    rw [hfound] at hget
    cases hget
    rw [requirements_settled hpatch trivial] at hasked
    cases hasked
    exact absurd (Entries.has_iff.mp (List.mem_filter.mp hmem).2) hmissing

/-- A fragment whose prerequisite is a name list merged with a patch, beside the name list alone.
Alone, a name without a fragment makes the search fail; merged, it is never asked for.  Alone, a
bound value that no patch mentions is kept; merged, the value of every filter in the list becomes
true, unless some patch has another value for it. -/
theorem search_blended {request : Request}
    (hfound : Entries.get? registry key = some fragment)
    (hmerged :
      Prerequisite.merge (.settled (.names names)) (.settled (.patch patch)) =
          .ok fragment.prerequisite ∨
        Prerequisite.merge (.settled (.patch patch)) (.settled (.names names)) =
          .ok fragment.prerequisite)
    (hrequested : key ∈ request.keys) (journal : Journal) :
    (∀ name ∈ names, name ∉ Entries.keys registry → ∃ failure,
      (search (registry.withNames key names) { request, journal }).1 = .error failure) ∧
    (∀ current, ∃ asked left, requirements registry key fragment current = (.ok asked, left) ∧
      ∀ other, other ∈ asked ↔
        other ∈ Entries.keys registry ∧ (other ∈ names ∨ other ∈ patch.keys)) ∧
    (∀ missing path,
      (search registry { request, journal }).1 = .error (.prerequisiteNotFound missing path) →
        path.getLast? = some key → registry.Answers (.prerequisiteNotFound missing path)) ∧
    (registry.Static →
      ((∃ failure, (search registry { request, journal }).1 = .error failure) ↔
        ∃ other ∈ request.keys, other ∈ Entries.keys registry ∧ registry.Doomed other)) ∧
    (∀ closure left,
      search (registry.withNames key names) { request, journal } = (.ok closure, left) →
        ∀ name value, Entries.get? request.filters name = some value →
          (∀ other change,
            Settles (registry.withNames key names) [] request.keys { request, journal } other
              (.patch change) → name ∉ Entries.keys change.filters) →
          Entries.get? (writeBack (registry.withNames key names) closure left.request).filters
            name = some value) ∧
    ∀ closure left, search registry { request, journal } = (.ok closure, left) →
      ∀ name ∈ names, (Key.parse name).kind = .filter → patch.filters.OnlyTrue name →
        (∀ other ≠ key, ∀ change,
          Settles registry [] request.keys { request, journal } other (.patch change) →
            change.filters.OnlyTrue name) →
        Entries.get? (writeBack registry closure left.request).filters name =
          some (.bool true) := by
  obtain ⟨merged, hpatch, hblends⟩ := Prerequisite.blends_of_merge hmerged
  have hstart : key ∈ ({ request, journal } : Search).request.keys := hrequested
  refine ⟨?_, requirements_blended hpatch hblends,
    fun missing path hfailed hlast => answers_of_blended hfound hpatch hfailed hlast, ?_, ?_, ?_⟩
  · intro name hname hmissing
    cases houtcome : search (registry.withNames key names) { request, journal } with
    | mk outcome left =>
        cases outcome with
        | error failure => exact ⟨failure, rfl⟩
        | ok closure =>
            have hregistered := registered_of_names (get?_withNames hfound) rfl hstart houtcome
            rw [keys_withNames] at hregistered
            exact absurd (hregistered name hname) hmissing
  · intro hstatic
    simp only [search_eq_error_iff hstatic]
    exact walk_broken_iff_doomed
  · intro closure left hdone name value hbound hunmentioned
    have hbound : Entries.get? ({ request, journal } : Search).request.filters name = some value :=
      hbound
    exact get?_filters_of_unmentioned hbound hunmentioned hdone
  · intro closure left hdone name hname hkind htrue hothers
    refine get?_filters_of_patch hfound hpatch hstart rfl
      (hblends.mem_keys_filters hname hkind) ?_ hdone
    intro other change hsettled
    by_cases hother : other = key
    · subst hother
      cases hsettled.eq_of_settled hfound hpatch
      exact hblends.onlyTrue htrue
    · exact hothers other hother change hsettled

/-- A field that requires names, merged with a patch that asks for a table. -/
def totalBlended (names : List String) : Registry :=
  [("field:total",
      .bare (.patch ((Requirement.ofNames names).update { tables := some ["orders"] }))),
    ("table:orders", .bare .none), ("status", .bare .none)]

def closedTotals : Request where
  fields := some [.name "total"]
  filters := [("status", .text "closed")]

theorem static_totalBlended (names : List String) : (totalBlended names).Static :=
  Registry.static_of_forall (by simp [totalBlended, Fragment.bare, Prerequisite.Static])

/-- In that registry only the field has a patch. -/
theorem eq_of_settles_totalBlended {path asked : List String} {search : Search} {other : String}
    {change : Request}
    (h : Settles (totalBlended names) path asked search other (.patch change)) :
    other = "field:total" := by
  obtain ⟨found, request, journal, entries, hget, hresolved⟩ := h.resolved
  rcases List.mem_cons.mp (Entries.mem_of_get? hget) with hfield | hrest
  · cases hfield
    rfl
  · rcases List.mem_pair.mp hrest with htable | hfilter
    · cases htable
      cases hresolved
    · cases hfilter
      cases hresolved

theorem search_statusBlended :
    ∃ left, search (totalBlended ["status"]) { request := closedTotals } =
      (.ok ["table:orders", "status", "field:total"], left) := by
  have hwalk : walk (totalBlended ["status"]) closedTotals =
      ⟨[⟨[], "field:total"⟩, ⟨["field:total"], "table:orders"⟩, ⟨["field:total"], "status"⟩,
        ⟨[], "status"⟩], none⟩ := by
    cbv
  have hclosure : (final (totalBlended ["status"]) { request := closedTotals }).closure =
      ["table:orders", "status", "field:total"] := by
    rw [final, hwalk]
    cbv
  rw [← hclosure]
  exact ⟨_, search_of_done (static_totalBlended _) { request := closedTotals } (by rw [hwalk])⟩

/-- The bound status of the request becomes true. -/
theorem statusBlended_set_true :
    "field:total" ∈ closedTotals.keys ∧ ∃ left,
      search (totalBlended ["status"]) { request := closedTotals } =
        (.ok ["table:orders", "status", "field:total"], left) ∧
      Entries.get? (writeBack (totalBlended ["status"]) ["table:orders", "status", "field:total"]
        left.request).filters "status" = some (.bool true) := by
  have hrequested : "field:total" ∈ closedTotals.keys := by decide
  obtain ⟨left, hdone⟩ := search_statusBlended
  have hfound : Entries.get? (totalBlended ["status"]) "field:total" =
      some (.bare (.patch ((Requirement.ofNames ["status"]).update { tables := some ["orders"] }))) :=
    rfl
  obtain ⟨_, _, _, _, _, hset⟩ := search_blended hfound (Or.inl rfl) hrequested []
  refine ⟨hrequested, left, hdone, hset _ left hdone "status" (by simp) (by decide) nofun ?_⟩
  intro other hother change hsettled
  exact absurd (eq_of_settles_totalBlended hsettled) hother

/-- A list of a filter and of a name without a fragment, merged with a patch: the search succeeds,
where the list alone fails, and the bound value of the filter is gone. -/
theorem ghost_found_and_status_lost :
    Prerequisite.merge (.settled (.names ["ghost", "status"]))
        (.settled (.patch { tables := some ["orders"] })) =
      .ok (.settled (.patch ((Requirement.ofNames ["ghost", "status"]).update
        { tables := some ["orders"] }))) ∧
    "ghost" ∉ Entries.keys (totalBlended ["ghost", "status"]) ∧
    (search ((totalBlended ["ghost", "status"]).withNames "field:total" ["ghost", "status"])
      { request := closedTotals }).1 = .error (.prerequisiteNotFound "ghost" ["field:total"]) ∧
    ∃ closure left,
      search (totalBlended ["ghost", "status"]) { request := closedTotals } = (.ok closure, left) ∧
      Entries.get? closedTotals.filters "status" = some (.text "closed") ∧
      Entries.get? (writeBack (totalBlended ["ghost", "status"]) closure left.request).filters
        "status" = some (.bool true) := by
  have halone : (totalBlended ["ghost", "status"]).withNames "field:total" ["ghost", "status"] =
      [("field:total", .bare (.names ["ghost", "status"])), ("table:orders", .bare .none),
        ("status", .bare .none)] :=
    rfl
  have hstatic : Registry.Static [("field:total", .bare (.names ["ghost", "status"])),
      ("table:orders", .bare .none), ("status", .bare .none)] :=
    Registry.static_of_forall (by simp [Fragment.bare, Prerequisite.Static])
  have hbroken : (walk [("field:total", .bare (.names ["ghost", "status"])),
      ("table:orders", .bare .none), ("status", .bare .none)] closedTotals).failure =
        some (.prerequisiteNotFound "ghost" ["field:total"]) := by
    cbv
  have hwalk : (walk (totalBlended ["ghost", "status"]) closedTotals).failure = none := by
    cbv
  have hdone := search_of_done (static_totalBlended _) { request := closedTotals } hwalk
  have hrequested : "field:total" ∈ ({ request := closedTotals } : Search).request.keys := by
    decide
  refine ⟨rfl, by decide, ?_, _, _, hdone, rfl, ?_⟩
  · rw [halone]
    exact congrArg Prod.fst (search_of_broken hstatic { request := closedTotals } hbroken)
  · refine get?_filters_of_patch rfl rfl hrequested rfl (by decide) ?_ hdone
    intro other change hsettled
    obtain rfl := eq_of_settles_totalBlended hsettled
    cases hsettled.eq_of_settled rfl rfl
    exact Requirement.Blends.onlyTrue (Or.inl rfl) (Entries.OnlyTrue.of_not_mem (by decide))

end Closure

end QueryWeave

import QueryWeave.Proofs.Composer.GroupField
import QueryWeave.Proofs.Request.Patched

/-!
A patch that a field and a grouping share.  Main statement: `close_shared`, what the patch lists
itself, and not by name, is in the closed request once for each of the two that is asked for.
-/

namespace QueryWeave

universe u

section ReadyMade

variable {α : Type u} (name? : α → Option String)

theorem readyMade_map_name (ofName : String → α)
    (hofName : ∀ name, name? (ofName name) = some name) (names : List String) :
    readyMade name? (names.map ofName) = [] := by
  rw [readyMade, List.filter_eq_nil_iff]
  intro entry hentry
  obtain ⟨name, -, rfl⟩ := List.mem_map.mp hentry
  simp [hofName]

theorem readyMade_frontOf (ofName : String → α)
    (hofName : ∀ name, name? (ofName name) = some name) (names : List String) (entries : List α) :
    readyMade name? (Closure.frontOf name? ofName names entries) = readyMade name? entries := by
  rw [Closure.frontOf, readyMade_addEntries, readyMade_map_name _ _ hofName, List.nil_append]

end ReadyMade

/-- A list clause of requests.  A patch adds its entries, and writing a closure back adds names
only. -/
structure ListClause (α : Type) where
  name? : α → Option String
  entries : Request → List α
  entries_update : ∀ request patch : Request,
    entries (request.update patch) = addEntries name? (entries request) (entries patch)
  readyMade_writeBack : ∀ (registry : Registry) (keys : List String) (request : Request),
    readyMade name? (entries (Closure.writeBack registry keys request)) =
      readyMade name? (entries request)

namespace ListClause

def fields : ListClause FieldEntry where
  name? := FieldEntry.name?
  entries := Request.fieldList
  entries_update _ _ := getD_patchList _ _ _
  readyMade_writeBack _ _ _ := readyMade_frontOf FieldEntry.name? .name (fun _ => rfl) _ _

def groupings : ListClause GroupEntry where
  name? := GroupEntry.name?
  entries := Request.groupList
  entries_update _ _ := getD_patchList _ _ _
  readyMade_writeBack _ keys request := by
    change readyMade GroupEntry.name? (addEntries GroupEntry.name? request.groupList
      ((Closure.namesOf .group keys).map .name)) = _
    rw [readyMade_addEntries, readyMade_map_name GroupEntry.name? .name fun _ => rfl,
      List.append_nil]

def sorting : ListClause SortEntry where
  name? := SortEntry.name?
  entries := Request.sortList
  entries_update _ _ := Request.toList_patchSorting _ _
  readyMade_writeBack _ keys request := by
    change readyMade SortEntry.name? (Closure.addSorting request.sortList
      (Closure.namesOf .order keys)) = _
    rw [Closure.addSorting, readyMade_append, readyMade_map_name SortEntry.name? .name fun _ => rfl,
      List.append_nil]

variable {α : Type} (clause : ListClause α)

def ready (request : Request) : List α := readyMade clause.name? (clause.entries request)

theorem ready_update (request patch : Request) :
    clause.ready (request.update patch) = clause.ready request ++ clause.ready patch := by
  rw [ready, clause.entries_update, readyMade_addEntries, ready, ready]

/-- The ready-made entries of a result are those of a request and after them, so many times, those
of a patch. -/
def Repeats (times : Nat) (request patch result : Request) : Prop :=
  clause.ready result =
    clause.ready request ++ (List.replicate times (clause.ready patch)).flatten

theorem ready_writeBack (registry : Registry) (keys : List String) (request : Request) :
    clause.ready (Closure.writeBack registry keys request) = clause.ready request :=
  clause.readyMade_writeBack registry keys request

end ListClause

/-- How many of the field and the grouping under a name a request asks for. -/
def Request.timesAsked (request : Request) (name : String) : Nat :=
  [Kind.field, .group].countP fun kind => (request.asked kind).contains name

namespace Registry

/-- The keys of the field and the grouping under a name. -/
def pairKeys (name : String) : List String :=
  [Kind.field, .group].map fun kind => (Key.mk kind name).render

/-- The field and the grouping under a name are what one call has registered with a patch for both,
with whatever slots they have been given since and the expressions that they can look up. -/
def PairShares (registry : Registry) (name : String) (patch : Request) : Prop :=
  ∃ expression labelStart overwrite before after,
    registerGroupField (.text name) expression labelStart (.settled (.patch patch)) overwrite
      before = (.ok (), after) ∧
    ∀ key ∈ pairKeys name, ∃ fragment slots catalogue,
      Entries.get? after.registry key = some fragment ∧
      Entries.get? registry key = some { fragment with slots, catalogue }

variable {registry : Registry} {name key : String} {patch : Request}

theorem PairShares.prerequisite (h : registry.PairShares name patch) (hkey : key ∈ pairKeys name) :
    ∃ fragment, Entries.get? registry key = some fragment ∧
      fragment.prerequisite = .settled (.patch patch) := by
  obtain ⟨expression, labelStart, overwrite, before, after, hregistered, hheld⟩ := h
  obtain ⟨_, middle, hfield, hregistered⟩ := Action.bind_ok_inv hregistered
  obtain ⟨_, last, hgroup, hregistered⟩ := Action.bind_ok_inv hregistered
  cases hregistered
  obtain ⟨fragment, slots, catalogue, hmade, hfound⟩ := hheld key hkey
  refine ⟨_, hfound, ?_⟩
  rw [registerWith_ok_inv hgroup] at hmade
  by_cases hlast : (Key.mk .group name).render = key
  · rw [← hlast, Entries.get?_put_self] at hmade
    cases hmade
    rfl
  · have hfirst : (Key.mk .field name).render = key :=
      ((List.mem_pair.mp hkey).resolve_right (Ne.symm hlast)).symm
    rw [Entries.get?_put_of_ne _ _ hlast, registerWith_ok_inv hfield, hfirst,
      Entries.get?_put_self] at hmade
    cases hmade
    rfl

theorem nodup_pairKeys (name : String) : (pairKeys name).Nodup := by
  have hne : (Key.mk .field name).render ≠ (Key.mk .group name).render := by
    intro hsame
    have hparsed := congrArg Key.parse hsame
    rw [Key.parse_render (by decide), Key.parse_render (by decide)] at hparsed
    cases hparsed
  exact List.nodup_cons.mpr ⟨fun h => hne (List.mem_singleton.mp h), List.nodup_singleton _⟩

end Registry

theorem Search.mem_patched_obey {search : Search} {key other : String} {requirement : Requirement} :
    other ∈ (search.obey key requirement).patched ↔
      other ∈ search.patched ∨ other = key ∧ ∃ change, requirement = .patch change := by
  cases requirement with
  | patch change =>
      rw [obey, applyPatch]
      split
      next hheld =>
        constructor
        · exact .inl
        · rintro (h | ⟨rfl, -⟩)
          · exact h
          · exact List.contains_iff_mem.mp hheld
      next => simp
  | _ => simp [obey]

namespace Closure

section Shared

variable {registry : Registry} {path keys : List String} {search left : Search} {name key : String}
  {patch : Request} {requirement : Requirement} {α : Type}

theorem Settles.eq_patch (h : Settles registry path keys search key requirement)
    (hshared : registry.PairShares name patch) (hkey : key ∈ Registry.pairKeys name) :
    requirement = .patch patch := by
  obtain ⟨fragment, hfound, hsettled⟩ := hshared.prerequisite hkey
  exact h.eq_of_settled hfound hsettled

variable (hshared : registry.PairShares name patch)
  (honly : ∀ key change, Settles registry path keys search key (.patch change) →
    key ∈ Registry.pairKeys name)
  (hdone : visitAll registry path keys search = (.ok (), left))

include hshared honly hdone

theorem repeats_visitAll (hpatched : search.patched = []) (clause : ListClause α) :
    clause.Repeats left.patched.length search.request patch left.request := by
  refine visitAll_keeps
    (fun request patched => clause.Repeats patched.length search.request patch request) ?_ ?_ hdone
  · intro key change hsettled current hcurrent
    cases hsettled.eq_patch hshared (honly key change hsettled)
    rw [Search.applyPatch]
    split
    · exact hcurrent
    · rw [ListClause.Repeats] at hcurrent ⊢
      rw [ListClause.ready_update, hcurrent, List.length_append, List.length_singleton,
        List.replicate_succ', List.flatten_concat, List.append_assoc]
  · rw [hpatched]
    exact (List.append_nil _).symm

omit hshared in
theorem patched_visitAll (hpatched : search.patched = []) :
    left.patched.Nodup ∧ left.patched ⊆ Registry.pairKeys name := by
  refine visitAll_keeps (fun _ patched => patched.Nodup ∧ patched ⊆ Registry.pairKeys name)
    ?_ ?_ hdone
  · rintro key change hsettled current ⟨hnodup, hsub⟩
    rw [Search.applyPatch]
    split
    · exact ⟨hnodup, hsub⟩
    next hnew =>
      rw [List.contains_iff_mem] at hnew
      exact ⟨(List.concat_eq_append ▸ hnodup.concat hnew),
        List.append_subset.mpr
          ⟨hsub, List.cons_subset.mpr ⟨honly key change hsettled, List.nil_subset _⟩⟩⟩
  · rw [hpatched]
    exact ⟨List.nodup_nil, List.nil_subset _⟩

omit honly in
theorem mem_patched_iff_met (hpatched : search.patched = []) (hweights : search.weights = []) :
    ∀ key ∈ Registry.pairKeys name, key ∈ left.patched ↔ key ∈ Entries.keys left.weights := by
  refine visitAll_preserves (fun current => ∀ key ∈ Registry.pairKeys name,
    key ∈ current.patched ↔ key ∈ Entries.keys current.weights) ?_ ?_ hdone
  · intro met requirement hsettled current depth entries hcurrent key hkey
    dsimp only
    rw [Search.mem_patched_obey, Search.obey_weights, Search.keys_weights_visit, ← hcurrent key hkey]
    refine or_congr Iff.rfl ⟨And.left, ?_⟩
    rintro rfl
    exact ⟨rfl, patch, hsettled.eq_patch hshared hkey⟩
  · intro key _
    rw [hpatched, hweights]
    exact iff_of_false List.not_mem_nil List.not_mem_nil

theorem length_patched_visitAll (hpatched : search.patched = []) (hweights : search.weights = []) :
    left.patched.length = [Kind.field, .group].countP fun kind =>
      (Entries.keys left.weights).contains (Key.mk kind name).render := by
  obtain ⟨hnodup, hsub⟩ := patched_visitAll honly hdone hpatched
  have hmet := mem_patched_iff_met hshared hdone hpatched hweights
  have hperm : left.patched.Perm
      ((Registry.pairKeys name).filter fun key => (Entries.keys left.weights).contains key) := by
    rw [List.perm_ext_iff_of_nodup hnodup ((Registry.nodup_pairKeys name).filter _)]
    intro key
    rw [List.mem_filter, List.contains_iff_mem]
    exact ⟨fun h => ⟨hsub h, (hmet key (hsub h)).mp h⟩, fun h => (hmet key h.1).mpr h.2⟩
  rw [hperm.length_eq, ← List.countP_eq_length_filter, Registry.pairKeys, List.countP_map]
  rfl

end Shared

end Closure

namespace Composer

variable {registry : Registry} {request closed : Request} {journal : Journal} {name : String}
  {patch : Request}

theorem close_ok_inv (hclosed : (close registry request journal).1 = .ok closed) :
    ∃ keys left, Closure.search registry { request, journal } = (.ok keys, left) ∧
      closed = Closure.writeBack registry keys left.request := by
  rw [close] at hclosed
  cases hsearch : Closure.search registry { request, journal } with
  | mk outcome left =>
      rw [hsearch] at hclosed
      cases outcome with
      | error failure => cases hclosed
      | ok keys =>
          cases hclosed
          exact ⟨keys, left, rfl, rfl⟩

theorem close_of_walk (hstatic : registry.Static) {visits : List Visit}
    (hwalk : Closure.walk registry request = ⟨visits, none⟩) (keys : List String)
    (hkeys : (visits.foldl (Search.meet registry) { request, journal }).closure = keys) :
    (close registry request journal).1 = .ok (Closure.writeBack registry keys
      (visits.foldl (Search.meet registry) { request, journal }).request) := by
  rw [close, Closure.search_of_done hstatic _ (by rw [hwalk]), Closure.final, hwalk, ← hkeys]
  rfl

/-- A patch that the field and the grouping under a name share is put into a request once for each
of them that the closed request asks for, and so are its entries that are no bare names.  No other
prerequisite is settled as a patch. -/
theorem close_shared (hshared : registry.PairShares name patch)
    (honly : ∀ key change,
      Closure.Settles registry [] request.keys { request, journal } key (.patch change) →
      key ∈ Registry.pairKeys name)
    (hclosed : (close registry request journal).1 = .ok closed) :
    (∀ kind, request.asked kind ⊆ closed.asked kind) ∧
      ListClause.fields.Repeats (closed.timesAsked name) request patch closed ∧
      ListClause.groupings.Repeats (closed.timesAsked name) request patch closed ∧
      ListClause.sorting.Repeats (closed.timesAsked name) request patch closed := by
  obtain ⟨keys, left, hdone, rfl⟩ := close_ok_inv hclosed
  have hvisited := Closure.search_ok_inv hdone
  have htimes : left.patched.length =
      (Closure.writeBack registry keys left.request).timesAsked name := by
    rw [Closure.length_patched_visitAll hshared honly hvisited rfl rfl, Request.timesAsked]
    apply List.countP_congr
    intro kind hkind
    obtain ⟨fragment, hfound, -⟩ := hshared.prerequisite (List.mem_map_of_mem hkind)
    rw [List.contains_iff_mem, List.contains_iff_mem]
    refine (Closure.mem_asked_closed_iff_met rfl hdone ?_ (Entries.mem_keys_of_get? hfound)).symm
    rintro rfl
    exact absurd hkind (by decide)
  have hrepeats {α : Type} (clause : ListClause α) :
      clause.Repeats ((Closure.writeBack registry keys left.request).timesAsked name) request patch
        (Closure.writeBack registry keys left.request) := by
    rw [← htimes, ListClause.Repeats, ListClause.ready_writeBack]
    exact Closure.repeats_visitAll hshared honly hvisited rfl clause
  refine ⟨?_, hrepeats .fields, hrepeats .groupings, hrepeats .sorting⟩
  intro kind name hname
  exact (Closure.mem_asked_closed_iff rfl hdone).mpr
    (.inl (Closure.asked_visitAll hvisited kind hname))

/-- The latest first. -/
def latest : OrderTerm := ⟨.named "created", .descending⟩

/-- Days as a field and as a grouping, either of which sorts. -/
def calendar : Registry :=
  [("field:day",
      { recipe := GroupField.column "day" "group_day"
          (GroupField.computedBy (.expression (.named "day")))
        prerequisite := .settled (.patch { sorting := .one (.term latest) }) }),
    ("groupBy:day",
      { recipe := GroupField.grouping "day" "group_day"
          (GroupField.computedBy (.expression (.named "day")))
        prerequisite := .settled (.patch { sorting := .one (.term latest) }) })]

def dayByName : Request where
  fields := some [.name "day"]
  sorting := .one (.key ⟨"total", none⟩)

def dayBothWays : Request :=
  { dayByName with grouping := some [.name "day"] }

theorem calendar_shares : calendar.PairShares "day" { sorting := .one (.term latest) } := by
  refine ⟨.expression (.named "day"), "group_", false, ⟨[], []⟩, _, rfl, ?_⟩
  intro key hkey
  rcases List.mem_pair.mp hkey with rfl | rfl
  · exact ⟨_, [], {}, rfl, rfl⟩
  · exact ⟨_, [], {}, rfl, rfl⟩

theorem calendar_static : calendar.Static :=
  Registry.static_of_forall (by simp [calendar, Prerequisite.Static])

theorem keys_calendar : Entries.keys calendar = Registry.pairKeys "day" := rfl

theorem walk_dayByName : Closure.walk calendar dayByName = ⟨[⟨[], "field:day"⟩], none⟩ := by
  cbv

theorem walk_dayBothWays : Closure.walk calendar dayBothWays =
    ⟨[⟨[], "field:day"⟩, ⟨[], "groupBy:day"⟩], none⟩ := by
  cbv

theorem closed_dayByName : (close calendar dayByName []).1 =
    .ok { dayByName with
      tables := some []
      grouping := some []
      sorting := .many [.key ⟨"total", none⟩, .term latest] } := by
  rw [close_of_walk calendar_static walk_dayByName ["field:day"] (by cbv)]
  rfl

theorem closed_dayBothWays : (close calendar dayBothWays []).1 =
    .ok { dayBothWays with
      tables := some []
      sorting := .many [.key ⟨"total", none⟩, .term latest, .term latest] } := by
  rw [close_of_walk calendar_static walk_dayBothWays ["field:day", "groupBy:day"] (by cbv)]
  rfl

/-- The day sorts once for each way that it is asked for. -/
theorem calendar_sorts_each_way :
    calendar.PairShares "day" { sorting := .one (.term latest) } ∧
    (∀ request key change,
      Closure.Settles calendar [] request.keys { request, journal := [] } key (.patch change) →
        key ∈ Registry.pairKeys "day") ∧
    (∃ closed, (close calendar dayByName []).1 = .ok closed ∧
      ListClause.sorting.ready closed = [.key ⟨"total", none⟩, .term latest]) ∧
    ∃ closed, (close calendar dayBothWays []).1 = .ok closed ∧
      ListClause.sorting.ready closed = [.key ⟨"total", none⟩, .term latest, .term latest] := by
  have honly : ∀ request key change,
      Closure.Settles calendar [] request.keys { request, journal := [] } key (.patch change) →
        key ∈ Registry.pairKeys "day" := by
    intro request key change hsettled
    obtain ⟨fragment, _, _, _, hfound, _⟩ := hsettled.resolved
    exact keys_calendar ▸ Entries.mem_keys_of_get? hfound
  obtain ⟨-, -, -, honce⟩ := close_shared calendar_shares (honly _) closed_dayByName
  obtain ⟨-, -, -, htwice⟩ := close_shared calendar_shares (honly _) closed_dayBothWays
  exact ⟨calendar_shares, honly, ⟨_, closed_dayByName, honce⟩, _, closed_dayBothWays, htwice⟩

/-- Asked for both ways, the day sorts twice by the same term, and asked for as a field only it sorts
once. -/
theorem calendar_sorts_twice :
    calendar.PairShares "day" { sorting := .one (.term latest) } ∧
    Entries.keys calendar = Registry.pairKeys "day" ∧
    ∃ both one, (close calendar dayBothWays []).1 = .ok both ∧
      (close calendar dayByName []).1 = .ok one ∧
      ListClause.sorting.ready both = [.key ⟨"total", none⟩, .term latest, .term latest] ∧
      ListClause.sorting.ready one = [.key ⟨"total", none⟩, .term latest] :=
  ⟨calendar_shares, keys_calendar, _, _, closed_dayBothWays, closed_dayByName, rfl, rfl⟩

end Composer

end QueryWeave

import QueryWeave.Proofs.Composer.Parts
import QueryWeave.Proofs.Datum.Merge
import QueryWeave.Proofs.Tree.Erased

/-!
What the placeholders of a filter hold once a value is bound.  Main statement:
`Fragment.applyFilter_binds`, a place with a slot holds what its format makes of the whole value,
what the bound value has for the name of the slot, or the default of the last slot of that name;
nothing else changes.
-/

namespace QueryWeave

/-- What a bound value has for a slot of a name.  Only an object has something for any name. -/
def Datum.offered? (bound : Datum) (name : String) : Option Datum :=
  match bound with
  | .object members => Entries.get? members name
  | .null | .bool true => none
  | value => if name = "value" then some value else none

/-- A format alone decides what its slot resolves to. -/
theorem Slot.resolve_eq_ok_iff {slot : Slot} {format : Template} {value result : Datum}
    (hformat : slot.format = some format) :
    slot.resolve value = .ok result ↔
      ∃ text, format.render value = .ok text ∧ .text text = result := by
  unfold resolve
  rw [hformat]
  dsimp only
  cases format.render value with
  | error reason => simp
  | ok text => simp

theorem Slot.exists_resolve_iff {slot : Slot} {value : Datum} :
    (∃ result, slot.resolve value = .ok result) ↔
      ∀ format, slot.format = some format → ∃ text, format.render value = .ok text := by
  cases hformat : slot.format with
  | some format =>
      simp only [resolve_eq_ok_iff hformat, Option.some.injEq, forall_eq']
      constructor
      · rintro ⟨_, text, htext, _⟩
        exact ⟨text, htext⟩
      · rintro ⟨text, htext⟩
        exact ⟨_, text, htext, rfl⟩
  | none =>
      unfold resolve
      rw [hformat]
      refine iff_of_true ?_ nofun
      cases value <;> exact ⟨_, rfl⟩

theorem Slot.resolve_object {slot : Slot} (hformat : slot.format = none) (members : Entries Datum) :
    slot.resolve (.object members) = .ok (Datum.member members slot.name) := by
  unfold resolve
  rw [hformat]

theorem Expr.placeholders_of_isWildcard {expression : Expr} (h : expression.isWildcard = true) :
    expression.placeholders = [] := by
  cases expression with
  | column table name => rfl
  | _ => cases h

/-- Unqualified `*` columns have no placeholders to lose. -/
theorem Query.placeholders_withoutWildcard (query : Query) :
    query.withoutWildcard.placeholders = query.placeholders := by
  have hcolumns (columns : List ResultColumn) :
      (columns.filter fun column => !column.expression.isWildcard).flatMap
          ResultColumn.placeholders = columns.flatMap ResultColumn.placeholders := by
    induction columns with
    | nil => rfl
    | cons column rest ih =>
        obtain ⟨expression, label⟩ := column
        cases hwildcard : expression.isWildcard with
        | false => simp [hwildcard, ih]
        | true =>
            simp [hwildcard, ih, ResultColumn.placeholders,
              Expr.placeholders_of_isWildcard hwildcard]
  obtain ⟨distinct, select, tables, filter, group, order, limit, union⟩ := query
  simp [withoutWildcard, placeholders, selectList, hcolumns]

namespace Fragment

variable {fragment : Fragment} {bound : Datum} {request : Request}

/-- What the source of a filter gives for a bound value, unqualified `*` columns included. -/
def drawn (fragment : Fragment) (bound : Datum) (request : Request) : Except Failure Query :=
  match fragment.recipe with
  | .fixed query => .ok query
  | .unusable => .error .malformed
  | .computed _ ofBound => ofBound fragment.catalogue bound request

theorem produce_eq_map_drawn (fragment : Fragment) (bound : Datum) (request : Request) :
    fragment.produce bound request = (fragment.drawn bound request).map Query.withoutWildcard := by
  rw [produce, drawn]
  cases fragment.recipe with
  | fixed query => rfl
  | unusable => rfl
  | computed ofRequest ofBound => rfl

/-- The last slot of a name. -/
def lastNamed? (fragment : Fragment) (name : String) : Option Slot :=
  (fragment.slots.reverse.find? (·.2.name == name)).map Prod.snd

/-- What comes to stand at a place that held something, once a value is bound. -/
inductive Binds (fragment : Fragment) (bound : Datum) (place : Nat) (held : Datum) : Datum → Prop
  | kept (hslot : fragment.slotAt? place = none) : Binds fragment bound place held held
  | rendered {slot : Slot} {format : Template} {text : String}
      (hslot : fragment.slotAt? place = some slot) (hformat : slot.format = some format)
      (htext : format.render (fragment.effectiveValue bound) = .ok text) :
      Binds fragment bound place held (.text text)
  | offered {slot : Slot} {value : Datum} (hslot : fragment.slotAt? place = some slot)
      (hformat : slot.format = none) (hoffered : bound.offered? slot.name = some value) :
      Binds fragment bound place held value
  /-- The default is not always that of the slot itself. -/
  | defaulted {slot last : Slot} (hslot : fragment.slotAt? place = some slot)
      (hformat : slot.format = none) (hoffered : bound.offered? slot.name = none)
      (hlast : fragment.lastNamed? slot.name = some last) :
      Binds fragment bound place held last.default

/-- A place can come to hold one thing only. -/
theorem Binds.unique {place : Nat} {held value other : Datum}
    (h : fragment.Binds bound place held value) (hother : fragment.Binds bound place held other) :
    value = other := by
  cases h <;> cases hother <;> simp_all

theorem get?_defaults (fragment : Fragment) (name : String) :
    Entries.get? fragment.defaults name = (fragment.lastNamed? name).map Slot.default := by
  have hoverlay : fragment.defaults =
      Entries.overlay [] (fragment.slots.map fun pair => (pair.2.name, pair.2.default)) := rfl
  rw [hoverlay, Entries.get?_overlay, ← List.map_reverse, Entries.get?_eq_find?, List.find?_map,
    Entries.get?_nil, Option.or_none, lastNamed?, Option.map_map, Option.map_map]
  rfl

theorem exists_lastNamed? {place : Nat} {slot : Slot} (h : fragment.slotAt? place = some slot) :
    ∃ last, fragment.lastNamed? slot.name = some last := by
  obtain ⟨pair, hfound, rfl⟩ := Option.map_eq_some_iff.mp h
  have hsome : (fragment.slots.reverse.find? (·.2.name == pair.2.name)).isSome = true :=
    List.find?_isSome.mpr
      ⟨pair, List.mem_reverse.mpr (List.mem_of_find?_eq_some hfound), beq_self_eq_true _⟩
  obtain ⟨last, hlast⟩ := Option.isSome_iff_exists.mp hsome
  exact ⟨last.2, Option.map_eq_some_iff.mpr ⟨last, hlast, rfl⟩⟩

/-- Slots are resolved against an object: what is offered, and else the defaults by name. -/
theorem effectiveValue_eq_object (hslots : fragment.slots ≠ [])
    (hnodup : ∀ members, bound = .object members → (Entries.keys members).Nodup) :
    ∃ members, fragment.effectiveValue bound = .object members ∧
      ∀ name, Entries.get? members name =
        (bound.offered? name).or ((fragment.lastNamed? name).map Slot.default) := by
  have hempty : fragment.slots.isEmpty = false := List.isEmpty_eq_false_iff.mpr hslots
  have hdefault : fragment.default = .object fragment.defaults := by
    rw [default, hempty]
    rfl
  have hput (value : Datum) (name : String) :
      Entries.get? (Entries.put fragment.defaults "value" value) name =
        (if name = "value" then some value else none).or
          ((fragment.lastNamed? name).map Slot.default) := by
    by_cases heq : name = "value"
    · subst heq
      rw [Entries.get?_put_self, if_pos rfl, Option.some_or]
    · rw [Entries.get?_put_of_ne _ _ (Ne.symm heq), if_neg heq, Option.none_or, get?_defaults]
  cases bound with
  | null => exact ⟨_, hdefault, get?_defaults fragment⟩
  | bool given =>
      cases given with
      | true => exact ⟨_, hdefault, get?_defaults fragment⟩
      | false => exact ⟨_, by simp [effectiveValue, hempty], hput (.bool false)⟩
  | object members =>
      refine ⟨Entries.overlay fragment.defaults members, by simp [effectiveValue, hempty], ?_⟩
      intro name
      rw [Entries.get?_overlay, Entries.get?_reverse_of_nodup (hnodup members rfl),
        get?_defaults]
      rfl
  | _ => exact ⟨_, by simp [effectiveValue, hempty], hput _⟩

/-- What is put at a place, given the value that slots are resolved against. -/
def bindingAt (fragment : Fragment) (value : Datum) (place : Nat) (held : Datum) :
    Except Failure Datum :=
  match fragment.slotAt? place with
  | some slot => slot.resolve value
  | none => .ok held

theorem bindings_eq_mapM (fragment : Fragment) (value : Datum) (place : Nat)
    (held : List Datum) :
    (fragment.bindings value place held).map (List.map Prod.snd) =
      (held.zipIdx place).mapM fun pair => fragment.bindingAt value pair.2 pair.1 := by
  induction held generalizing place with
  | nil => rfl
  | cons first rest ih =>
      rw [List.zipIdx_cons, List.mapM_cons, ← ih, bindings, bindingAt]
      cases fragment.slotAt? place with
      | none => cases fragment.bindings value (place + 1) rest <;> rfl
      | some slot =>
          dsimp only
          cases slot.resolve value with
          | error failure => rfl
          | ok result => cases fragment.bindings value (place + 1) rest <;> rfl

/-- The tree of a filter is the tree of its source, filled place by place. -/
theorem filterTree_eq {name : String} {source : Query}
    (hsource : fragment.drawn (Datum.member request.filters name) request = .ok source) :
    fragment.filterTree name request =
      (source.placeholders.zipIdx.mapM fun pair =>
        fragment.bindingAt (fragment.effectiveValue (Datum.member request.filters name)) pair.2
          pair.1).map source.withoutWildcard.fill := by
  have hproduced : fragment.produce (Datum.member request.filters name) request =
      .ok source.withoutWildcard := by
    rw [produce_eq_map_drawn, hsource]
    rfl
  rw [← bindings_eq_mapM, filterTree, hproduced, ← Query.placeholders_withoutWildcard source]
  dsimp only [Action.ok_bind]
  cases fragment.bindings _ 0 source.withoutWildcard.placeholders <;> rfl

/-- Binding fails only for want of a rendered text. -/
theorem exists_bindingAt_iff {value held : Datum} {place : Nat} :
    (∃ result, fragment.bindingAt value place held = .ok result) ↔
      ∀ slot format, fragment.slotAt? place = some slot → slot.format = some format →
        ∃ text, format.render value = .ok text := by
  unfold bindingAt
  cases fragment.slotAt? place with
  | none => simp
  | some slot =>
      dsimp only
      rw [Slot.exists_resolve_iff]
      constructor
      · rintro h _ format ⟨⟩
        exact h format
      · exact fun h format => h slot format rfl

theorem binds_of_bindingAt (hslots : fragment.slots ≠ [])
    (hnodup : ∀ members, bound = .object members → (Entries.keys members).Nodup)
    {place : Nat} {held value : Datum}
    (h : fragment.bindingAt (fragment.effectiveValue bound) place held = .ok value) :
    fragment.Binds bound place held value := by
  unfold bindingAt at h
  split at h
  next slot hslot =>
    cases hformat : slot.format with
    | some format =>
        obtain ⟨text, htext, rfl⟩ := (Slot.resolve_eq_ok_iff hformat).mp h
        exact .rendered hslot hformat htext
    | none =>
        obtain ⟨members, heffective, hmembers⟩ := effectiveValue_eq_object hslots hnodup
        obtain ⟨last, hlast⟩ := exists_lastNamed? hslot
        rw [heffective, Slot.resolve_object hformat, Datum.member, hmembers, hlast] at h
        cases h
        cases hoffered : bound.offered? slot.name with
        | some value => exact .offered hslot hformat hoffered
        | none => exact .defaulted hslot hformat hoffered hlast
  next hslot =>
    cases h
    exact .kept hslot

theorem nodup_of_keyed {name : String} (hkeyed : request.filters.Keyed) :
    ∀ members, Datum.member request.filters name = .object members →
      (Entries.keys members).Nodup := by
  intro members hmember
  rw [Datum.member] at hmember
  cases hfound : Entries.get? request.filters name with
  | none =>
      rw [hfound] at hmember
      cases hmember
  | some value =>
      rw [hfound, Option.getD_some] at hmember
      exact (hkeyed.inner (hmember ▸ hfound)).nodup

/-- A filter is bound exactly if the formats of its places render.  Then every place holds what
`Binds` says, and the tree is otherwise that of the source, without unqualified `*` columns. -/
theorem applyFilter_binds {name : String} {source : Query} (hslots : fragment.slots ≠ [])
    (hkeyed : request.filters.Keyed)
    (hsource : fragment.drawn (Datum.member request.filters name) request = .ok source)
    (journal : Journal) :
    ((∃ result, (fragment.applyFilter name request journal).1 = .ok result) ↔
        ∀ place slot format, place < source.placeholders.length →
          fragment.slotAt? place = some slot → slot.format = some format →
            ∃ text, format.render
              (fragment.effectiveValue (Datum.member request.filters name)) = .ok text) ∧
      ∀ result, (fragment.applyFilter name request journal).1 = .ok result →
        result.placeholders.length = source.placeholders.length ∧
          (∀ place held, source.placeholders[place]? = some held →
            ∃ value, result.placeholders[place]? = some value ∧
              fragment.Binds (Datum.member request.filters name) place held value) ∧
          result.erased = source.withoutWildcard.erased ∧
          (Node.query result).aside = (Node.query source.withoutWildcard).aside := by
  rw [applyFilter_yields fragment name request journal, filterTree_eq hsource]
  constructor
  · rw [Action.exists_map_eq_ok_iff, Action.exists_mapM_eq_ok_iff]
    simp only [exists_bindingAt_iff]
    constructor
    · intro h place slot format hplace
      have hmem : (source.placeholders[place], place) ∈ source.placeholders.zipIdx :=
        List.mem_zipIdx_iff_getElem?.mpr (List.getElem?_eq_getElem hplace)
      exact h _ hmem slot format
    · rintro h ⟨held, place⟩ hmem slot format
      have hheld := List.mem_zipIdx_iff_getElem?.mp hmem
      exact h place slot format (List.getElem?_eq_some_iff.mp hheld).1
  · intro result hresult
    obtain ⟨values, hvalues, rfl⟩ := Action.map_eq_ok_iff.mp hresult
    rw [Action.mapM_eq_ok_iff, List.forall₂_iff_get] at hvalues
    obtain ⟨hlength, hplaces⟩ := hvalues
    rw [List.length_zipIdx] at hlength
    have hfilled : (source.withoutWildcard.fill values).placeholders = values := by
      have hwhole := (Node.query source.withoutWildcard).placeholders_fill values
      rw [Supply.onto_of_length_eq] at hwhole
      · exact hwhole
      · exact hlength.symm.trans (congrArg List.length source.placeholders_withoutWildcard).symm
    refine ⟨by rw [hfilled, hlength], ?_, Query.erased_fill _ _,
      (Node.query source.withoutWildcard).aside_fill values⟩
    intro place held hheld
    obtain ⟨hplace, rfl⟩ := List.getElem?_eq_some_iff.mp hheld
    have hbound := hplaces place (by rwa [List.length_zipIdx]) (by rwa [← hlength])
    simp only [List.get_eq_getElem, List.getElem_zipIdx, Nat.zero_add] at hbound
    refine ⟨values[place], ?_, binds_of_bindingAt hslots (nodup_of_keyed hkeyed) hbound⟩
    rw [hfilled, List.getElem?_eq_getElem]

end Fragment

/-- A template that shows a member of an object between two texts; a missing one shows nothing. -/
def Template.around (before name after : String) : Template where
  text := before ++ "\x7b\x7b value." ++ name ++ " \x7d\x7d" ++ after
  render value :=
    let shown := match value with
      | .object members => (Entries.get? members name).elim "" Datum.display
      | _ => ""
    .ok (before ++ shown ++ after)

namespace Fragment

/-- Sailings of some hours on the northern line, of the ports with a pattern. -/
def sailed : Query :=
  { Query.empty with
    filter := .one (.conjunction
      [.between (.named "hour") false (.placeholder .null) (.placeholder .null),
        .like (.named "port") false (.placeholder .null),
        .compare (.named "line") .equal (.placeholder (.text "north"))]) }

/-- The line has no slot, and the pattern is one for all that starts as the name of a port does. -/
def shift : Fragment where
  recipe := .fixed sailed
  prerequisite := .settled .none
  slots := [(0, ⟨"from", .int 6, none⟩), (1, ⟨"to", .int 18, none⟩),
    (2, ⟨"port", .text "", some (.around "" "port" "%")⟩)]

/-- A caller that gives the last hour and a port. -/
def untilNoon : Request :=
  { filters := [("shift", .object [("to", .int 12), ("port", .text "A")])] }

theorem shift_until_noon :
    shift.slots ≠ [] ∧ untilNoon.filters.Keyed ∧
      shift.drawn (Datum.member untilNoon.filters "shift") untilNoon = .ok sailed ∧
      ∃ result, (shift.applyFilter "shift" untilNoon []).1 = .ok result ∧
        result.placeholders = [.int 6, .int 12, .text "A%", .text "north"] := by
  have hslots : shift.slots ≠ [] := by simp [shift]
  have hkeyed : untilNoon.filters.Keyed :=
    .cons_object (by decide) (.of_plain (by decide) (by simp)) (.of_plain (by decide) (by simp))
  have hsource : shift.drawn (Datum.member untilNoon.filters "shift") untilNoon = .ok sailed := rfl
  obtain ⟨hrenders, hbinds⟩ := applyFilter_binds hslots hkeyed hsource []
  obtain ⟨result, hresult⟩ := hrenders.mpr fun place slot format _ hslot hformat => by
    obtain ⟨pair, hfound, rfl⟩ := Option.map_eq_some_iff.mp hslot
    have hmem := List.mem_of_find?_eq_some hfound
    simp only [shift, List.mem_cons, List.not_mem_nil, or_false] at hmem
    rcases hmem with rfl | rfl | rfl <;> cases hformat
    exact ⟨_, rfl⟩
  obtain ⟨hlength, hplaces, _⟩ := hbinds result hresult
  obtain ⟨_, hfirst, hfrom⟩ := hplaces 0 .null rfl
  obtain ⟨_, hsecond, hto⟩ := hplaces 1 .null rfl
  obtain ⟨_, hthird, hport⟩ := hplaces 2 .null rfl
  obtain ⟨_, hfourth, hline⟩ := hplaces 3 (.text "north") rfl
  cases hfrom.unique (.defaulted rfl rfl rfl rfl)
  cases hto.unique (.offered rfl rfl rfl)
  cases hport.unique (.rendered rfl rfl rfl)
  cases hline.unique (.kept rfl)
  refine ⟨hslots, hkeyed, hsource, result, hresult, ?_⟩
  match result.placeholders, hlength, hfirst, hsecond, hthird, hfourth with
  | [_, _, _, _], _, rfl, rfl, rfl, rfl => rfl

/-- Days between two that have the same name and different defaults. -/
def span : Fragment where
  recipe := .fixed { Query.empty with
    filter := .one (.between (.named "day") false (.placeholder .null) (.placeholder .null)) }
  prerequisite := .settled .none
  slots := [(0, ⟨"day", .int 1, none⟩), (1, ⟨"day", .int 9, none⟩)]

/-- The first place gets the default of the second. -/
theorem span_loses_default :
    (span.slotAt? 0).map Slot.default = some (.int 1) ∧
      (Datum.bool true).offered? "day" = none ∧
      ∃ result,
        (span.applyFilter "span" { filters := [("span", .bool true)] } []).1 = .ok result ∧
          result.placeholders = [.int 9, .int 9] :=
  ⟨rfl, rfl, _, rfl, rfl⟩

end Fragment

end QueryWeave

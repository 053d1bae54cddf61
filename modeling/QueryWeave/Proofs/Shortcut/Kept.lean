import QueryWeave.Proofs.Registry.Shelf
import QueryWeave.Proofs.Shortcut.Turn

namespace QueryWeave

namespace Registry

variable {registry : Registry} {key other : String} {fragment : Fragment}
  {change : Fragment → Fragment} {count : Nat}

theorem keys_modifyAt (key : String) (change : Fragment → Fragment) (registry : Registry) :
    Entries.keys (modifyAt key change registry) = Entries.keys registry := by
  rw [modifyAt]
  split
  next fragment hfound => rw [Entries.keys_put, if_pos (Entries.mem_keys_of_get? hfound)]
  next => rfl

theorem get?_modifyAt_of_ne (hne : key ≠ other) (registry : Registry) :
    Entries.get? (modifyAt key change registry) other = Entries.get? registry other := by
  rw [modifyAt]
  split
  next => exact Entries.get?_put_of_ne _ _ hne
  next => rfl

theorem get?_modifyAt_self (key : String) (change : Fragment → Fragment) (registry : Registry) :
    Entries.get? (modifyAt key change registry) key = (Entries.get? registry key).map change := by
  rw [modifyAt]
  split
  next fragment hfound => rw [Entries.get?_put_self, hfound, Option.map_some]
  next hnone => rw [hnone, Option.map_none]

/-- A registry with the fragments after the first ones changed. -/
def changedAfter (count : Nat) (change : Fragment → Fragment) (registry : Registry) : Registry :=
  registry.take count ++ (registry.drop count).map fun pair => (pair.1, change pair.2)

theorem keys_changedAfter (count : Nat) (change : Fragment → Fragment) (registry : Registry) :
    Entries.keys (changedAfter count change registry) = Entries.keys registry := by
  rw [changedAfter, Entries.keys_append, Entries.keys_map_values, ← Entries.keys_append,
    List.take_append_drop]

theorem get?_changedAfter_of_mem (hmem : key ∈ Entries.keys (registry.take count)) :
    Entries.get? (changedAfter count change registry) key = Entries.get? registry key := by
  rw [changedAfter, Entries.get?_append_of_mem hmem, ← Entries.get?_append_of_mem hmem,
    List.take_append_drop]

theorem get?_changedAfter_of_not_mem (hnot : key ∉ Entries.keys (registry.take count)) :
    Entries.get? (changedAfter count change registry) key =
      (Entries.get? registry key).map change := by
  rw [changedAfter, Entries.get?_append_of_not_mem hnot, Entries.get?_map_values,
    ← Entries.get?_append_of_not_mem hnot, List.take_append_drop]

namespace Shelf

variable {overwritten : List String} {before after : Shelf}

/-- The keys of a sound shelf can hold other fragments. -/
theorem Sound.withRegistry (h : after.Sound)
    (hkeys : Entries.keys registry = Entries.keys after.registry)
    (hordered : ∀ key fragment, Entries.get? registry key = some fragment → fragment.Ordered) :
    Sound { after with registry } where
  nodup := by
    rw [hkeys]
    exact h.nodup
  recorded := by
    rw [hkeys]
    exact h.recorded
  proper := by
    rw [hkeys]
    exact h.proper
  ordered := hordered

section Change

variable (h : Follows overwritten before after)
  (hchange : ∀ fragment : Fragment, fragment.Ordered → (change fragment).Ordered)

include h hchange

/-- A fragment that is new can be changed. -/
theorem Follows.modifyAt (hfresh : key ∉ Entries.keys before.registry) :
    Follows overwritten before
      { after with registry := Registry.modifyAt key change after.registry } where
  sound hsound := by
    have hafter := h.sound hsound
    refine hafter.withRegistry (keys_modifyAt key change after.registry) ?_
    intro other fragment hfragment
    by_cases heq : key = other
    · subst heq
      rw [get?_modifyAt_self] at hfragment
      obtain ⟨held, hheld, rfl⟩ := Option.map_eq_some_iff.mp hfragment
      exact hchange held (hafter.ordered key held hheld)
    · rw [get?_modifyAt_of_ne heq] at hfragment
      exact hafter.ordered other fragment hfragment
  keys := by
    rw [keys_modifyAt]
    exact h.keys
  kept other hmem hnot := by
    have hne : key ≠ other := by
      rintro rfl
      exact hfresh hmem
    rw [get?_modifyAt_of_ne hne]
    exact h.kept other hmem hnot

/-- So can all that are new together. -/
theorem Follows.changedAfter :
    Follows overwritten before { after with
      registry := Registry.changedAfter before.registry.length change after.registry } where
  sound hsound := by
    have hafter := h.sound hsound
    refine hafter.withRegistry (keys_changedAfter _ change after.registry) ?_
    intro other fragment hfragment
    by_cases hmem : other ∈ Entries.keys (after.registry.take before.registry.length)
    · rw [get?_changedAfter_of_mem hmem] at hfragment
      exact hafter.ordered other fragment hfragment
    · rw [get?_changedAfter_of_not_mem hmem] at hfragment
      obtain ⟨held, hheld, rfl⟩ := Option.map_eq_some_iff.mp hfragment
      exact hchange held (hafter.ordered other held hheld)
  keys := by
    rw [keys_changedAfter]
    exact h.keys
  kept other hmem hnot := by
    have hlength : before.registry.length = (Entries.keys before.registry).length := by
      rw [Entries.keys, List.length_map]
    -- keys are only appended, so the first ones are those that were there before
    have hfront : Entries.keys (after.registry.take before.registry.length) =
        Entries.keys before.registry := by
      rw [Entries.keys, List.map_take, hlength]
      exact (List.prefix_iff_eq_take.mp h.keys).symm
    rw [get?_changedAfter_of_mem (hfront ▸ hmem)]
    exact h.kept other hmem hnot

end Change

end Shelf

end Registry

/-- What a translation leaves on the shelf. -/
def Desk.shelf (desk : Desk) : Registry.Shelf := ⟨desk.registry, desk.journal⟩

namespace Translating

open QueryWeave.Action

variable {α : Type} {overwritten : List String}

theorem keeps_note {entry : Entry} (h : entry.registered? = none) :
    (note entry).Keeps Desk.shelf overwritten :=
  fun _ => Registry.Shelf.follows_noting h

theorem keeps_looking (step : Lookup α) : (looking step).Keeps Desk.shelf overwritten := by
  refine keeps_of_idle fun desk => ?_
  rw [looking, bind_apply, get_apply]
  dsimp only
  rw [bind_apply, liftExcept_apply]
  cases step desk.catalogue with
  | error failure => rfl
  | ok result => rfl

theorem keeps_evaluate (draft : Draft) : (evaluate draft).Keeps Desk.shelf overwritten :=
  keeps_looking _

theorem keeps_evaluateExpr (draft : Draft) : (evaluateExpr draft).Keeps Desk.shelf overwritten :=
  (keeps_evaluate draft).bind fun _ => keeps_liftExcept _

theorem keeps_prerequisiteOf (own : Draft) : (prerequisiteOf own).Keeps Desk.shelf overwritten :=
  (keeps_liftExcept _).bind fun _ => keeps_looking _

theorem keeps_publish (name : String) (expression : Expr) (prerequisite : Prerequisite) :
    (publish name expression prerequisite).Keeps Desk.shelf overwritten :=
  keeps_of_idle fun _ => rfl

theorem keeps_registering {action : Registry.Registering α} (h : action.Keeps id overwritten) :
    (registering action).Keeps Desk.shelf overwritten :=
  fun desk => h ⟨desk.registry, desk.journal⟩

theorem keeps_register (kind : Kind) (name : String) (recipe : Except Failure Recipe)
    (prerequisite : Prerequisite) :
    (register kind name recipe prerequisite).Keeps Desk.shelf overwritten := by
  refine (keeps_registering (Registry.keeps_registerWith ?_ ?_)).bind fun _ => keeps_pure ()
  · intro fragment hfragment
    cases recipe with
    | error failure => cases hfragment
    | ok recipe =>
        cases hfragment
        exact List.Pairwise.nil
  · exact fun hleave => absurd hleave Bool.false_ne_true

/-- The action keeps what is on the shelf, and has a result only where a key is free. -/
structure Debuts (action : Translating Unit) (key : String) : Prop where
  keeps : action.Keeps Desk.shelf []
  fresh : ∀ desk after, action desk = (.ok (), after) → key ∉ Entries.keys desk.registry

theorem debuts_register (kind : Kind) (name : String) (recipe : Except Failure Recipe)
    (prerequisite : Prerequisite) :
    Debuts (register kind name recipe prerequisite) (Key.mk kind name).render where
  keeps := keeps_register kind name recipe prerequisite
  fresh _ _ hdone :=
    (posts_register kind name recipe prerequisite hdone).fresh _ (List.mem_singleton.mpr rfl)

theorem Debuts.after {first : Translating α} {next : α → Translating Unit} {key : String}
    (hfirst : first.Keeps Desk.shelf []) (hnext : ∀ value, Debuts (next value) key) :
    Debuts (first >>= next) key where
  keeps := hfirst.bind fun value => (hnext value).keeps
  fresh desk after hdone := by
    obtain ⟨value, middle, hstep, hrest⟩ := bind_ok_inv hdone
    have hkeys := (hfirst desk).keys
    rw [hstep] at hkeys
    exact fun hmem => (hnext value).fresh middle after hrest (hkeys.subset hmem)

end Translating

namespace Descriptor

open Translating QueryWeave.Action

variable {name : String} {prerequisite : Draft}

theorem keeps_bindPlaces {action : Translating Unit} (h : Debuts action name)
    (places : List (String × Int)) :
    (do action; bindPlaces name places : Translating Unit).Keeps Desk.shelf [] := by
  intro desk
  have hstep := h.keeps desk
  rw [bind_apply]
  cases hrun : action desk with
  | mk outcome after =>
      rw [hrun] at hstep
      cases outcome with
      | error failure => exact hstep
      | ok done =>
          -- the name was free, so the fragment that is changed is a new one
          exact hstep.modifyAt (fun _ hordered => hordered.foldl_register places Prod.snd _)
            (h.fresh desk after hrun)

theorem keeps_registerGrouped (name : String) (expression : Draft) (prerequisite : Prerequisite) :
    (registerGrouped name expression prerequisite).Keeps Desk.shelf [] := by
  refine keeps_registering (Registry.keeps_registerGroupField ?_)
  exact fun hleave => absurd hleave Bool.false_ne_true

theorem keeps_publishDraft (name : String) (published : Bool) (draft : Draft)
    (prerequisite : Prerequisite) :
    (publishDraft name published draft prerequisite).Keeps Desk.shelf [] := by
  unfold publishDraft
  split
  next => exact keeps_publish _ _ _
  next => exact keeps_pure ()

variable (name : String) (prerequisite : Draft)

theorem keeps_invalid (type : String) : (invalid name type).Keeps Desk.shelf [] :=
  keeps_note rfl

theorem debuts_registerComputed (kind : Kind) (source : Draft) :
    Debuts (registerComputed kind name source prerequisite) (Key.mk kind name).render :=
  .after (keeps_evaluate source) fun _ => .after (keeps_prerequisiteOf prerequisite) fun _ =>
    debuts_register kind name _ _

/-- What registers under the prerequisite that it takes. -/
theorem keeps_registerQuery (kind : Kind) (query : Query) :
    (do registerQuery kind name query (← prerequisiteOf prerequisite) : Translating Unit).Keeps
      Desk.shelf [] :=
  (keeps_prerequisiteOf prerequisite).bind fun _ => keeps_register kind name _ _

theorem keeps_translateField (expression query : Option Draft) (published : Bool) :
    (translateField name prerequisite expression query published).Keeps Desk.shelf [] := by
  unfold translateField
  cases expression with
  | some draft =>
      refine (keeps_evaluateExpr draft).bind fun _ => ?_
      refine (keeps_prerequisiteOf prerequisite).bind fun _ => ?_
      cases published with
      | false => exact keeps_register .field name _ _
      | true => exact (keeps_publish name _ _).bind fun _ => keeps_register .field name _ _
  | none =>
      cases query with
      | some source => exact (debuts_registerComputed name prerequisite .field source).keeps
      | none => exact keeps_invalid name _

theorem keeps_translateTable (tables : NamedClause Table) (computed query : Option Draft) :
    (translateTable name prerequisite tables computed query).Keeps Desk.shelf [] := by
  unfold translateTable
  cases tables with
  | absent =>
      cases computed with
      | some source =>
          exact (keeps_evaluate source).bind fun _ => (keeps_liftExcept _).bind fun _ =>
            keeps_registerQuery name prerequisite .table _
      | none =>
          cases query with
          | some source => exact (debuts_registerComputed name prerequisite .table source).keeps
          | none => exact keeps_invalid name _
  | name given => exact keeps_registerQuery name prerequisite .table _
  | one table => exact keeps_registerQuery name prerequisite .table _
  | many tables => exact keeps_registerQuery name prerequisite .table _

theorem keeps_translateFilter (expression query : Option Draft) (unknowns : Unknowns) :
    (translateFilter name prerequisite expression query unknowns).Keeps Desk.shelf [] := by
  unfold translateFilter
  cases expression with
  | some draft =>
      exact (keeps_evaluateExpr draft).bind fun _ => (keeps_prerequisiteOf prerequisite).bind fun _ =>
        keeps_bindPlaces (debuts_register .filter name _ _) _
  | none =>
      cases query with
      | some source =>
          exact keeps_bindPlaces (debuts_registerComputed name prerequisite .filter source) _
      | none => exact keeps_invalid name _

theorem keeps_translateGroup (expression query : Option Draft) :
    (translateGroup name prerequisite expression query).Keeps Desk.shelf [] := by
  unfold translateGroup
  cases expression with
  | some draft =>
      exact (keeps_evaluateExpr draft).bind fun _ => keeps_registerQuery name prerequisite .group _
  | none =>
      cases query with
      | some source => exact (debuts_registerComputed name prerequisite .group source).keeps
      | none => exact keeps_invalid name _

theorem keeps_translateOrder (expression query : Option Draft) (direction : Direction) :
    (translateOrder name prerequisite expression query direction).Keeps Desk.shelf [] := by
  unfold translateOrder
  cases expression with
  | some draft =>
      exact (keeps_evaluateExpr draft).bind fun _ => keeps_registerQuery name prerequisite .order _
  | none =>
      cases query with
      | some source => exact (debuts_registerComputed name prerequisite .order source).keeps
      | none => exact keeps_invalid name _

theorem keeps_translateCombo (expression computed : Option Draft) (published : Bool) :
    (translateCombo name prerequisite expression computed published).Keeps Desk.shelf [] := by
  unfold translateCombo
  cases expression <|> computed with
  | none => exact keeps_throw _
  | some draft =>
      exact (keeps_evaluate draft).bind fun value => (keeps_liftExcept _).bind fun value =>
        (keeps_prerequisiteOf prerequisite).bind fun prerequisite =>
          (keeps_publishDraft name published value prerequisite).bind fun _ =>
            (keeps_registerGrouped name value prerequisite).bind fun _ =>
              (keeps_registerGrouped (name ++ "Any") value.anyValue prerequisite).bind fun _ =>
                keeps_register .filter name _ _

theorem keeps_translate (descriptor : Descriptor) :
    descriptor.translate.Keeps Desk.shelf [] := by
  obtain ⟨name, prerequisite, shortcut⟩ := descriptor
  cases shortcut with
  | field expression query published =>
      exact keeps_translateField name prerequisite expression query published
  | table tables computed query =>
      exact keeps_translateTable name prerequisite tables computed query
  | filter expression query unknowns =>
      exact keeps_translateFilter name prerequisite expression query unknowns
  | group expression query => exact keeps_translateGroup name prerequisite expression query
  | order expression query direction =>
      exact keeps_translateOrder name prerequisite expression query direction
  | combo expression computed published =>
      exact keeps_translateCombo name prerequisite expression computed published

end Descriptor

namespace Handlers

open QueryWeave.Action Descriptor

variable {handlers : Handlers} {raw : Draft} {raws : List Draft}

theorem keeps_explaining {action : Translating Unit} (h : action.Keeps Desk.shelf [])
    (type name : String) : (explaining type name action).Keeps Desk.shelf [] := by
  intro desk
  rw [explaining_apply]
  exact h desk

theorem keeps_translateOne (hbuiltIn : handlers.TakesBuiltIn raw) :
    (handlers.translateOne raw).Keeps Desk.shelf [] := by
  cases hmembers : raw.members? with
  | none =>
      rcases handlers.translateOne_cases_of_no_members hmembers with ⟨name, hnote⟩ | hthrow
      · rw [hnote]
        exact Translating.keeps_note rfl
      · rw [hthrow]
        exact keeps_throw _
  | some members =>
      rw [translateOne_of_members hmembers]
      refine keeps_liftExcept_bind fun found hfound => ?_
      cases found with
      | none => exact Translating.keeps_note rfl
      | some action =>
          rw [finder?_builtIn hbuiltIn hmembers hfound]
          have hdecoded : (translateDraft raw).Keeps Desk.shelf [] :=
            (keeps_liftExcept _).bind keeps_translate
          exact (keeps_of_idle fun _ => rfl).bind fun _ =>
            (keeps_explaining hdecoded _ _).bind fun _ => Translating.keeps_note rfl

theorem keeps_translateEach (hbuiltIn : ∀ raw ∈ raws, handlers.TakesBuiltIn raw) :
    (handlers.translateEach raws).Keeps Desk.shelf [] := by
  induction raws with
  | nil => exact keeps_pure ()
  | cons raw rest ih =>
      rw [List.forall_mem_cons] at hbuiltIn
      exact (keeps_translateOne hbuiltIn.1).bind fun _ => ih hbuiltIn.2

/-- Descriptors of built-in types replace nothing, though those before a failure stay registered. -/
theorem keeps_translateAll (hbuiltIn : ∀ raw ∈ raws, handlers.TakesBuiltIn raw) :
    (handlers.translateAll raws).Keeps Desk.shelf [] := by
  intro desk
  have hshare : ∀ fragment : Fragment, fragment.Ordered →
      Fragment.Ordered { fragment with
        catalogue := (handlers.translateEach raws desk).2.catalogue } := fun _ hordered => hordered
  exact (keeps_translateEach hbuiltIn desk).changedAfter hshare

end Handlers

end QueryWeave

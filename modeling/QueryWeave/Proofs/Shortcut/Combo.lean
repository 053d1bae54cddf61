import QueryWeave.Proofs.Registry
import QueryWeave.Shortcut.Handlers

/-!
What the translation of a combo leaves in the registry.  Until it registers, it neither reads nor
changes the registry; then it enters a field and a grouping for its name, a field and a grouping for
any value, and a filter.  Main statement: `registers_translateCombo`.
-/

namespace QueryWeave

namespace Translating

variable {α β : Type} {first : Translating α} {next : α → Translating β}

/-- The action neither reads nor changes the registry. -/
def Apart (action : Translating α) : Prop :=
  ∀ desk registry,
    action { desk with registry } = ((action desk).1, { (action desk).2 with registry })

theorem apart_pure (value : α) : Apart (pure value) :=
  fun _ _ => rfl

theorem apart_liftExcept (outcome : Except Failure α) : Apart (liftExcept outcome) := by
  intro desk registry
  rw [Action.liftExcept_apply, Action.liftExcept_apply]

theorem apart_publish (name : String) (expression : Expr) (prerequisite : Prerequisite) :
    Apart (publish name expression prerequisite) :=
  fun _ _ => rfl

theorem apart_publishDraft (name : String) (published : Bool) (draft : Draft)
    (prerequisite : Prerequisite) :
    Apart (Descriptor.publishDraft name published draft prerequisite) := by
  unfold Descriptor.publishDraft
  split
  next => exact apart_publish _ _ _
  next => exact apart_pure ()

theorem Apart.bind (hfirst : Apart first) (hnext : ∀ value, Apart (next value)) :
    Apart (first >>= next) := by
  intro desk registry
  rw [Action.bind_apply, Action.bind_apply, hfirst desk registry]
  cases first desk with
  | mk outcome middle =>
      cases outcome with
      | error failure => rfl
      | ok value => exact hnext value middle registry

theorem apart_looking (step : Lookup α) : Apart (looking step) := by
  intro desk registry
  rw [looking, Action.bind_apply, Action.bind_apply, Action.get_apply, Action.get_apply]
  dsimp only
  rw [Action.bind_apply, Action.bind_apply, Action.liftExcept_apply, Action.liftExcept_apply]
  cases step desk.catalogue with
  | error failure => rfl
  | ok result => rfl

theorem apart_evaluate (draft : Draft) : Apart (evaluate draft) :=
  apart_looking _

theorem apart_prerequisiteOf (own : Draft) : Apart (prerequisiteOf own) :=
  (apart_liftExcept _).bind fun _ => apart_looking _

/-- Whether an action succeeds, and the registry that it leaves in the place of the given one. -/
def leaves (action : Translating Unit) (desk : Desk) (registry : Registry) :
    Except Failure Unit × Registry :=
  ((action { desk with registry }).1, (action { desk with registry }).2.registry)

/-- Whatever the registry, the action fails and leaves it as it was; or it enters entries of its
own under the given keys, which are different. -/
def Registers (action : Translating Unit) (keys : List Key) : Prop :=
  ∀ desk,
    (∀ registry, ∃ failure, leaves action desk registry = (.error failure, registry)) ∨
      ∃ entries, Entries.keys entries = keys.map Key.render ∧ (Entries.keys entries).Nodup ∧
        ∀ registry, leaves action desk registry = Registry.enter registry entries

variable {keys : List Key}

theorem Apart.bind_registers {next : α → Translating Unit} (hfirst : Apart first)
    (hnext : ∀ value, Registers (next value) keys) : Registers (first >>= next) keys := by
  intro desk
  have hleaves : ∀ registry, leaves (first >>= next) desk registry =
      match first desk with
      | (.ok value, middle) => leaves (next value) middle registry
      | (.error failure, _) => (.error failure, registry) := by
    intro registry
    rw [leaves, Action.bind_apply, hfirst desk registry]
    cases first desk with
    | mk outcome middle => cases outcome <;> rfl
  simp only [hleaves]
  cases first desk with
  | mk outcome middle =>
      cases outcome with
      | error failure => exact Or.inl fun registry => ⟨failure, rfl⟩
      | ok value => exact hnext value middle

theorem registers_throw (failure : Failure) : Registers (throw failure) keys :=
  fun _ => Or.inl fun _ => ⟨failure, rfl⟩

theorem leaves_registering (action : Registry.Registering Unit) (desk : Desk)
    (registry : Registry) :
    leaves (registering action) desk registry =
      Registry.leaves action ⟨registry, desk.journal⟩ := by
  rw [leaves, Registry.leaves, registering]
  cases action ⟨registry, desk.journal⟩ with
  | mk outcome shelf => cases outcome <;> rfl

theorem registers_of_refuses {action : Registry.Registering Unit} (h : Registry.Refuses action) :
    Registers (registering action) keys := by
  intro desk
  refine Or.inl fun registry => ?_
  rw [leaves_registering]
  exact h ⟨registry, desk.journal⟩

theorem registers_of_enters {action : Registry.Registering Unit} {entries : Registry}
    (h : Registry.Enters action entries) (hkeys : Entries.keys entries = keys.map Key.render)
    (hnodup : (Entries.keys entries).Nodup) : Registers (registering action) keys := by
  intro desk
  refine Or.inr ⟨entries, hkeys, hnodup, fun registry => ?_⟩
  rw [leaves_registering]
  exact h ⟨registry, desk.journal⟩

theorem registering_bind (action : Registry.Registering α)
    (next : α → Registry.Registering β) :
    registering (action >>= next) =
      registering action >>= fun value => registering (next value) := by
  funext desk
  rw [Action.bind_apply, registering, registering, Action.bind_apply]
  cases action ⟨desk.registry, desk.journal⟩ with
  | mk outcome shelf => cases outcome <;> rfl

end Translating

namespace Descriptor

open Translating

def comboKeys (name : String) : List Key :=
  Registry.groupFieldKeys name ++ Registry.groupFieldKeys (name ++ "Any") ++ [⟨.filter, name⟩]

theorem nodup_comboKeys (name : String) : (comboKeys name).Nodup := by
  have hlonger : name ≠ name ++ "Any" := by
    intro heq
    have := congrArg String.length heq
    simp at this
  simp [comboKeys, Registry.groupFieldKeys, hlonger]

def registerCombo (name : String) (value : Draft) (prerequisite : Prerequisite) :
    Registry.Registering Unit := do
  Registry.registerGroupField (.text name) value "group_" prerequisite false
  Registry.registerGroupField (.text (name ++ "Any")) value.anyValue "group_" prerequisite false
  let recipe := Recipe.ofDraft (.comparing value)
  let _ ← Registry.registerWith .filter (.text name) false
    (recipe.map fun recipe => { recipe, prerequisite })

theorem enters_registerCombo {name : String} (hname : Registry.nameOf (.text name) = .ok name)
    (value : Draft) (prerequisite : Prerequisite) :
    ∃ entries, Entries.keys entries = (comboKeys name).map Key.render ∧
      (Entries.keys entries).Nodup ∧
      Registry.Enters (registerCombo name value prerequisite) entries := by
  obtain ⟨_, hnonempty, hplain⟩ := Registry.nameOf_eq_ok_iff.mp hname
  have hplainAny : ':' ∉ (name ++ "Any").toList := by simp [hplain]
  have hany : Registry.nameOf (.text (name ++ "Any")) = .ok (name ++ "Any") :=
    Registry.nameOf_eq_ok_iff.mpr ⟨rfl, by simp, hplainAny⟩
  obtain ⟨pair, hpair, _, hentersPair⟩ :=
    Registry.enters_registerGroupField hname value "group_" prerequisite
  obtain ⟨others, hothers, _, hentersOthers⟩ :=
    Registry.enters_registerGroupField hany value.anyValue "group_" prerequisite
  have hkeys : ∀ fragment,
      Entries.keys (pair ++ (others ++ [((Key.mk .filter name).render, fragment)])) =
        (comboKeys name).map Key.render := by
    intro fragment
    simp [comboKeys, hpair, hothers]
  refine ⟨_, hkeys _, ?_, hentersPair.bind fun _ => hentersOthers.bind fun _ =>
    (Registry.enters_registerWith hname).bind fun _ => Registry.enters_pure ()⟩
  rw [hkeys]
  refine Registry.nodup_render ?_ (nodup_comboKeys name)
  simp [comboKeys, Registry.groupFieldKeys, hplain]

theorem registers_registerCombo (name : String) (value : Draft) (prerequisite : Prerequisite) :
    Registers (registering (registerCombo name value prerequisite)) (comboKeys name) := by
  cases hname : Registry.nameOf (.text name) with
  | error failure =>
      exact registers_of_refuses (Registry.refuses_registerGroupField hname).bind
  | ok given =>
      cases (Registry.nameOf_eq_ok_iff.mp hname).1
      obtain ⟨entries, hkeys, hnodup, henters⟩ := enters_registerCombo hname value prerequisite
      exact registers_of_enters henters hkeys hnodup

theorem registers_translateCombo (name : String) (prerequisite : Draft)
    (expression computed : Option Draft) (published : Bool) :
    Registers (translateCombo name prerequisite expression computed published)
      (comboKeys name) := by
  rw [translateCombo]
  split
  next => exact registers_throw _
  next _ draft _ =>
    refine (apart_evaluate draft).bind_registers fun value => ?_
    refine (apart_liftExcept _).bind_registers fun value => ?_
    refine (apart_prerequisiteOf prerequisite).bind_registers fun prerequisite => ?_
    refine (apart_publishDraft name published value prerequisite).bind_registers fun _ => ?_
    have hregister : (do
        registerGrouped name value prerequisite
        registerGrouped (name ++ "Any") value.anyValue prerequisite
        register .filter name (Recipe.ofDraft (.comparing value)) prerequisite) =
          registering (registerCombo name value prerequisite) := by
      simp only [registerCombo, registering_bind]
      rfl
    rw [hregister]
    exact registers_registerCombo name value prerequisite

/-- A descriptor of a combo, well-formed or not. -/
def IsCombo (raw : Draft) : Prop :=
  ∃ members, raw.members? = some members ∧ (member members "type").datum = .text "combo"

theorem shortcut_of_isCombo {raw : Draft} {descriptor : Descriptor} (hcombo : IsCombo raw)
    (hdecoded : decode raw = .ok descriptor) :
    ∃ expression computed published,
      descriptor.shortcut = .combo expression computed published := by
  obtain ⟨members, hmembers, htype⟩ := hcombo
  have hread : decodeMembers members = some descriptor := by
    rw [decode, hmembers, Option.bind_some] at hdecoded
    split at hdecoded
    next hread =>
      cases hdecoded
      exact hread
    next => cases hdecoded
  rw [decodeMembers, htype] at hread
  simp only [Datum.toText?, shortcut?, Option.bind_eq_bind, Option.bind_some,
    Option.bind_eq_some_iff] at hread
  obtain ⟨_, _, name, _, shortcut, ⟨expression, _, computed, _, published, _, hshortcut⟩, hwhole⟩ :=
    hread
  cases hshortcut
  cases hwhole
  exact ⟨expression, computed, published, rfl⟩

/-- The keys of a combo, given as a draft. -/
def keysOf (raw : Draft) : List Key :=
  match decode raw with
  | .ok descriptor => comboKeys descriptor.name
  | .error _ => []

def translateDraft (raw : Draft) : Translating Unit := do
  let descriptor ← liftExcept (decode raw)
  descriptor.translate

theorem registers_of_isCombo {raw : Draft} (hcombo : IsCombo raw) :
    Registers (translateDraft raw) (keysOf raw) := by
  rw [translateDraft, keysOf]
  cases hdecoded : decode raw with
  | error failure => exact registers_throw failure
  | ok descriptor =>
      obtain ⟨expression, computed, published, hshortcut⟩ := shortcut_of_isCombo hcombo hdecoded
      have htranslate : descriptor.translate = translateCombo descriptor.name
          descriptor.prerequisite expression computed published := by
        rw [translate, hshortcut]
      rw [Action.liftExcept_ok_bind, htranslate]
      exact registers_translateCombo _ _ _ _ _

end Descriptor

namespace Handlers

open Descriptor

theorem translateOne_of_members {handlers : Handlers} {raw : Draft} {members : Entries Draft}
    (hmembers : raw.members? = some members) :
    handlers.translateOne raw = (do
      match ← liftExcept (handlers.finder? raw members (member members "type").datum) with
      | none =>
          Translating.note (.unknownShortcut (textOf (member members "type"))
            (textOf (member members "name")))
      | some action =>
          modify fun desk => { desk with catalogue := desk.catalogue.takeReads.2 }
          explaining (textOf (member members "type")) (textOf (member members "name")) action
          Translating.note (.shortcutApplied (textOf (member members "type"))
            (textOf (member members "name")))) := by
  rw [translateOne, hmembers]
  rfl

theorem translateOne_of_isCombo (handlers : Handlers) {raw : Draft} (hcombo : IsCombo raw) :
    ∃ name, handlers.translateOne raw = (do
      modify fun desk => { desk with catalogue := desk.catalogue.takeReads.2 }
      explaining "combo" name (translateDraft raw)
      Translating.note (.shortcutApplied "combo" name)) := by
  obtain ⟨members, hmembers, htype⟩ := hcombo
  have hfound : finder? handlers raw members (member members "type").datum =
      .ok (some (translateDraft raw)) := by
    rw [htype]
    rfl
  have htext : textOf (member members "type") = "combo" := by
    rw [textOf, htype]
    rfl
  refine ⟨textOf (member members "name"), ?_⟩
  rw [translateOne_of_members hmembers, hfound, htext]
  rfl

theorem explaining_apply (type name : String) (action : Translating Unit) (desk : Desk) :
    explaining type name action desk =
      ((action desk).1.mapError fun cause => .shortcut cause type name, (action desk).2) := by
  simp only [explaining, tryCatch, tryCatchThe, MonadExceptOf.tryCatch, ExceptT.tryCatch,
    ExceptT.mk, bind, StateT.bind]
  cases action desk with
  | mk outcome left =>
      cases outcome with
      | error failure => rfl
      | ok value => rfl

/-- A combo is translated at the desk as it is found, but for the reads of its catalogue; a failure
names the combo. -/
theorem translateEach_of_isCombo (handlers : Handlers) {raw : Draft} (hcombo : IsCombo raw) :
    ∃ name, ∀ desk : Desk, desk.catalogue.reads = [] →
      (handlers.translateEach [raw] desk).1 =
          (translateDraft raw desk).1.mapError (fun cause => .shortcut cause "combo" name) ∧
        (handlers.translateEach [raw] desk).2.registry = (translateDraft raw desk).2.registry := by
  obtain ⟨name, hone⟩ := handlers.translateOne_of_isCombo hcombo
  refine ⟨name, fun desk hreads => ?_⟩
  have htaken : { desk with catalogue := desk.catalogue.takeReads.2 } = desk := by
    rw [Catalogue.takeReads, ← hreads]
  rw [translateEach, translateEach, hone, Action.bind_apply, Action.bind_apply,
    Action.modify_apply]
  dsimp only
  rw [htaken, Action.bind_apply, explaining_apply]
  cases translateDraft raw desk with
  | mk outcome left =>
      cases outcome with
      | error failure => exact ⟨rfl, rfl⟩
      | ok value => exact ⟨rfl, rfl⟩

end Handlers

end QueryWeave

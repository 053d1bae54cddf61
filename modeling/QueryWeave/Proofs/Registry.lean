import QueryWeave.Proofs.Action
import QueryWeave.Proofs.Entries
import QueryWeave.Proofs.Key
import QueryWeave.Registry
import Mathlib.Data.List.Find
import Mathlib.Data.List.Nodup

namespace QueryWeave.Registry

variable {α β : Type} {registry other entries left right : Registry} {key : String}
  {fragment : Fragment}

/-- Puts entries into a registry one after the other, as long as their keys are free. -/
def enter (registry : Registry) : Registry → Except Failure Unit × Registry
  | [] => (.ok (), registry)
  | (key, fragment) :: rest =>
      if Entries.has registry key then (.error (.alreadyRegistered key), registry)
      else enter (Entries.put registry key fragment) rest

theorem enter_append : enter registry (left ++ right) =
    match enter registry left with
    | (.ok (), middle) => enter middle right
    | (.error failure, middle) => (.error failure, middle) := by
  induction left generalizing registry with
  | nil => rfl
  | cons pair rest ih =>
      obtain ⟨key, fragment⟩ := pair
      rw [List.cons_append, enter, enter]
      split
      next => rfl
      next => exact ih

/-- The first key that is taken, among the keys of entries. -/
def taken? (registry entries : Registry) : Option String :=
  (Entries.keys entries).find? (Entries.has registry)

/-- The entries before the first whose key is taken. -/
def untaken (registry entries : Registry) : Registry :=
  entries.takeWhile fun pair => !Entries.has registry pair.1

theorem find?_has_nil (keys : List String) :
    keys.find? (Entries.has ([] : Registry)) = none :=
  List.find?_eq_none.mpr fun _ _ => Bool.false_ne_true

theorem taken?_congr
    (h : ∀ key ∈ Entries.keys entries, Entries.has registry key = Entries.has other key) :
    taken? registry entries = taken? other entries :=
  List.find?_congr h

theorem untaken_congr
    (h : ∀ key ∈ Entries.keys entries, Entries.has registry key = Entries.has other key) :
    untaken registry entries = untaken other entries := by
  induction entries with
  | nil => rfl
  | cons pair rest ih =>
      rw [Entries.keys_cons, List.forall_mem_cons] at h
      rw [untaken, untaken, List.takeWhile_cons, List.takeWhile_cons, h.1]
      exact if_congr Iff.rfl (congrArg _ (ih h.2)) rfl

/-- Entries under different keys do not stand in each other's way. -/
theorem enter_of_nodup (hnodup : (Entries.keys entries).Nodup) :
    enter registry entries =
      ((taken? registry entries).elim (.ok ()) fun key => .error (.alreadyRegistered key),
        registry ++ untaken registry entries) := by
  induction entries generalizing registry with
  | nil => simp [enter, taken?, untaken]
  | cons pair rest ih =>
      obtain ⟨key, fragment⟩ := pair
      rw [Entries.keys_cons, List.nodup_cons] at hnodup
      rw [enter, taken?, untaken, Entries.keys_cons, List.find?_cons, List.takeWhile_cons]
      split
      next htaken => simp [htaken]
      next hfree =>
        have hsame : ∀ other ∈ Entries.keys rest,
            Entries.has (Entries.put registry key fragment) other = Entries.has registry other :=
          fun other hother => Entries.has_put_of_ne fun heq => hnodup.1 (heq ▸ hother)
        have hnot : key ∉ Entries.keys registry := fun hmem => hfree (Entries.has_iff.mpr hmem)
        rw [ih hnodup.2, taken?_congr hsame, untaken_congr hsame, Entries.put_of_not_mem hnot]
        simp [hfree, taken?, untaken]

section Actions

variable {first : Registering α} {next : α → Registering β} {shelf : Shelf}

/-- Whether an action succeeds, and the registry that it leaves. -/
def leaves (action : Registering α) (shelf : Shelf) : Except Failure Unit × Registry :=
  ((action shelf).1.map fun _ => (), (action shelf).2.registry)

/-- The action fails on every registry and leaves it as it was. -/
def Refuses (action : Registering α) : Prop :=
  ∀ shelf, ∃ failure, leaves action shelf = (.error failure, shelf.registry)

/-- The action enters entries of its own. -/
def Enters (action : Registering α) (entries : Registry) : Prop :=
  ∀ shelf, leaves action shelf = enter shelf.registry entries

def Succeeds (action : Registering α) : Prop :=
  ∀ shelf, (leaves action shelf).1 = .ok ()

theorem Refuses.bind (hfirst : Refuses first) : Refuses (first >>= next) := by
  intro shelf
  obtain ⟨failure, hrefused⟩ := hfirst shelf
  refine ⟨failure, ?_⟩
  rw [← hrefused, leaves, leaves, Action.bind_apply]
  rw [leaves] at hrefused
  cases hrun : first shelf with
  | mk outcome left =>
      cases outcome with
      | error failure => rfl
      | ok value =>
          rw [hrun] at hrefused
          cases hrefused

theorem Succeeds.bind (hfirst : Succeeds first) (hnext : ∀ value, Succeeds (next value)) :
    Succeeds (first >>= next) := by
  intro shelf
  have hdone := hfirst shelf
  rw [leaves] at hdone ⊢
  rw [Action.bind_apply]
  cases hrun : first shelf with
  | mk outcome middle =>
      cases outcome with
      | error failure =>
          rw [hrun] at hdone
          cases hdone
      | ok value => exact hnext value middle

theorem Enters.bind (hfirst : Enters first left) (hnext : ∀ value, Enters (next value) right) :
    Enters (first >>= next) (left ++ right) := by
  intro shelf
  have hleft := hfirst shelf
  rw [enter_append, ← hleft, leaves, leaves, Action.bind_apply]
  cases hrun : first shelf with
  | mk outcome middle =>
      cases outcome with
      | error failure => rfl
      | ok value => exact hnext value middle

theorem succeeds_pure (value : α) : Succeeds (pure value) :=
  fun _ => rfl

theorem enters_pure (value : α) : Enters (pure value) [] :=
  fun _ => rfl

section One

variable {kind : Kind} {name : Datum} {given : String} {overwrite : Bool}
  {make : Except Failure Fragment}

theorem leaves_registerWith : leaves (registerWith kind name overwrite make) shelf =
    match nameOf name with
    | .error failure => (.error failure, shelf.registry)
    | .ok given =>
        let key := (Key.mk kind given).render
        if Entries.has shelf.registry key = true ∧ overwrite = false then
          (.error (.alreadyRegistered key), shelf.registry)
        else
          match make with
          | .error failure => (.error failure, shelf.registry)
          | .ok fragment => (.ok (), Entries.put shelf.registry key fragment) := by
  rw [leaves, registerWith]
  cases nameOf name with
  | error failure => rfl
  | ok given =>
      simp only [Action.bind_apply, Action.liftExcept_apply, Action.get_apply]
      by_cases htaken : Entries.has shelf.registry (Key.mk kind given).render = true
      · cases overwrite with
        | false =>
            rw [if_pos htaken, if_neg Bool.false_ne_true, if_pos ⟨htaken, rfl⟩]
            rfl
        | true =>
            rw [if_pos htaken, if_pos rfl, if_neg fun h => Bool.true_eq_false_eq_False h.2]
            cases make with
            | error failure => rfl
            | ok fragment => rfl
      · rw [if_neg htaken, if_neg fun h => htaken h.1]
        cases make with
        | error failure => rfl
        | ok fragment => rfl

theorem refuses_of_name {failure : Failure} (hname : nameOf name = .error failure) :
    Refuses (registerWith kind name overwrite make) := by
  intro shelf
  rw [leaves_registerWith, hname]
  exact ⟨failure, rfl⟩

theorem refuses_of_make (failure : Failure) :
    Refuses (registerWith kind name overwrite (.error failure)) := by
  intro shelf
  rw [leaves_registerWith]
  cases nameOf name with
  | error failure => exact ⟨failure, rfl⟩
  | ok given =>
      dsimp only
      split
      next => exact ⟨_, rfl⟩
      next => exact ⟨failure, rfl⟩

theorem succeeds_registerWith (hname : nameOf name = .ok given) :
    Succeeds (registerWith kind name true (.ok fragment)) := by
  intro shelf
  rw [leaves_registerWith, hname]
  dsimp only
  rw [if_neg fun h => Bool.true_eq_false_eq_False h.2]

theorem enters_registerWith (hname : nameOf name = .ok given) :
    Enters (registerWith kind name false (.ok fragment))
      [((Key.mk kind given).render, fragment)] := by
  intro shelf
  rw [leaves_registerWith, hname, enter, enter]
  exact if_congr (and_iff_left rfl) rfl rfl

end One

end Actions

/-! The keys of what is registered together are different. -/

section Keys

variable {name : Datum} {given : String} {keys : List Key}

theorem nameOf_eq_ok_iff :
    nameOf name = .ok given ↔ name = .text given ∧ given ≠ "" ∧ ':' ∉ given.toList := by
  have hvalid : validName given = true ↔ given ≠ "" ∧ ':' ∉ given.toList := by
    simp [validName]
  rw [← hvalid]
  constructor
  · intro h
    cases name with
    | text held =>
        dsimp only [nameOf] at h
        split at h
        next hheld =>
          cases h
          exact ⟨rfl, hheld⟩
        next => cases h
    | _ => cases h
  · rintro ⟨rfl, hheld⟩
    exact if_pos hheld

theorem nodup_render (hplain : ∀ key ∈ keys, ':' ∉ key.name.toList) (hnodup : keys.Nodup) :
    (keys.map Key.render).Nodup := by
  refine List.Nodup.map_on ?_ hnodup
  intro first hfirst second hsecond heq
  calc first = Key.parse first.render :=
        (Key.parse_render_of_not_mem (hplain first hfirst) first.kind).symm
    _ = Key.parse second.render := congrArg Key.parse heq
    _ = second := Key.parse_render_of_not_mem (hplain second hsecond) second.kind

end Keys

section GroupField

variable {name : Datum} {given labelStart : String} {expression : Draft}
  {prerequisite : Prerequisite} {overwrite : Bool}

def groupFieldKeys (name : String) : List Key :=
  [⟨.field, name⟩, ⟨.group, name⟩]

theorem refuses_registerGroupField {failure : Failure} (hname : nameOf name = .error failure) :
    Refuses (registerGroupField name expression labelStart prerequisite overwrite) :=
  (refuses_of_name hname).bind

theorem succeeds_registerGroupField (hname : nameOf name = .ok given) :
    Succeeds (registerGroupField name expression labelStart prerequisite true) :=
  (succeeds_registerWith hname).bind fun _ =>
    (succeeds_registerWith hname).bind fun _ => succeeds_pure ()

theorem enters_registerGroupField (hname : nameOf name = .ok given) (expression : Draft)
    (labelStart : String) (prerequisite : Prerequisite) :
    ∃ entries, Entries.keys entries = (groupFieldKeys given).map Key.render ∧
      (Entries.keys entries).Nodup ∧
      Enters (registerGroupField name expression labelStart prerequisite false) entries := by
  have hnodup : ((groupFieldKeys given).map Key.render).Nodup := by
    obtain ⟨_, _, hplain⟩ := nameOf_eq_ok_iff.mp hname
    apply nodup_render
    · simp [groupFieldKeys, hplain]
    · simp [groupFieldKeys]
  refine ⟨_, rfl, ?_, (enters_registerWith hname).bind fun _ =>
    (enters_registerWith hname).bind fun _ => enters_pure ()⟩
  exact hnodup

end GroupField

end QueryWeave.Registry

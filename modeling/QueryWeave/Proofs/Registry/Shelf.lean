import QueryWeave.Proofs.Fragment.Copy
import QueryWeave.Proofs.Registry

namespace QueryWeave

/-- The key that an entry tells to be registered. -/
def Entry.registered? : Entry → Option String
  | registered key => some key
  | _ => none

/-- The keys that a journal tells to be registered, as often as it does. -/
def Journal.registered (journal : Journal) : List String :=
  journal.filterMap Entry.registered?

/-- A key whose name can be registered. -/
def Key.Proper (key : Key) : Prop := key.name ≠ "" ∧ ':' ∉ key.name.toList

theorem Key.Proper.parse_render {key : Key} (h : key.Proper) : Key.parse key.render = key :=
  Key.parse_render_of_not_mem h.2 key.kind

namespace Registry

namespace Shelf

variable {shelf before middle after : Shelf} {overwritten : List String}

/-- The keys on a shelf are different, in the order in which they were registered first; they are
rendered keys of names that can be registered. -/
structure Sound (shelf : Shelf) : Prop where
  nodup : (Entries.keys shelf.registry).Nodup
  recorded : Entries.keys shelf.registry = shelf.journal.registered.eraseDups
  proper : ∀ key ∈ Entries.keys shelf.registry, ∃ made : Key, made.Proper ∧ made.render = key
  ordered : ∀ key fragment, Entries.get? shelf.registry key = some fragment → fragment.Ordered

/-- What comes after a shelf when nothing is replaced but what stands under the given keys. -/
structure Follows (overwritten : List String) (before after : Shelf) : Prop where
  sound : before.Sound → after.Sound
  keys : Entries.keys before.registry <+: Entries.keys after.registry
  kept : ∀ key ∈ Entries.keys before.registry, key ∉ overwritten →
    Entries.get? after.registry key = Entries.get? before.registry key

theorem Follows.refl (overwritten : List String) (shelf : Shelf) :
    Follows overwritten shelf shelf :=
  ⟨id, List.prefix_rfl, fun _ _ _ => rfl⟩

theorem Follows.trans (hfirst : Follows overwritten before middle)
    (hsecond : Follows overwritten middle after) : Follows overwritten before after where
  sound h := hsecond.sound (hfirst.sound h)
  keys := hfirst.keys.trans hsecond.keys
  kept key hmem hnot :=
    (hsecond.kept key (hfirst.keys.subset hmem) hnot).trans (hfirst.kept key hmem hnot)

theorem sound_empty : Sound ⟨[], []⟩ :=
  ⟨List.nodup_nil, rfl, fun _ hmem => absurd hmem List.not_mem_nil, nofun⟩

/-- An entry that tells of no registration. -/
theorem follows_noting {entry : Entry} (h : entry.registered? = none) :
    Follows overwritten shelf { shelf with journal := shelf.journal ++ [entry] } := by
  have hjournal : Journal.registered (shelf.journal ++ [entry]) = shelf.journal.registered := by
    rw [Journal.registered, List.filterMap_append, List.filterMap_cons_none h, List.filterMap_nil,
      List.append_nil]
    rfl
  refine ⟨fun hsound => ⟨hsound.nodup, ?_, hsound.proper, hsound.ordered⟩, List.prefix_rfl,
    fun _ _ _ => rfl⟩
  rw [hjournal]
  exact hsound.recorded

theorem sound_put {key : Key} {fragment : Fragment} (h : shelf.Sound) (hproper : key.Proper)
    (hordered : fragment.Ordered) :
    Sound ⟨Entries.put shelf.registry key.render fragment,
      shelf.journal ++ [.registered key.render]⟩ where
  nodup := Entries.nodup_keys_put h.nodup key.render fragment
  recorded := by
    have hjournal : Journal.registered (shelf.journal ++ [.registered key.render]) =
        shelf.journal.registered ++ [key.render] := List.filterMap_append
    have hmem : key.render ∈ Entries.keys shelf.registry ↔
        key.render ∈ shelf.journal.registered := by
      rw [h.recorded, List.mem_eraseDups]
    rw [Entries.keys_put, hjournal, eraseDups_append_singleton, h.recorded]
    exact if_congr List.mem_eraseDups rfl rfl
  proper other hother := by
    rcases Entries.mem_keys_put.mp hother with hold | rfl
    · exact h.proper other hold
    · exact ⟨key, hproper, rfl⟩
  ordered other held hheld := by
    by_cases heq : key.render = other
    · subst heq
      rw [Entries.get?_put_self] at hheld
      cases hheld
      exact hordered
    · rw [Entries.get?_put_of_ne _ _ heq] at hheld
      exact h.ordered other held hheld

theorem follows_put {key : Key} {fragment : Fragment} (hproper : key.Proper)
    (hordered : fragment.Ordered)
    (hleave : key.render ∈ Entries.keys shelf.registry → key.render ∈ overwritten) :
    Follows overwritten shelf ⟨Entries.put shelf.registry key.render fragment,
      shelf.journal ++ [.registered key.render]⟩ where
  sound h := sound_put h hproper hordered
  keys := by
    rw [Entries.keys_put]
    split
    next => exact List.prefix_rfl
    next => exact List.prefix_append _ _
  kept other hmem hnot := by
    have hne : key.render ≠ other := by
      rintro rfl
      exact hnot (hleave hmem)
    exact Entries.get?_put_of_ne _ _ hne

end Shelf

end Registry

section Actions

variable {σ α β : Type} {view : σ → Registry.Shelf} {overwritten : List String}

/-- Seen as a shelf, what the action leaves follows what it finds, whether it succeeds or fails. -/
def Action.Keeps (view : σ → Registry.Shelf) (overwritten : List String) (action : Action σ α) :
    Prop :=
  ∀ state, Registry.Shelf.Follows overwritten (view state) (view (action state).2)

namespace Action

variable {action first : Action σ α} {next : α → Action σ β}

theorem keeps_of_idle (h : ∀ state, view (action state).2 = view state) :
    action.Keeps view overwritten := by
  intro state
  rw [h]
  exact .refl overwritten (view state)

theorem keeps_pure (value : α) : (pure value : Action σ α).Keeps view overwritten :=
  keeps_of_idle fun _ => rfl

theorem keeps_throw (failure : Failure) : (throw failure : Action σ α).Keeps view overwritten :=
  keeps_of_idle fun _ => rfl

theorem keeps_liftExcept (outcome : Except Failure α) :
    (liftExcept outcome : Action σ α).Keeps view overwritten := by
  refine keeps_of_idle fun state => ?_
  rw [liftExcept_apply]

theorem Keeps.bind (hfirst : first.Keeps view overwritten)
    (hnext : ∀ value, (next value).Keeps view overwritten) :
    (first >>= next).Keeps view overwritten := by
  intro state
  have hstep := hfirst state
  rw [bind_apply]
  cases hrun : first state with
  | mk outcome left =>
      rw [hrun] at hstep
      cases outcome with
      | error failure => exact hstep
      | ok value => exact hstep.trans (hnext value left)

theorem keeps_liftExcept_bind {outcome : Except Failure α}
    (hnext : ∀ value, outcome = .ok value → (next value).Keeps view overwritten) :
    (liftExcept outcome >>= next).Keeps view overwritten := by
  cases outcome with
  | error failure => exact keeps_of_idle fun _ => rfl
  | ok value =>
      rw [liftExcept_ok_bind]
      exact hnext value rfl

end Action

end Actions

namespace Registry

variable {kind : Kind} {name : Datum} {overwrite : Bool} {make : Except Failure Fragment}
  {overwritten : List String}

/-- A fragment is entered under the key of its name, if that is free or may be overwritten. -/
theorem keeps_registerWith
    (hmake : ∀ fragment, make = .ok fragment → fragment.Ordered)
    (hleave : overwrite = true → ∀ given, nameOf name = .ok given →
      (Key.mk kind given).render ∈ overwritten) :
    (registerWith kind name overwrite make).Keeps id overwritten := by
  intro shelf
  rw [registerWith]
  simp only [Action.bind_apply, Action.liftExcept_apply, Action.get_apply]
  cases hname : nameOf name with
  | error failure => exact .refl overwritten shelf
  | ok given =>
      dsimp only
      have hproper : (Key.mk kind given).Proper := (nameOf_eq_ok_iff.mp hname).2
      by_cases htaken : Entries.has shelf.registry (Key.mk kind given).render = true
      · cases overwrite with
        | false =>
            rw [if_pos htaken]
            exact .refl overwritten shelf
        | true =>
            have hnoted : Shelf.Follows overwritten shelf { shelf with
                journal := shelf.journal ++ [.overwritten (Key.mk kind given).render] } :=
              Shelf.follows_noting rfl
            rw [if_pos htaken]
            cases make with
            | error failure => exact hnoted
            | ok fragment =>
                exact hnoted.trans (Shelf.follows_put hproper (hmake fragment rfl) fun _ =>
                  hleave rfl given hname)
      · -- a free key is appended
        rw [if_neg htaken]
        cases make with
        | error failure => exact .refl overwritten shelf
        | ok fragment =>
            exact Shelf.follows_put hproper (hmake fragment rfl) fun hmem =>
              absurd (Entries.has_iff.mpr hmem) htaken

theorem keeps_registerGroupField {expression : Draft} {labelStart : String}
    {prerequisite : Prerequisite}
    (hleave : overwrite = true → ∀ given, nameOf name = .ok given →
      ∀ key ∈ groupFieldKeys given, key.render ∈ overwritten) :
    (registerGroupField name expression labelStart prerequisite overwrite).Keeps id
      overwritten := by
  have hone (kind : Kind) (recipe : Recipe) (hkind : ∀ given, ⟨kind, given⟩ ∈ groupFieldKeys given) :
      (registerWith kind name overwrite (.ok { recipe, prerequisite })).Keeps id overwritten := by
    refine keeps_registerWith ?_ fun hoverwrite given hname =>
      hleave hoverwrite given hname _ (hkind given)
    rintro fragment ⟨⟩
    exact List.Pairwise.nil
  exact (hone .field _ fun _ => List.mem_cons_self).bind fun _ =>
    (hone .group _ fun _ => List.mem_cons_of_mem _ (List.mem_singleton.mpr rfl)).bind fun _ =>
      Action.keeps_pure ()

end Registry

end QueryWeave

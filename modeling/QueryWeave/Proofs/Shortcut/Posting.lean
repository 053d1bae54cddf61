import QueryWeave.Proofs.Shortcut.Combo

namespace QueryWeave

section Entries

variable {α β : Type} {left right : Entries α} {key : String} {value : α}

theorem Entries.keys_map_values (entries : Entries α) (change : α → β) :
    keys (entries.map fun pair => (pair.1, change pair.2)) = keys entries := by
  rw [keys, List.map_map]
  rfl

theorem Entries.get?_map_values (entries : Entries α) (change : α → β) (key : String) :
    get? (entries.map fun pair => (pair.1, change pair.2)) key = (get? entries key).map change := by
  induction entries with
  | nil => rfl
  | cons pair rest ih =>
      obtain ⟨held, first⟩ := pair
      rw [List.map_cons, get?, get?]
      split
      next => rfl
      next => exact ih

theorem Entries.get?_append_of_mem (h : key ∈ keys left) :
    get? (left ++ right) key = get? left key := by
  obtain ⟨value, hfound⟩ := exists_get?_of_mem_keys h
  rw [get?_append, hfound, Option.some_or]

theorem Entries.get?_append_of_not_mem (h : key ∉ keys left) :
    get? (left ++ right) key = get? right key := by
  rw [get?_append, get?_eq_none_iff.mpr h, Option.none_or]

theorem Entries.get?_map_pair {names : List String} (h : key ∈ names) (value : α) :
    get? (names.map fun name => (name, value)) key = some value := by
  induction names with
  | nil => cases h
  | cons name rest ih =>
      rw [List.map_cons, get?]
      split
      next => rfl
      next hne => exact ih ((List.mem_cons.mp h).resolve_left (Ne.symm hne))

end Entries

namespace Registry

variable {registry : Registry} {key : String} {fragment : Fragment}

/-- The prerequisites of the fragments, by key. -/
def prerequisites (registry : Registry) : Entries Prerequisite :=
  registry.map fun pair => (pair.1, pair.2.prerequisite)

theorem keys_prerequisites (registry : Registry) :
    Entries.keys registry.prerequisites = Entries.keys registry :=
  Entries.keys_map_values registry Fragment.prerequisite

theorem get?_prerequisites (registry : Registry) (key : String) :
    Entries.get? registry.prerequisites key =
      (Entries.get? registry key).map Fragment.prerequisite :=
  Entries.get?_map_values registry Fragment.prerequisite key

/-- A fragment in the place of one with the same prerequisite. -/
theorem prerequisites_put {held : Fragment} (hfound : Entries.get? registry key = some held)
    (hsame : fragment.prerequisite = held.prerequisite) :
    prerequisites (Entries.put registry key fragment) = registry.prerequisites := by
  induction registry with
  | nil => cases hfound
  | cons pair rest ih =>
      obtain ⟨other, first⟩ := pair
      rw [Entries.get?] at hfound
      rw [Entries.put]
      split at hfound
      next heq =>
        cases hfound
        rw [if_pos heq, prerequisites, prerequisites, List.map_cons, List.map_cons, hsame]
      next hne =>
        rw [if_neg hne, prerequisites, prerequisites, List.map_cons, List.map_cons]
        exact congrArg _ (ih hfound)

theorem prerequisites_modifyAt {change : Fragment → Fragment}
    (hchange : ∀ fragment, (change fragment).prerequisite = fragment.prerequisite)
    (key : String) (registry : Registry) :
    prerequisites (modifyAt key change registry) = registry.prerequisites := by
  rw [modifyAt]
  split
  next fragment hfound => exact prerequisites_put hfound (hchange fragment)
  next => rfl

/-- Without leave to overwrite, a key that gets registered was free. -/
theorem registerWith_new_inv {kind : Kind} {name given : String}
    {make : Except Failure Fragment} {before after : Shelf}
    (h : registerWith kind (.text name) false make before = (.ok given, after)) :
    ∃ fragment, make = .ok fragment ∧
      (Key.mk kind name).render ∉ Entries.keys before.registry ∧
      after.registry = before.registry ++ [((Key.mk kind name).render, fragment)] := by
  have hleaves : leaves (registerWith kind (.text name) false make) before =
      (.ok (), after.registry) := by
    rw [leaves, h]
    rfl
  rw [leaves_registerWith] at hleaves
  cases hname : nameOf (.text name) with
  | error failure =>
      rw [hname] at hleaves
      cases hleaves
  | ok same =>
      cases (nameOf_eq_ok_iff.mp hname).1
      rw [hname] at hleaves
      dsimp only at hleaves
      split at hleaves
      next => cases hleaves
      next hfree =>
        have hnot : (Key.mk kind name).render ∉ Entries.keys before.registry :=
          fun hmem => hfree ⟨Entries.has_iff.mpr hmem, rfl⟩
        cases make with
        | error failure => cases hleaves
        | ok fragment =>
            have hregistry : Entries.put before.registry (Key.mk kind name).render fragment =
                after.registry := congrArg Prod.snd hleaves
            rw [Entries.put_of_not_mem hnot] at hregistry
            exact ⟨fragment, rfl, hnot, hregistry.symm⟩

end Registry

namespace Desk

/-- A desk with more registered, all under one prerequisite. -/
structure Posts (before after : Desk) (keys : List String) (prerequisite : Prerequisite) :
    Prop where
  registered : after.registry.prerequisites =
    before.registry.prerequisites ++ keys.map fun key => (key, prerequisite)
  fresh : ∀ key ∈ keys, key ∉ Entries.keys before.registry
  catalogue : after.catalogue = before.catalogue

/-- The same, and an expression may have been published under that prerequisite, for one of the
fields that are new. -/
structure Enlists (before after : Desk) (keys : List String) (prerequisite : Prerequisite) :
    Prop where
  registered : after.registry.prerequisites =
    before.registry.prerequisites ++ keys.map fun key => (key, prerequisite)
  fresh : ∀ key ∈ keys, key ∉ Entries.keys before.registry
  published : after.catalogue.published = before.catalogue.published ∨
    ∃ name expression, (Key.mk .field name).render ∈ keys ∧
      after.catalogue.published =
        Entries.put before.catalogue.published name ⟨expression, prerequisite⟩

variable {before middle after : Desk} {keys first second : List String}
  {prerequisite : Prerequisite}

theorem Posts.of_prerequisites
    (hregistry : after.registry.prerequisites = before.registry.prerequisites)
    (hcatalogue : after.catalogue = before.catalogue) (prerequisite : Prerequisite) :
    before.Posts after [] prerequisite where
  registered := by rw [hregistry, List.map_nil, List.append_nil]
  fresh := fun _ hmem => absurd hmem List.not_mem_nil
  catalogue := hcatalogue

theorem Posts.of_append {key : String} {fragment : Fragment}
    (hfresh : key ∉ Entries.keys before.registry)
    (hregistry : after.registry = before.registry ++ [(key, fragment)])
    (hcatalogue : after.catalogue = before.catalogue) :
    before.Posts after [key] fragment.prerequisite where
  registered := by
    rw [hregistry, Registry.prerequisites, List.map_append]
    rfl
  fresh := by
    intro other hmem
    rw [List.mem_singleton.mp hmem]
    exact hfresh
  catalogue := hcatalogue

theorem Posts.mem_keys (h : before.Posts after keys prerequisite) {key : String}
    (hmem : key ∈ Entries.keys before.registry) : key ∈ Entries.keys after.registry := by
  rw [← Registry.keys_prerequisites, h.registered, Entries.keys_append, Registry.keys_prerequisites]
  exact List.mem_append_left _ hmem

theorem Posts.trans (hfirst : before.Posts middle first prerequisite)
    (hsecond : middle.Posts after second prerequisite) :
    before.Posts after (first ++ second) prerequisite where
  registered := by
    rw [hsecond.registered, hfirst.registered, List.map_append, List.append_assoc]
  fresh := by
    intro key hmem hheld
    rcases List.mem_append.mp hmem with hmem | hmem
    · exact hfirst.fresh key hmem hheld
    · exact hsecond.fresh key hmem (hfirst.mem_keys hheld)
  catalogue := hsecond.catalogue.trans hfirst.catalogue

theorem Posts.enlists (h : before.Posts after keys prerequisite) :
    before.Enlists after keys prerequisite where
  registered := h.registered
  fresh := h.fresh
  published := Or.inl (congrArg Catalogue.published h.catalogue)

end Desk

namespace Translating

variable {α β : Type} {keys first second : List String} {prerequisite : Prerequisite}

/-- An action that succeeds registers entries under one prerequisite, and does not touch the
catalogue. -/
def Posts (action : Translating α) (keys : List String) (prerequisite : Prerequisite) : Prop :=
  ∀ ⦃desk value after⦄, action desk = (.ok value, after) → desk.Posts after keys prerequisite

/-- The same, after an expression may have been published. -/
def Enlists (action : Translating α) (keys : List String) (prerequisite : Prerequisite) : Prop :=
  ∀ ⦃desk value after⦄, action desk = (.ok value, after) → desk.Enlists after keys prerequisite

theorem Posts.bind {action : Translating α} {next : α → Translating β}
    (h : Posts action first prerequisite) (hnext : ∀ value, Posts (next value) second prerequisite) :
    Posts (action >>= next) (first ++ second) prerequisite := by
  intro desk value after hdone
  obtain ⟨held, middle, hfirst, hsecond⟩ := Action.bind_ok_inv hdone
  exact (h hfirst).trans (hnext held hsecond)

theorem Posts.enlists {action : Translating α} (h : Posts action keys prerequisite) :
    Enlists action keys prerequisite :=
  fun _ _ _ hdone => (h hdone).enlists

theorem posts_pure (value : α) (prerequisite : Prerequisite) :
    Posts (pure value) [] prerequisite := by
  intro desk result after hdone
  cases hdone
  apply Desk.Posts.of_prerequisites
  · rfl
  · rfl

theorem posts_note (entry : Entry) (prerequisite : Prerequisite) :
    Posts (note entry) [] prerequisite := by
  intro desk value after hdone
  cases hdone
  apply Desk.Posts.of_prerequisites
  · rfl
  · rfl

theorem registering_ok_inv {action : Registry.Registering α} {desk after : Desk} {value : α}
    (h : registering action desk = (.ok value, after)) :
    ∃ shelf, action ⟨desk.registry, desk.journal⟩ = (.ok value, shelf) ∧
      after = { desk with registry := shelf.registry, journal := shelf.journal } := by
  rw [registering] at h
  generalize action ⟨desk.registry, desk.journal⟩ = run at h
  obtain ⟨outcome, shelf⟩ := run
  cases h
  exact ⟨shelf, rfl, rfl⟩

theorem posts_registerWith {kind : Kind} {name : String} {make : Except Failure Fragment}
    (hmake : ∀ fragment, make = .ok fragment → fragment.prerequisite = prerequisite) :
    Posts (registering (Registry.registerWith kind (.text name) false make))
      [(Key.mk kind name).render] prerequisite := by
  intro desk value after hdone
  obtain ⟨shelf, hrun, rfl⟩ := registering_ok_inv hdone
  obtain ⟨fragment, hfragment, hfresh, hregistry⟩ := Registry.registerWith_new_inv hrun
  rw [← hmake fragment hfragment]
  exact .of_append hfresh hregistry rfl

theorem posts_register (kind : Kind) (name : String) (recipe : Except Failure Recipe)
    (prerequisite : Prerequisite) :
    Posts (register kind name recipe prerequisite) [(Key.mk kind name).render] prerequisite := by
  refine (posts_registerWith ?_).bind fun _ => posts_pure () prerequisite
  intro fragment hfragment
  cases recipe with
  | error failure => cases hfragment
  | ok recipe =>
      cases hfragment
      rfl

theorem posts_registerGrouped (name : String) (expression : Draft) (prerequisite : Prerequisite) :
    Posts (Descriptor.registerGrouped name expression prerequisite)
      [(Key.mk .field name).render, (Key.mk .group name).render] prerequisite := by
  rw [Descriptor.registerGrouped, Registry.registerGroupField, registering_bind]
  refine (posts_registerWith ?_).bind fun _ => ?_
  · rintro fragment hfragment
    cases hfragment
    rfl
  rw [registering_bind]
  refine (posts_registerWith ?_).bind fun _ => posts_pure () prerequisite
  rintro fragment hfragment
  cases hfragment
  rfl

theorem posts_bindPlaces (name : String) (places : List (String × Int))
    (prerequisite : Prerequisite) :
    Posts (Descriptor.bindPlaces name places) [] prerequisite := by
  intro desk value after hdone
  cases hdone
  apply Desk.Posts.of_prerequisites
  · apply Registry.prerequisites_modifyAt
    intro fragment
    induction places generalizing fragment with
    | nil => rfl
    | cons place rest ih => exact ih _
  · rfl

/-- An expression is published before the field that it is for. -/
theorem Posts.publishing {action : Translating α} (h : Posts action keys prerequisite)
    {name : String} (hfield : (Key.mk .field name).render ∈ keys) (expression : Expr) :
    Enlists (do publish name expression prerequisite; action) keys prerequisite := by
  intro desk value after hdone
  obtain ⟨_, middle, hpublished, hposted⟩ := Action.bind_ok_inv hdone
  cases hpublished
  obtain ⟨hregistered, hfresh, hcatalogue⟩ := h hposted
  exact ⟨hregistered, hfresh, Or.inr ⟨name, expression, hfield, by rw [hcatalogue]; rfl⟩⟩

end Translating

end QueryWeave

import QueryWeave.Composer
import QueryWeave.Proofs.Shortcut.Combo

/-!
Calls that register: one fragment, a field with its grouping, or a combo.  A call that fails with an
empty registry too leaves any registry as it is; the others fail on a key that is taken, after the
keys before it have been registered.  Main statement: `Registration.left_of_failed`.
-/

namespace QueryWeave

/-- The failure that a shortcut failed with, for any other failure itself. -/
def Failure.root : Failure → Failure
  | shortcut cause _ _ => cause
  | failure => failure

namespace Registry

variable {registry entries : Registry}

/-- What a registry is left with when entries under these keys are added to it, up to the first key
that is taken. -/
def Adds (registry : Registry) (keys : List String)
    (left : Except Failure Unit × Registry) : Prop :=
  ∃ added, left.2 = registry ++ added ∧
    Entries.keys added = keys.takeWhile (fun key => !Entries.has registry key) ∧
    left.1.mapError Failure.root =
      (keys.find? (Entries.has registry)).elim (.ok ()) fun key => .error (.alreadyRegistered key)

theorem keys_untaken : Entries.keys (untaken registry entries) =
    (Entries.keys entries).takeWhile fun key => !Entries.has registry key := by
  rw [Entries.keys, Entries.keys, List.takeWhile_map]
  rfl

theorem adds_enter (hnodup : (Entries.keys entries).Nodup) :
    registry.Adds (Entries.keys entries) (enter registry entries) := by
  rw [enter_of_nodup hnodup]
  refine ⟨untaken registry entries, rfl, keys_untaken, ?_⟩
  rw [taken?]
  cases (Entries.keys entries).find? (Entries.has registry) with
  | none => rfl
  | some key => rfl

end Registry

namespace Workbench

def withRegistry (bench : Workbench) (registry : Registry) : Workbench :=
  { bench with composer := { bench.composer with registry } }

end Workbench

namespace Building

variable {α : Type}

/-- Whether an action succeeds, and the registry that it leaves in the place of the given one. -/
def leaves (action : Building Unit) (bench : Workbench) (registry : Registry) :
    Except Failure Unit × Registry :=
  ((action (bench.withRegistry registry)).1,
    (action (bench.withRegistry registry)).2.composer.registry)

theorem leaves_registering (action : Registry.Registering Unit) (bench : Workbench)
    (registry : Registry) :
    leaves (registering action) bench registry =
      Registry.leaves action ⟨registry, bench.journal⟩ := by
  rw [leaves, Registry.leaves, registering]
  dsimp only [Workbench.withRegistry]
  cases action ⟨registry, bench.journal⟩ with
  | mk outcome shelf => cases outcome <;> rfl

theorem leaves_registering_bind (action : Registry.Registering α) (bench : Workbench)
    (registry : Registry) :
    leaves (do let _ ← registering action) bench registry =
      Registry.leaves action ⟨registry, bench.journal⟩ := by
  rw [leaves, Registry.leaves, Action.bind_apply, registering]
  dsimp only [Workbench.withRegistry]
  cases action ⟨registry, bench.journal⟩ with
  | mk outcome shelf => cases outcome <;> rfl

end Building

inductive Registration where
  | fragment (kind : Kind) (name : Datum) (source prerequisite : Draft) (overwrite : Bool)
  | groupField (name : Datum) (expression : Draft) (labelStart : String) (prerequisite : Draft)
      (overwrite : Bool)
  | combo (raw : Draft) (options : Entries Datum) (isCombo : Descriptor.IsCombo raw)

namespace Registration

def run : Registration → Building Unit
  | fragment kind name source prerequisite overwrite =>
      Building.register kind name source prerequisite overwrite
  | groupField name expression labelStart prerequisite overwrite =>
      Building.registerGroupField name expression labelStart prerequisite overwrite
  | combo raw options _ => Building.useShortcuts (.list [raw]) options

def overwrites : Registration → Bool
  | fragment _ _ _ _ overwrite | groupField _ _ _ _ overwrite => overwrite
  | combo _ _ _ => false

/-- The keys for a name; none if it is no name. -/
def keysUnder (name : Datum) (make : String → List Key) : List String :=
  match Registry.nameOf name with
  | .ok given => (make given).map Key.render
  | .error _ => []

/-- The keys that a call registers, in order. -/
def keys : Registration → List String
  | fragment kind name _ _ _ => keysUnder name fun given => [⟨kind, given⟩]
  | groupField name _ _ _ _ => keysUnder name Registry.groupFieldKeys
  | combo raw _ _ => (Descriptor.keysOf raw).map Key.render

/-- A call on a bench, with any registry in the place of the one that is there. -/
def leaves (call : Registration) (bench : Workbench) (registry : Registry) :
    Except Failure Unit × Registry :=
  Building.leaves call.run bench registry

/-- The call succeeds while nothing is registered. -/
def Fits (call : Registration) (bench : Workbench) : Prop :=
  (call.leaves bench []).1 = .ok ()

/-- What a call does, whatever is registered. -/
inductive Conduct (call : Registration) (bench : Workbench) : Prop where
  | refuses (h : ∀ registry, ∃ failure, call.leaves bench registry = (.error failure, registry))
  | succeeds (hoverwrites : call.overwrites = true)
      (h : ∀ registry, (call.leaves bench registry).1 = .ok ())
  | adds (hkeeps : call.overwrites = false)
      (h : ∀ registry, Registry.Adds registry call.keys (call.leaves bench registry))

variable {call : Registration} {bench left : Workbench} {failure : Failure}

section Shelf

variable {α : Type} {action : Registry.Registering α} {entries : Registry}
  (hleaves : ∀ registry,
    call.leaves bench registry = Registry.leaves action ⟨registry, bench.journal⟩)

include hleaves

theorem conduct_of_refuses (h : Registry.Refuses action) : Conduct call bench := by
  refine .refuses fun registry => ?_
  rw [hleaves]
  exact h ⟨registry, bench.journal⟩

theorem conduct_of_succeeds (hoverwrites : call.overwrites = true)
    (h : Registry.Succeeds action) : Conduct call bench := by
  refine .succeeds hoverwrites fun registry => ?_
  rw [hleaves]
  exact h ⟨registry, bench.journal⟩

theorem conduct_of_enters (hkeeps : call.overwrites = false) (h : Registry.Enters action entries)
    (hkeys : Entries.keys entries = call.keys) (hnodup : (Entries.keys entries).Nodup) :
    Conduct call bench := by
  refine .adds hkeeps fun registry => ?_
  rw [hleaves, h, ← hkeys]
  exact Registry.adds_enter hnodup

end Shelf

theorem keysUnder_of_ok {name : Datum} {given : String} (hname : Registry.nameOf name = .ok given)
    (make : String → List Key) : keysUnder name make = (make given).map Key.render := by
  rw [keysUnder, hname]

theorem leaves_fragment (kind : Kind) (name : Datum) (source prerequisite : Draft)
    (overwrite : Bool) (bench : Workbench) (registry : Registry) :
    leaves (fragment kind name source prerequisite overwrite) bench registry =
      Registry.leaves (Registry.registerWith kind name overwrite
        (Fragment.ofDraft source prerequisite)) ⟨registry, bench.journal⟩ :=
  Building.leaves_registering_bind _ bench registry

theorem conduct_fragment (kind : Kind) (name : Datum) (source prerequisite : Draft)
    (overwrite : Bool) (bench : Workbench) :
    Conduct (fragment kind name source prerequisite overwrite) bench := by
  have hleaves := leaves_fragment kind name source prerequisite overwrite bench
  cases hname : Registry.nameOf name with
  | error failure => exact conduct_of_refuses hleaves (Registry.refuses_of_name hname)
  | ok given =>
      cases hmake : Fragment.ofDraft source prerequisite with
      | error failure =>
          rw [hmake] at hleaves
          exact conduct_of_refuses hleaves (Registry.refuses_of_make failure)
      | ok made =>
          rw [hmake] at hleaves
          cases overwrite with
          | true => exact conduct_of_succeeds hleaves rfl (Registry.succeeds_registerWith hname)
          | false =>
              refine conduct_of_enters hleaves rfl (Registry.enters_registerWith hname) ?_ ?_
              · exact (keysUnder_of_ok hname fun given => [⟨kind, given⟩]).symm
              · exact List.nodup_singleton _

theorem leaves_groupField {prerequisite : Draft} {requirement : Prerequisite}
    (hprerequisite : prerequisite.toPrerequisite = .ok requirement) (name : Datum)
    (expression : Draft) (labelStart : String) (overwrite : Bool) (bench : Workbench)
    (registry : Registry) :
    leaves (groupField name expression labelStart prerequisite overwrite) bench registry =
      Registry.leaves (Registry.registerGroupField name expression labelStart requirement
        overwrite) ⟨registry, bench.journal⟩ := by
  rw [leaves, run, Building.registerGroupField, hprerequisite, Action.liftExcept_ok_bind]
  exact Building.leaves_registering _ bench registry

theorem conduct_groupField (name : Datum) (expression : Draft) (labelStart : String)
    (prerequisite : Draft) (overwrite : Bool) (bench : Workbench) :
    Conduct (groupField name expression labelStart prerequisite overwrite) bench := by
  cases hprerequisite : prerequisite.toPrerequisite with
  | error failure =>
      refine .refuses fun registry => ⟨failure, ?_⟩
      rw [leaves, run, Building.registerGroupField, hprerequisite]
      rfl
  | ok requirement =>
      have hleaves := leaves_groupField hprerequisite name expression labelStart overwrite bench
      cases hname : Registry.nameOf name with
      | error failure =>
          exact conduct_of_refuses hleaves (Registry.refuses_registerGroupField hname)
      | ok given =>
          cases overwrite with
          | true =>
              exact conduct_of_succeeds hleaves rfl (Registry.succeeds_registerGroupField hname)
          | false =>
              obtain ⟨entries, hkeys, hnodup, henters⟩ :=
                Registry.enters_registerGroupField hname expression labelStart requirement
              rw [← keysUnder_of_ok hname] at hkeys
              exact conduct_of_enters hleaves rfl henters hkeys hnodup

/-- The translation of a combo decides what it leaves; in the end the new fragments share a
catalogue. -/
theorem leaves_combo (raw : Draft) (options : Entries Datum) (hcombo : Descriptor.IsCombo raw)
    (bench : Workbench) :
    ∃ name, ∀ registry, ∃ share : Fragment → Fragment,
      leaves (combo raw options hcombo) bench registry =
        let left := Translating.leaves (Descriptor.translateDraft raw)
          { registry := [], options, journal := bench.journal } registry
        (left.1.mapError fun cause => .shortcut cause "combo" name,
          left.2.take registry.length ++
            (left.2.drop registry.length).map fun pair => (pair.1, share pair.2)) := by
  obtain ⟨name, htranslated⟩ := bench.composer.handlers.translateEach_of_isCombo hcombo
  refine ⟨name, fun registry => ?_⟩
  let desk : Desk := { registry, options, journal := bench.journal }
  obtain ⟨houtcome, hregistry⟩ := htranslated desk rfl
  have hall : leaves (combo raw options hcombo) bench registry =
      ((bench.composer.handlers.translateEach [raw] desk).1,
        (Handlers.shareCatalogue registry.length
          (bench.composer.handlers.translateEach [raw] desk).2).registry) :=
    rfl
  refine ⟨fun fragment => { fragment with
    catalogue := (bench.composer.handlers.translateEach [raw] desk).2.catalogue }, ?_⟩
  rw [hall, houtcome, Handlers.shareCatalogue, hregistry]
  rfl

theorem conduct_combo (raw : Draft) (options : Entries Datum) (hcombo : Descriptor.IsCombo raw)
    (bench : Workbench) : Conduct (combo raw options hcombo) bench := by
  obtain ⟨name, hleaves⟩ := leaves_combo raw options hcombo bench
  rcases Descriptor.registers_of_isCombo hcombo
    { registry := [], options, journal := bench.journal } with
    hrefused | ⟨entries, hkeys, hnodup, hentered⟩
  · refine .refuses fun registry => ?_
    obtain ⟨share, hleft⟩ := hleaves registry
    obtain ⟨failure, hfailed⟩ := hrefused registry
    rw [hleft, hfailed]
    refine ⟨.shortcut failure "combo" name, Prod.ext rfl ?_⟩
    simp
  · refine .adds rfl fun registry => ?_
    obtain ⟨share, hleft⟩ := hleaves registry
    rw [hleft, hentered, Registry.enter_of_nodup hnodup, keys, ← hkeys]
    refine ⟨(Registry.untaken registry entries).map fun pair => (pair.1, share pair.2), ?_, ?_, ?_⟩
    · simp
    · rw [← Registry.keys_untaken, Entries.keys, List.map_map]
      rfl
    · dsimp only [Registry.taken?]
      cases (Entries.keys entries).find? (Entries.has registry) with
      | none => rfl
      | some key => rfl

theorem conduct (call : Registration) (bench : Workbench) : Conduct call bench := by
  cases call with
  | fragment kind name source prerequisite overwrite => exact conduct_fragment _ _ _ _ _ _
  | groupField name expression labelStart prerequisite overwrite =>
      exact conduct_groupField _ _ _ _ _ _
  | combo raw options hcombo => exact conduct_combo _ _ _ _

theorem leaves_self : call.leaves bench bench.composer.registry =
    ((call.run bench).1, (call.run bench).2.composer.registry) :=
  rfl

theorem fits_of_adds (h : Registry.Adds [] call.keys (call.leaves bench [])) : call.Fits bench := by
  obtain ⟨_, _, _, houtcome⟩ := h
  rw [Registry.find?_has_nil] at houtcome
  rw [Fits]
  cases hleft : (call.leaves bench []).1 with
  | error failure =>
      rw [hleft] at houtcome
      cases houtcome
  | ok value => rfl

theorem not_fits_of_refuses
    (h : ∀ registry, ∃ failure, call.leaves bench registry = (.error failure, registry)) :
    ¬ call.Fits bench := by
  obtain ⟨failure, hrefused⟩ := h []
  rw [Fits, hrefused]
  nofun

/-- A call that adds entries and fails has come to the first key that is taken. -/
theorem taken_of_adds
    (h : Registry.Adds bench.composer.registry call.keys
      (call.leaves bench bench.composer.registry))
    (hfailed : call.run bench = (.error failure, left)) :
    ∃ key added,
      call.keys.find? (Entries.has bench.composer.registry) = some key ∧
      failure.root = .alreadyRegistered key ∧
      left.composer.registry = bench.composer.registry ++ added ∧
      Entries.keys added =
        call.keys.takeWhile fun key => !Entries.has bench.composer.registry key := by
  obtain ⟨added, hleft, hkeys, houtcome⟩ := h
  rw [leaves_self, hfailed] at hleft houtcome
  cases hfound : call.keys.find? (Entries.has bench.composer.registry) with
  | none =>
      rw [hfound] at houtcome
      cases houtcome
  | some key =>
      rw [hfound] at houtcome
      exact ⟨key, added, rfl, Except.error.inj houtcome, hleft, hkeys⟩

theorem fails_of_adds
    (h : Registry.Adds bench.composer.registry call.keys
      (call.leaves bench bench.composer.registry))
    {key : String} (hmem : key ∈ call.keys)
    (htaken : key ∈ Entries.keys bench.composer.registry) :
    ∃ failure left, call.run bench = (.error failure, left) := by
  obtain ⟨_, _, _, houtcome⟩ := h
  rw [leaves_self] at houtcome
  cases hrun : call.run bench with
  | mk outcome left =>
      cases outcome with
      | error failure => exact ⟨failure, left, rfl⟩
      | ok value =>
          rw [hrun] at houtcome
          cases hfound : call.keys.find? (Entries.has bench.composer.registry) with
          | none =>
              have hfree := List.find?_eq_none.mp hfound key hmem
              exact absurd (Entries.has_iff.mpr htaken) hfree
          | some first =>
              rw [hfound] at houtcome
              cases houtcome

/-- A call fails exactly when it fails on an empty registry too, or does not overwrite and one of
its keys is taken. -/
theorem fails_iff (call : Registration) (bench : Workbench) :
    (∃ failure left, call.run bench = (.error failure, left)) ↔
      ¬ call.Fits bench ∨
        call.overwrites = false ∧
          ∃ key ∈ call.keys, key ∈ Entries.keys bench.composer.registry := by
  cases call.conduct bench with
  | refuses h =>
      obtain ⟨failure, hrefused⟩ := h bench.composer.registry
      have hfailed : (call.run bench).1 = .error failure := congrArg Prod.fst hrefused
      exact iff_of_true ⟨failure, (call.run bench).2, Prod.ext hfailed rfl⟩
        (Or.inl (not_fits_of_refuses h))
  | succeeds hoverwrites h =>
      refine iff_of_false ?_ ?_
      · rintro ⟨failure, left, hfailed⟩
        have hdone := h bench.composer.registry
        rw [leaves_self, hfailed] at hdone
        cases hdone
      · rintro (hnot | ⟨hkeeps, _⟩)
        · exact hnot (h [])
        · rw [hoverwrites] at hkeeps
          cases hkeeps
  | adds hkeeps h =>
      constructor
      · rintro ⟨failure, left, hfailed⟩
        obtain ⟨key, _, hfound, _⟩ := taken_of_adds (h _) hfailed
        exact Or.inr ⟨hkeeps, key, List.mem_of_find?_eq_some hfound,
          Entries.has_iff.mp (List.find?_some hfound)⟩
      · rintro (hnot | ⟨_, key, hmem, htaken⟩)
        · exact absurd (fits_of_adds (h [])) hnot
        · exact fails_of_adds (h _) hmem htaken

theorem head?_keys_fragment {kind : Kind} {name : Datum} {source prerequisite : Draft}
    {overwrite : Bool} {key : String}
    (h : key ∈ (fragment kind name source prerequisite overwrite).keys) :
    (fragment kind name source prerequisite overwrite).keys.head? = some key := by
  rw [keys, keysUnder] at h ⊢
  cases hname : Registry.nameOf name with
  | error failure =>
      rw [hname] at h
      cases h
  | ok given =>
      rw [hname] at h
      exact congrArg some (List.mem_singleton.mp h).symm

/-- What has been added before the first taken key is nothing exactly when that key comes first. -/
theorem added_eq_nil_iff {registry added : Registry} {keys : List String} {key : String}
    (hfound : keys.find? (Entries.has registry) = some key)
    (hadded : Entries.keys added = keys.takeWhile fun key => !Entries.has registry key) :
    added = [] ↔ ∃ first, keys.head? = some first ∧ first ∈ Entries.keys registry := by
  have hempty : added = [] ↔ Entries.keys added = [] := List.map_eq_nil_iff.symm
  rw [hempty, hadded]
  cases keys with
  | nil => cases hfound
  | cons first rest =>
      rw [List.takeWhile_cons]
      simp [← Entries.has_iff]

/-- A failing call leaves the registry as it was, unless it would succeed on an empty registry and
its first key is free.  A call that would succeed on an empty registry fails for the first key that
is taken, and has registered the keys before it. -/
theorem left_of_failed (call : Registration) (bench : Workbench) :
    ((∃ failure left, call.run bench = (.error failure, left)) ↔
      ¬ call.Fits bench ∨
        call.overwrites = false ∧
          ∃ key ∈ call.keys, key ∈ Entries.keys bench.composer.registry) ∧
    ∀ failure left, call.run bench = (.error failure, left) →
      (left.composer.registry = bench.composer.registry ↔
        (call.Fits bench →
          ∃ key, call.keys.head? = some key ∧ key ∈ Entries.keys bench.composer.registry)) ∧
      (∀ kind name source prerequisite overwrite,
        call = fragment kind name source prerequisite overwrite →
          left.composer.registry = bench.composer.registry) ∧
      (call.Fits bench → ∃ key added,
        call.keys.find? (Entries.has bench.composer.registry) = some key ∧
        failure.root = .alreadyRegistered key ∧
        left.composer.registry = bench.composer.registry ++ added ∧
        Entries.keys added =
          call.keys.takeWhile fun other => !Entries.has bench.composer.registry other) := by
  refine ⟨call.fails_iff bench, fun failure left hfailed => ?_⟩
  cases call.conduct bench with
  | refuses h =>
      have hnot := not_fits_of_refuses h
      obtain ⟨other, hrefused⟩ := h bench.composer.registry
      have hsame : left.composer.registry = bench.composer.registry := by
        rw [leaves_self, hfailed] at hrefused
        exact congrArg Prod.snd hrefused
      exact ⟨iff_of_true hsame fun hfits => absurd hfits hnot, fun _ _ _ _ _ _ => hsame,
        fun hfits => absurd hfits hnot⟩
  | succeeds _ h =>
      have hdone := h bench.composer.registry
      rw [leaves_self, hfailed] at hdone
      cases hdone
  | adds _ h =>
      obtain ⟨key, added, hfound, hroot, hleft, hadded⟩ := taken_of_adds (h _) hfailed
      have hsame : left.composer.registry = bench.composer.registry ↔
          ∃ key, call.keys.head? = some key ∧ key ∈ Entries.keys bench.composer.registry := by
        rw [hleft, List.append_right_eq_self]
        exact added_eq_nil_iff hfound hadded
      have hfits := fits_of_adds (h [])
      refine ⟨⟨fun h _ => hsame.mp h, fun h => hsame.mpr (h hfits)⟩, ?_,
        fun _ => ⟨key, added, hfound, hroot, hleft, hadded⟩⟩
      rintro kind name source prerequisite overwrite rfl
      exact hsame.mpr ⟨key, head?_keys_fragment (List.mem_of_find?_eq_some hfound),
        Entries.has_iff.mp (List.find?_some hfound)⟩

def days : Registration :=
  groupField (.text "day") (.expression (.named "day")) "group_" (.plain .null) false

/-- The grouping by days is there already. -/
def byDay : Workbench :=
  ((fragment .group (.text "day") (.query .empty) (.plain .null) false).run { composer := {} }).2

/-- The registry has changed: the field of the days was free. -/
theorem days_changes_byDay :
    days.run byDay = (.error (.alreadyRegistered "groupBy:day"), (days.run byDay).2) ∧
      (days.run byDay).2.composer.registry ≠ byDay.composer.registry := by
  have hfailed : days.run byDay =
      (.error (.alreadyRegistered "groupBy:day"), (days.run byDay).2) := rfl
  refine ⟨hfailed, fun hsame => ?_⟩
  obtain ⟨hunchanged, _, _⟩ := (left_of_failed days byDay).2 _ _ hfailed
  obtain ⟨key, hfirst, htaken⟩ := hunchanged.mp hsame rfl
  have hkeys : days.keys = ["field:day", "groupBy:day"] := rfl
  rw [hkeys] at hfirst
  cases hfirst
  revert htaken
  have hthere : Entries.keys byDay.composer.registry = ["groupBy:day"] := rfl
  rw [hthere]
  decide

def codes : Registration :=
  combo (.object [("type", .plain (.text "combo")), ("name", .plain (.text "code")),
    ("expression", .expression (.named "code"))]) [] ⟨_, rfl, rfl⟩

/-- A filter of codes is there already. -/
def byCode : Workbench :=
  ((fragment .filter (.text "code") (.query .empty) (.plain .null) false).run { composer := {} }).2

/-- Calls that fail and have registered the field of a pair without its grouping, or all of a combo
but the filter. -/
theorem half_registered :
    (days.run byDay).1 = .error (.alreadyRegistered "groupBy:day") ∧
    Entries.keys byDay.composer.registry = ["groupBy:day"] ∧
    Entries.keys (days.run byDay).2.composer.registry = ["groupBy:day", "field:day"] ∧
    (codes.run byCode).1 = .error (.shortcut (.alreadyRegistered "code") "combo" "code") ∧
    Entries.keys byCode.composer.registry = ["code"] ∧
    Entries.keys (codes.run byCode).2.composer.registry =
      ["code", "field:code", "groupBy:code", "field:codeAny", "groupBy:codeAny"] := by
  exact ⟨rfl, rfl, rfl, rfl, rfl, rfl⟩

end Registration

end QueryWeave

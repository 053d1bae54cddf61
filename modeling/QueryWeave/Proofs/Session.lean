import QueryWeave.Proofs.Registration
import QueryWeave.Proofs.Shortcut.Kept
import QueryWeave.Proofs.Shortcut.Traced

/-!
Sessions: calls to a composer one after the other, whether they succeed or fail.  Main statement:
`Building.Call.runAll_registers`, keys stay what they were registered as, in the order of their first
registration, and a fragment is replaced by a call that is to overwrite only.
-/

namespace QueryWeave

/-- What a composer under construction has on its shelf. -/
def Workbench.shelf (bench : Workbench) : Registry.Shelf :=
  ⟨bench.composer.registry, bench.journal⟩

/-- A copy of a composer is the composer itself. -/
theorem Composer.copy_eq {composer : Composer} (hnodup : (Entries.keys composer.registry).Nodup)
    (hordered : ∀ key fragment, Entries.get? composer.registry key = some fragment →
      fragment.Ordered) : composer.copy = composer := by
  have hcopy : ∀ pair ∈ composer.registry, (pair.1, pair.2.copy) = id pair := by
    intro pair hmem
    have hpair := hordered pair.1 pair.2 (Entries.get?_of_mem hnodup hmem)
    rw [Fragment.copy_eq hpair]
    rfl
  rw [copy, List.map_congr_left hcopy, List.map_id, Entries.ofPairs_of_nodup hnodup]

namespace Building

open QueryWeave.Action

variable {α : Type} {overwritten : List String}

theorem keeps_registering {action : Registry.Registering α} (h : action.Keeps id overwritten) :
    (registering action).Keeps Workbench.shelf overwritten :=
  fun bench => h ⟨bench.composer.registry, bench.journal⟩

theorem handlers_registering (action : Registry.Registering α) (bench : Workbench) :
    (registering action bench).2.composer.handlers = bench.composer.handlers :=
  rfl

theorem handlers_useShortcuts (descriptors : Draft) (options : Entries Datum) (bench : Workbench) :
    (useShortcuts descriptors options bench).2.composer.handlers = bench.composer.handlers := by
  rw [useShortcuts]
  cases Handlers.descriptors descriptors with
  | error failure => rfl
  | ok raws => rfl

theorem follows_useShortcuts {descriptors : Draft} {bench : Workbench} (options : Entries Datum)
    (hbuiltIn : ∀ raws, Handlers.descriptors descriptors = .ok raws →
      ∀ raw ∈ raws, bench.composer.handlers.TakesBuiltIn raw) :
    Registry.Shelf.Follows [] bench.shelf (useShortcuts descriptors options bench).2.shelf := by
  rw [useShortcuts]
  cases hraws : Handlers.descriptors descriptors with
  | error failure => exact .refl [] bench.shelf
  | ok raws =>
      exact Handlers.keeps_translateAll (hbuiltIn raws hraws) (bench.desk options)

end Building

namespace Registration

open QueryWeave.Action

variable {call : Registration}

/-- The keys under which a call replaces fragments. -/
def overwritten (call : Registration) : List String :=
  if call.overwrites then call.keys else []

theorem mem_overwritten {name : Datum} {given : String} {make : String → List Key} {key : Key}
    (hoverwrites : call.overwrites = true) (hkeys : call.keys = keysUnder name make)
    (hname : Registry.nameOf name = .ok given) (hmem : key ∈ make given) :
    key.render ∈ call.overwritten := by
  rw [overwritten, if_pos hoverwrites, hkeys, keysUnder_of_ok hname]
  exact List.mem_map_of_mem hmem

theorem takesBuiltIn_of_isCombo {raw : Draft} (hcombo : Descriptor.IsCombo raw)
    (handlers : Handlers) : handlers.TakesBuiltIn raw := by
  obtain ⟨members, hmembers, htype⟩ := hcombo
  intro type htyped
  rw [Descriptor.typeOf?, hmembers, Option.bind_some, htype] at htyped
  cases htyped
  exact Or.inl (by decide)

theorem follows_run (call : Registration) (bench : Workbench) :
    Registry.Shelf.Follows call.overwritten bench.shelf (call.run bench).2.shelf := by
  cases call with
  | fragment kind name source prerequisite overwrite =>
      have hregister : (Registry.register kind name source prerequisite overwrite).Keeps id
          (fragment kind name source prerequisite overwrite).overwritten :=
        Registry.keeps_registerWith (fun _ => Fragment.ordered_ofDraft) fun hoverwrite given hname =>
          mem_overwritten hoverwrite rfl hname (List.mem_singleton.mpr rfl)
      exact ((Building.keeps_registering hregister).bind fun _ => keeps_pure ()) bench
  | groupField name expression labelStart prerequisite overwrite =>
      have hregister (settled : Prerequisite) :
          (Registry.registerGroupField name expression labelStart settled overwrite).Keeps id
            (groupField name expression labelStart prerequisite overwrite).overwritten :=
        Registry.keeps_registerGroupField fun hoverwrite given hname _ hmem =>
          mem_overwritten hoverwrite rfl hname hmem
      exact ((keeps_liftExcept _).bind fun settled =>
        Building.keeps_registering (hregister settled)) bench
  | combo raw options hcombo =>
      refine Building.follows_useShortcuts options fun raws hraws other hmem => ?_
      cases hraws
      cases List.mem_singleton.mp hmem
      exact takesBuiltIn_of_isCombo hcombo _

theorem handlers_run (call : Registration) (bench : Workbench) :
    (call.run bench).2.composer.handlers = bench.composer.handlers := by
  cases call with
  | fragment kind name source prerequisite overwrite =>
      have hregistered := Building.handlers_registering
        (Registry.register kind name source prerequisite overwrite) bench
      rw [run, Building.register, bind_apply]
      cases hrun : Building.registering
          (Registry.register kind name source prerequisite overwrite) bench with
      | mk outcome left =>
          rw [hrun] at hregistered
          cases outcome with
          | error failure => exact hregistered
          | ok key => exact hregistered
  | groupField name expression labelStart prerequisite overwrite =>
      rw [run, Building.registerGroupField]
      cases prerequisite.toPrerequisite with
      | error failure => rfl
      | ok settled => rfl
  | combo raw options hcombo => exact Building.handlers_useShortcuts _ options bench

end Registration

namespace Building

/-- A call to a composer under construction. -/
inductive Call where
  | register (registration : Registration)
  | useShortcuts (descriptors : Draft) (options : Entries Datum)
  /-- The composer gives way to its copy. -/
  | copy

namespace Call

def run : Call → Building Unit
  | register registration => registration.run
  | useShortcuts descriptors options => Building.useShortcuts descriptors options
  | copy => modify fun bench => { bench with composer := bench.composer.copy }

/-- The bench after calls, each of which may fail. -/
def runAll (calls : List Call) (bench : Workbench) : Workbench :=
  calls.foldl (fun bench call => (call.run bench).2) bench

/-- The keys under which a call replaces fragments: those that it registers, if it is to overwrite. -/
def overwritten : Call → List String
  | register registration => registration.overwritten
  | useShortcuts _ _ => []
  | copy => []

/-- No descriptor of the call is for a handler that is not built in. -/
def BuiltIn (handlers : Handlers) : Call → Prop
  | register _ => True
  | useShortcuts descriptors _ => ∀ raws, Handlers.descriptors descriptors = .ok raws →
      ∀ raw ∈ raws, handlers.TakesBuiltIn raw
  | copy => True

variable {call : Call} {calls : List Call} {bench : Workbench} {handlers : Handlers}

theorem run_copy (hsound : bench.shelf.Sound) : (copy.run bench).2 = bench := by
  have hcopy : bench.composer.copy = bench.composer :=
    Composer.copy_eq hsound.nodup hsound.ordered
  have hrun : (copy.run bench).2 = { bench with composer := bench.composer.copy } := rfl
  rw [hrun, hcopy]

/-- One call. -/
theorem follows_run (hsound : bench.shelf.Sound) (hbuiltIn : call.BuiltIn bench.composer.handlers) :
    Registry.Shelf.Follows call.overwritten bench.shelf (call.run bench).2.shelf := by
  cases call with
  | register registration => exact registration.follows_run bench
  | useShortcuts descriptors options => exact Building.follows_useShortcuts options hbuiltIn
  | copy =>
      rw [run_copy hsound]
      exact .refl [] bench.shelf

theorem handlers_run (call : Call) (bench : Workbench) :
    (call.run bench).2.composer.handlers = bench.composer.handlers := by
  cases call with
  | register registration => exact registration.handlers_run bench
  | useShortcuts descriptors options => exact Building.handlers_useShortcuts descriptors options bench
  | copy => rfl

/-- All calls. -/
theorem sound_runAll (hsound : bench.shelf.Sound)
    (hbuiltIn : ∀ call ∈ calls, call.BuiltIn bench.composer.handlers) :
    (runAll calls bench).shelf.Sound ∧
      (runAll calls bench).composer.handlers = bench.composer.handlers := by
  induction calls generalizing bench with
  | nil => exact ⟨hsound, rfl⟩
  | cons call rest ih =>
      rw [List.forall_mem_cons] at hbuiltIn
      have hnext := (follows_run hsound hbuiltIn.1).sound hsound
      rw [← handlers_run call bench] at hbuiltIn ⊢
      exact ih hnext hbuiltIn.2

/-- Whatever calls have come before, every key is that of one kind and one name that can be
registered, and is read back as these; the keys are different, in the order of their first
registration; and one more call leaves them in front, with the fragments under them, but for
those that it is to overwrite. -/
theorem runAll_registers {composer : Composer} (hempty : composer.registry = [])
    (hcalls : ∀ call ∈ calls, call.BuiltIn composer.handlers)
    (hcall : call.BuiltIn composer.handlers) :
    let bench := runAll calls { composer }
    let after := (call.run bench).2
    let keys := Entries.keys bench.composer.registry
    (∀ key ∈ keys, ∃ made : Key, made.Proper ∧ made.render = key ∧ Key.parse key = made ∧
      ∀ other : Key, other.Proper → other.render = key → other = made) ∧
    keys.Nodup ∧ keys = bench.journal.registered.eraseDups ∧
    keys <+: Entries.keys after.composer.registry ∧
    (∀ key ∈ keys, key ∉ call.overwritten →
      Entries.get? after.composer.registry key = Entries.get? bench.composer.registry key) ∧
    ∀ text, (Key.parse text).render = text := by
  intro bench after keys
  have hstart : (Workbench.shelf { composer }).Sound := by
    rw [Workbench.shelf, hempty]
    exact Registry.Shelf.sound_empty
  obtain ⟨hsound, hhandlers⟩ := sound_runAll hstart hcalls
  have hfollows : Registry.Shelf.Follows call.overwritten bench.shelf after.shelf :=
    follows_run hsound (hhandlers ▸ hcall)
  refine ⟨fun key hmem => ?_, hsound.nodup, hsound.recorded, hfollows.keys, hfollows.kept,
    Key.render_parse⟩
  obtain ⟨made, hproper, rfl⟩ := hsound.proper key hmem
  refine ⟨made, hproper, rfl, hproper.parse_render, fun other hother hsame => ?_⟩
  rw [← hother.parse_render, hsame, hproper.parse_render]

/-- A grouping, a field whose grouping is taken, shortcuts and a copy. -/
def dailyCalls : List Call :=
  [.register (.fragment .group (.text "day") (.query .empty) (.plain .null) false),
    .register (.groupField (.text "day") (.expression (.named "day")) "group_" (.plain .null) false),
    .useShortcuts (.list [.object [("type", .plain (.text "combo")),
      ("name", .plain (.text "code")), ("expression", .expression (.named "code"))]]) [],
    .copy]

/-- The field and the grouping anew. -/
def byDate : Call :=
  .register (.groupField (.text "day") (.expression (.named "date")) "group_" (.plain .null) true)

theorem dailyCalls_registers :
    ({} : Composer).registry = [] ∧ (∀ call ∈ dailyCalls, call.BuiltIn {}) ∧ byDate.BuiltIn {} ∧
      Entries.keys (runAll dailyCalls { composer := {} }).composer.registry =
        ["groupBy:day", "field:day", "field:code", "groupBy:code", "field:codeAny",
          "groupBy:codeAny", "code"] ∧
      byDate.overwritten = ["field:day", "groupBy:day"] ∧
      Key.parse "groupBy:codeAny" = ⟨.group, "codeAny"⟩ ∧
      Entries.get? (byDate.run (runAll dailyCalls { composer := {} })).2.composer.registry "code" =
        Entries.get? (runAll dailyCalls { composer := {} }).composer.registry "code" := by
  have hcalls : ∀ call ∈ dailyCalls, call.BuiltIn {} := by
    refine List.forall_mem_cons.mpr ⟨trivial, List.forall_mem_cons.mpr ⟨trivial,
      List.forall_mem_cons.mpr ⟨?_, List.forall_mem_singleton.mpr trivial⟩⟩⟩
    rintro raws ⟨⟩ raw hraw
    cases List.mem_singleton.mp hraw
    exact Registration.takesBuiltIn_of_isCombo ⟨_, rfl, rfl⟩ _
  have hempty : ({} : Composer).registry = [] := rfl
  have hcall : byDate.BuiltIn {} := trivial
  have hkeys : Entries.keys (runAll dailyCalls { composer := {} }).composer.registry =
      ["groupBy:day", "field:day", "field:code", "groupBy:code", "field:codeAny",
        "groupBy:codeAny", "code"] := rfl
  have hoverwritten : byDate.overwritten = ["field:day", "groupBy:day"] := rfl
  obtain ⟨hread, _, _, _, hkept, _⟩ := runAll_registers hempty hcalls hcall
  refine ⟨hempty, hcalls, hcall, hkeys, hoverwritten, ?_, ?_⟩
  · obtain ⟨made, _, _, hmade, hunique⟩ := hread "groupBy:codeAny" (by rw [hkeys]; decide)
    rw [hmade]
    exact (hunique ⟨.group, "codeAny"⟩ ⟨by decide, by decide⟩ rfl).symm
  · exact hkept "code" (by rw [hkeys]; decide) (by rw [hoverwritten]; decide)

end Call

end Building

end QueryWeave

import QueryWeave.Proofs.Closure.Trail
import Mathlib.Data.Finset.Card

/-!
The search as a machine that makes one visit at a time.  Prerequisites may be dynamic, so what a
visit requires is known only when it is made, and may be another thing at the next visit.  The paths
of the calls under way carry the termination: they hold distinct registered keys, and grow with each
call.
-/

namespace QueryWeave

/-- A call of the search: the path that leads to it, and the keys it has yet to visit. -/
structure Call where
  path : List String
  keys : List String

/-- A search under way: its calls, the innermost first, and its state. -/
structure Pursuit where
  calls : List Call
  search : Search

namespace Pursuit

/-- What a step comes to: a pursuit that goes on, or the outcome and the last state. -/
inductive Move where
  | onward (pursuit : Pursuit)
  | over (outcome : Except Failure Unit) (left : Search)

/-- The call that a settled visit makes, or the failure of one that cannot be settled. -/
def enter (path : List String) (key : String) (calls : List Call) :
    Except Failure (List String) × Search → Move
  | (.ok names, search) => .onward ⟨⟨path ++ [key], names⟩ :: calls, search⟩
  | (.error failure, search) => .over (.error failure) search

/-- A visit to a key at the end of a path, made by the innermost of the calls. -/
def visit (registry : Registry) (path : List String) (key : String) (calls : List Call)
    (search : Search) : Move :=
  if key ∈ path then .over (.error (.cycle (path ++ [key]))) search
  else
    match Entries.get? registry key with
    | none =>
        if path.isEmpty then .onward ⟨calls, search⟩
        else .over (.error (.prerequisiteNotFound key path)) search
    | some fragment =>
        enter path key calls
          (Closure.requirements registry key fragment (search.visit key path.length))

/-- Returns from a call that has nothing left to visit, or makes its next visit. -/
def step (registry : Registry) (pursuit : Pursuit) : Move :=
  match pursuit.calls with
  | [] => .over (.ok ()) pursuit.search
  | ⟨_, []⟩ :: outer => .onward ⟨outer, pursuit.search⟩
  | ⟨path, key :: rest⟩ :: outer =>
      visit registry path key (⟨path, rest⟩ :: outer) pursuit.search

def begin (start : Search) : Pursuit := ⟨[⟨[], start.request.keys⟩], start⟩

/-- One pursuit goes on as another. -/
def Follows (registry : Registry) (earlier later : Pursuit) : Prop :=
  earlier.step registry = .onward later

abbrev Leads (registry : Registry) : Pursuit → Pursuit → Prop :=
  Relation.ReflTransGen (Follows registry)

variable {registry : Registry} {path : List String} {key : String} {rest : List String}
  {outer : List Call} {search : Search}

section Steps

theorem step_finished :
    step registry ⟨⟨path, []⟩ :: outer, search⟩ = .onward ⟨outer, search⟩ := rfl

theorem step_visit :
    step registry ⟨⟨path, key :: rest⟩ :: outer, search⟩ =
      visit registry path key (⟨path, rest⟩ :: outer) search := rfl

theorem step_of_cycle (hcycle : key ∈ path) :
    step registry ⟨⟨path, key :: rest⟩ :: outer, search⟩ =
      .over (.error (.cycle (path ++ [key]))) search :=
  if_pos hcycle

theorem step_of_missing (hfresh : key ∉ path) (hmissing : Entries.get? registry key = none) :
    step registry ⟨⟨path, key :: rest⟩ :: outer, search⟩ =
      if path.isEmpty then .onward ⟨⟨path, rest⟩ :: outer, search⟩
      else .over (.error (.prerequisiteNotFound key path)) search := by
  rw [step_visit, visit, if_neg hfresh, hmissing]

theorem step_of_get? (hfresh : key ∉ path) {fragment : Fragment}
    (hfound : Entries.get? registry key = some fragment) :
    step registry ⟨⟨path, key :: rest⟩ :: outer, search⟩ =
      enter path key (⟨path, rest⟩ :: outer)
        (Closure.requirements registry key fragment (search.visit key path.length)) := by
  rw [step_visit, visit, if_neg hfresh, hfound]

/-- All that a step can do and go on. -/
theorem follows_cases {pursuit later : Pursuit} (h : Follows registry pursuit later) :
    (∃ path, pursuit.calls = ⟨path, []⟩ :: later.calls ∧ later.search = pursuit.search) ∨
    (∃ key rest outer, pursuit.calls = ⟨[], key :: rest⟩ :: outer ∧
      later = ⟨⟨[], rest⟩ :: outer, pursuit.search⟩ ∧ key ∉ Entries.keys registry) ∨
    ∃ path key rest outer names, pursuit.calls = ⟨path, key :: rest⟩ :: outer ∧
      later.calls = ⟨path ++ [key], names⟩ :: ⟨path, rest⟩ :: outer ∧
      key ∈ Entries.keys registry ∧ key ∉ path := by
  obtain ⟨calls, search⟩ := pursuit
  rw [Follows] at h
  cases calls with
  | nil => cases h
  | cons call outer =>
      obtain ⟨path, keys⟩ := call
      cases keys with
      | nil =>
          cases h
          exact Or.inl ⟨path, rfl, rfl⟩
      | cons key rest =>
          by_cases hcycle : key ∈ path
          · rw [step_of_cycle hcycle] at h
            cases h
          · cases hfound : Entries.get? registry key with
            | none =>
                rw [step_of_missing hcycle hfound] at h
                split at h
                next hempty =>
                  cases h
                  cases List.isEmpty_iff.mp hempty
                  exact Or.inr (Or.inl
                    ⟨key, rest, outer, rfl, rfl, Entries.get?_eq_none_iff.mp hfound⟩)
                next => cases h
            | some fragment =>
                rw [step_of_get? hcycle hfound] at h
                generalize Closure.requirements registry key fragment _ = settled at h
                obtain ⟨outcome, left⟩ := settled
                cases outcome with
                | error failure => cases h
                | ok names =>
                    cases h
                    exact Or.inr (Or.inr ⟨path, key, rest, outer, names, rfl, rfl,
                      Entries.mem_keys_of_get? hfound, hcycle⟩)

/-- A visit to a registered key fails, or asks for a list of keys on a longer path. -/
theorem step_of_registered (hregistered : key ∈ Entries.keys registry) :
    (∃ failure left, step registry ⟨⟨path, key :: rest⟩ :: outer, search⟩ =
      .over (.error failure) left) ∨
    ∃ names left, step registry ⟨⟨path, key :: rest⟩ :: outer, search⟩ =
      .onward ⟨⟨path ++ [key], names⟩ :: ⟨path, rest⟩ :: outer, left⟩ := by
  by_cases hcycle : key ∈ path
  · exact Or.inl ⟨_, _, step_of_cycle hcycle⟩
  · obtain ⟨fragment, hfound⟩ := Entries.exists_get?_of_mem_keys hregistered
    rw [step_of_get? hcycle hfound]
    generalize Closure.requirements registry key fragment _ = settled
    obtain ⟨outcome, left⟩ := settled
    cases outcome with
    | error failure => exact Or.inl ⟨failure, left, rfl⟩
    | ok names => exact Or.inr ⟨names, left, rfl⟩

end Steps

section Nesting

/-- Each call is made by a visit of the next one out, to a registered key that is not on its path;
the outermost call starts from nothing. -/
def Nested (registry : Registry) : List Call → Prop
  | [] => True
  | [call] => call.path = []
  | inner :: caller :: outer =>
      (∃ key ∈ Entries.keys registry, key ∉ caller.path ∧ inner.path = caller.path ++ [key]) ∧
        Nested registry (caller :: outer)

theorem Nested.of_cons {call : Call} (h : Nested registry (call :: outer)) :
    Nested registry outer := by
  cases outer with
  | nil => trivial
  | cons caller outer => exact h.2

/-- Nesting is a matter of the paths alone. -/
theorem Nested.with_keys {keys : List String} (more : List String)
    (h : Nested registry (⟨path, keys⟩ :: outer)) :
    Nested registry (⟨path, more⟩ :: outer) := by
  cases outer with
  | nil => exact h
  | cons caller outer => exact h

theorem Nested.follows {pursuit later : Pursuit} (h : Nested registry pursuit.calls)
    (hfollows : Follows registry pursuit later) : Nested registry later.calls := by
  rcases follows_cases hfollows with
    ⟨path, hcalls, _⟩ | ⟨key, rest, outer, hcalls, rfl, _⟩ |
      ⟨path, key, rest, outer, names, hcalls, hlater, hregistered, hfresh⟩
  · rw [hcalls] at h
    exact h.of_cons
  · rw [hcalls] at h
    exact h.with_keys rest
  · rw [hcalls] at h
    rw [hlater]
    exact ⟨⟨key, hregistered, hfresh, rfl⟩, h.with_keys rest⟩

theorem nested_of_leads {start : Search} {pursuit : Pursuit}
    (h : Leads registry (begin start) pursuit) : Nested registry pursuit.calls := by
  induction h with
  | refl => rfl
  | tail _ hstep ih => exact ih.follows hstep

/-- The path of a call has distinct registered keys, one for each call around it. -/
theorem Nested.path_of_cons {call : Call} (h : Nested registry (call :: outer)) :
    call.path.Nodup ∧ (∀ key ∈ call.path, key ∈ Entries.keys registry) ∧
      call.path.length = outer.length := by
  induction outer generalizing call with
  | nil =>
      have hpath : call.path = [] := h
      rw [hpath]
      exact ⟨List.nodup_nil, fun _ hmem => absurd hmem List.not_mem_nil, rfl⟩
  | cons caller outer ih =>
      obtain ⟨⟨key, hregistered, hfresh, hpath⟩, hcaller⟩ := h
      obtain ⟨hnodup, hkeys, hlength⟩ := ih hcaller
      rw [hpath]
      refine ⟨List.nodup_append.mpr ⟨hnodup, List.nodup_singleton key, ?_⟩, ?_, ?_⟩
      · intro other hmem last hlast hsame
        exact hfresh (List.mem_singleton.mp hlast ▸ hsame ▸ hmem)
      · intro other hmem
        rcases List.mem_append.mp hmem with hold | hnew
        · exact hkeys other hold
        · exact List.mem_singleton.mp hnew ▸ hregistered
      · rw [List.length_append, hlength]
        rfl

theorem Nested.of_mem {calls : List Call} (h : Nested registry calls) {call : Call}
    (hmem : call ∈ calls) : ∃ outer, Nested registry (call :: outer) := by
  induction calls with
  | nil => cases hmem
  | cons first outer ih =>
      rcases List.mem_cons.mp hmem with rfl | hlater
      · exact ⟨outer, h⟩
      · exact ih h.of_cons hlater

theorem length_le_card {path : List String} (hnodup : path.Nodup)
    (hkeys : ∀ key ∈ path, key ∈ Entries.keys registry) :
    path.length ≤ (Entries.keys registry).toFinset.card := by
  rw [← List.toFinset_card_of_nodup hnodup]
  apply Finset.card_le_card
  intro key hmem
  exact List.mem_toFinset.mpr (hkeys key (List.mem_toFinset.mp hmem))

theorem Nested.length_le {calls : List Call} (h : Nested registry calls) :
    calls.length ≤ (Entries.keys registry).toFinset.card + 1 := by
  cases calls with
  | nil => exact Nat.zero_le _
  | cons call outer =>
      obtain ⟨hnodup, hkeys, hlength⟩ := h.path_of_cons
      rw [List.length_cons, ← hlength]
      exact Nat.succ_le_succ (length_le_card hnodup hkeys)

end Nesting

section Termination

/-- No pursuit goes on forever from this one. -/
abbrev Ends (registry : Registry) : Pursuit → Prop :=
  Acc fun later earlier => Follows registry earlier later

theorem ends_of_step {pursuit : Pursuit}
    (h : ∀ later, pursuit.step registry = .onward later → Ends registry later) :
    Ends registry pursuit :=
  Acc.intro pursuit h

/-- A call ends, whatever the state, if what is around it does.  The induction is that of the
search, on the registered keys that are not on the path. -/
theorem ends_call (registry : Registry) (path keys : List String) (outer : List Call)
    (houter : ∀ search, Ends registry ⟨outer, search⟩) (search : Search) :
    Ends registry ⟨⟨path, keys⟩ :: outer, search⟩ := by
  induction path, keys using Closure.visitAll.induct registry generalizing outer search with
  | case1 path =>
      apply ends_of_step
      intro later hstep
      cases hstep
      exact houter search
  | case2 path key rest hcycle =>
      apply ends_of_step
      intro later hstep
      rw [step_of_cycle hcycle] at hstep
      cases hstep
  | case3 path key rest hfresh hmissing hempty ih =>
      apply ends_of_step
      intro later hstep
      rw [step_of_missing hfresh hmissing, if_pos hempty] at hstep
      cases hstep
      exact ih outer houter search
  | case4 path key rest hfresh hmissing hempty =>
      apply ends_of_step
      intro later hstep
      rw [step_of_missing hfresh hmissing, if_neg hempty] at hstep
      cases hstep
  | case5 path key rest hfresh fragment hfound ihnames ihrest =>
      have hregistered := Entries.mem_keys_of_get? hfound
      apply ends_of_step
      intro later hstep
      rcases @step_of_registered registry path key rest outer search hregistered with
        ⟨failure, left, hover⟩ | ⟨names, left, honward⟩
      · rw [hover] at hstep
        cases hstep
      · rw [honward] at hstep
        cases hstep
        exact ihnames names (⟨path, rest⟩ :: outer) (ihrest outer houter) left

theorem ends (registry : Registry) (pursuit : Pursuit) : Ends registry pursuit := by
  obtain ⟨calls, search⟩ := pursuit
  induction calls generalizing search with
  | nil =>
      apply ends_of_step
      intro later hstep
      cases hstep
  | cons call outer ih => exact ends_call registry call.path call.keys outer ih search

end Termination

section Agreement

theorem Leads.of_step {pursuit later last : Pursuit}
    (hstep : pursuit.step registry = .onward later) (h : Leads registry later last) :
    Leads registry pursuit last :=
  Relation.ReflTransGen.head hstep h

/-- A pursuit comes to the outcome of a call: it goes on around the call that succeeds, and stops
with the failure of one that does not. -/
def Comes (registry : Registry) (pursuit : Pursuit) (outer : List Call) :
    Except Failure Unit × Search → Prop
  | (.ok _, left) => Leads registry pursuit ⟨outer, left⟩
  | (.error failure, left) =>
      ∃ last, Leads registry pursuit last ∧ last.step registry = .over (.error failure) left

theorem Comes.of_step {pursuit later : Pursuit} {outcome : Except Failure Unit × Search}
    (hstep : pursuit.step registry = .onward later) (h : Comes registry later outer outcome) :
    Comes registry pursuit outer outcome := by
  obtain ⟨result, left⟩ := outcome
  cases result with
  | ok done => exact Leads.of_step hstep h
  | error failure =>
      obtain ⟨last, hleads, hover⟩ := h
      exact ⟨last, Leads.of_step hstep hleads, hover⟩

theorem Comes.of_leads {pursuit later : Pursuit} {outcome : Except Failure Unit × Search}
    (hleads : Leads registry pursuit later) (h : Comes registry later outer outcome) :
    Comes registry pursuit outer outcome := by
  induction hleads using Relation.ReflTransGen.head_induction_on with
  | refl => exact h
  | head hstep _ ih => exact ih.of_step hstep

theorem comes_of_over {pursuit : Pursuit} {failure : Failure} {left : Search}
    (h : pursuit.step registry = .over (.error failure) left) :
    Comes registry pursuit outer (.error failure, left) :=
  ⟨pursuit, .refl, h⟩

/-- The machine does with a call what the search does. -/
theorem comes_visitAll (registry : Registry) (path keys : List String) (outer : List Call)
    (search : Search) :
    Comes registry ⟨⟨path, keys⟩ :: outer, search⟩ outer
      (Closure.visitAll registry path keys search) := by
  induction path, keys using Closure.visitAll.induct registry generalizing outer search with
  | case1 path =>
      rw [Closure.visitAll]
      exact Leads.of_step step_finished .refl
  | case2 path key rest hcycle =>
      rw [Closure.visitAll_cons_of_mem hcycle]
      exact comes_of_over (step_of_cycle hcycle)
  | case3 path key rest hfresh hmissing hempty ih =>
      rw [Closure.visitAll_cons_of_missing hfresh hmissing, if_pos hempty]
      have hstep := @step_of_missing registry path key rest outer search hfresh hmissing
      rw [if_pos hempty] at hstep
      exact (ih outer search).of_step hstep
  | case4 path key rest hfresh hmissing hempty =>
      rw [Closure.visitAll_cons_of_missing hfresh hmissing, if_neg hempty]
      have hstep := @step_of_missing registry path key rest outer search hfresh hmissing
      rw [if_neg hempty] at hstep
      exact comes_of_over hstep
  | case5 path key rest hfresh fragment hfound ihnames ihrest =>
      have hstep := @step_of_get? registry path key rest outer search hfresh fragment hfound
      rw [Closure.visitAll_cons_of_get? hfresh hfound, Action.bind_apply, Action.modify_apply]
      dsimp only
      rw [Action.bind_apply]
      generalize Closure.requirements registry key fragment _ = settled at hstep
      obtain ⟨outcome, middle⟩ := settled
      cases outcome with
      | error failure => exact comes_of_over hstep
      | ok names =>
          have hinner := ihnames names (⟨path, rest⟩ :: outer) middle
          dsimp only
          rw [Action.bind_apply]
          generalize Closure.visitAll registry (path ++ [key]) names middle = inner at hinner
          obtain ⟨outcome, after⟩ := inner
          cases outcome with
          | error failure => exact Comes.of_step hstep hinner
          | ok done => exact ((ihrest outer after).of_leads hinner).of_step hstep

theorem exists_last (registry : Registry) (start : Search) :
    ∃ last outcome left, Leads registry (begin start) last ∧
      last.step registry = .over outcome left ∧
      Closure.search registry start = (outcome.map fun _ => left.closure, left) := by
  have hcomes := comes_visitAll registry [] start.request.keys [] start
  rw [Closure.search, Action.bind_apply, Action.get_apply]
  dsimp only
  rw [Action.bind_apply]
  generalize Closure.visitAll registry [] start.request.keys start = visited at hcomes
  obtain ⟨outcome, left⟩ := visited
  cases outcome with
  | ok done => exact ⟨⟨[], left⟩, .ok (), left, hcomes, rfl, rfl⟩
  | error failure =>
      obtain ⟨last, hleads, hover⟩ := hcomes
      exact ⟨last, .error failure, left, hleads, hover, rfl⟩

end Agreement

/-- Whatever the registry holds, dynamic prerequisites and cycles included, the search ends.  The
paths of its calls hold distinct registered keys; a visit to a registered key fails or asks for
finitely many keys on a path that is longer by that key; no pursuit goes on forever; and the last
one has the outcome of the search. -/
theorem search_terminates (registry : Registry) (start : Search) :
    (∀ pursuit, Leads registry (begin start) pursuit →
      pursuit.calls.length ≤ (Entries.keys registry).toFinset.card + 1 ∧
      ∀ call ∈ pursuit.calls, call.path.Nodup ∧
        (∀ key ∈ call.path, key ∈ Entries.keys registry) ∧
        call.path.length ≤ (Entries.keys registry).toFinset.card) ∧
    (∀ path key rest outer search, key ∈ Entries.keys registry →
      (∃ failure left, step registry ⟨⟨path, key :: rest⟩ :: outer, search⟩ =
        .over (.error failure) left) ∨
      ∃ names left, step registry ⟨⟨path, key :: rest⟩ :: outer, search⟩ =
        .onward ⟨⟨path ++ [key], names⟩ :: ⟨path, rest⟩ :: outer, left⟩) ∧
    WellFounded (fun later earlier => Follows registry earlier later) ∧
    ∃ last outcome left, Leads registry (begin start) last ∧
      last.step registry = .over outcome left ∧
      Closure.search registry start = (outcome.map fun _ => left.closure, left) := by
  refine ⟨?_, ?_, ⟨ends registry⟩, exists_last registry start⟩
  · intro pursuit hleads
    have hnested := nested_of_leads hleads
    refine ⟨hnested.length_le, ?_⟩
    intro call hmem
    obtain ⟨outer, hcall⟩ := hnested.of_mem hmem
    obtain ⟨hnodup, hkeys, _⟩ := hcall.path_of_cons
    exact ⟨hnodup, hkeys, length_le_card hnodup hkeys⟩
  · intro path key rest outer search hregistered
    exact step_of_registered hregistered

end Pursuit

end QueryWeave

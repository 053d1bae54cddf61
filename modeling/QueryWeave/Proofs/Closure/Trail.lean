import QueryWeave.Proofs.Action
import QueryWeave.Proofs.Requirement.Graph
import Mathlib.Data.List.Permutation

namespace QueryWeave

/-- A key and the path on which it is met, from a requested key on. -/
structure Visit where
  path : List String
  key : String
  deriving DecidableEq

structure Trail where
  visits : List Visit
  failure : Option Failure

namespace Trail

/-- One trail after another, unless the first broke off. -/
def andThen (first second : Trail) : Trail :=
  match first.failure with
  | none => ⟨first.visits ++ second.visits, second.failure⟩
  | some _ => first

def outcome (trail : Trail) : Except Failure Unit :=
  match trail.failure with
  | none => .ok ()
  | some failure => .error failure

theorem failure_andThen_eq_none {first second : Trail}
    (h : (first.andThen second).failure = none) :
    first.failure = none ∧ second.failure = none := by
  rw [andThen] at h
  cases hfirst : first.failure with
  | none => exact ⟨rfl, by simpa [hfirst] using h⟩
  | some failure => simp [hfirst] at h

theorem visits_andThen {first : Trail} (h : first.failure = none) (second : Trail) :
    (first.andThen second).visits = first.visits ++ second.visits := by
  rw [andThen, h]

theorem mem_visits_andThen {first second : Trail} {visit : Visit}
    (h : visit ∈ (first.andThen second).visits) :
    visit ∈ first.visits ∨ visit ∈ second.visits := by
  rw [andThen] at h
  cases hfirst : first.failure with
  | none => simpa [hfirst] using h
  | some failure => exact Or.inl (by simpa [hfirst] using h)

theorem failure_andThen {first second : Trail} {failure : Failure}
    (h : (first.andThen second).failure = some failure) :
    first.failure = some failure ∨ second.failure = some failure := by
  rw [andThen] at h
  cases hfirst : first.failure with
  | none => exact Or.inr (by simpa [hfirst] using h)
  | some other => exact Or.inl (by simpa [hfirst] using h)

end Trail

namespace Closure

variable {registry : Registry} {path : List String} {key : String} {rest : List String}

theorem visitAll_cons_of_mem (hcycle : key ∈ path) :
    visitAll registry path (key :: rest) = throw (.cycle (path ++ [key])) := by
  rw [visitAll, dif_pos hcycle]

theorem visitAll_cons_of_missing (hfresh : key ∉ path)
    (hmissing : Entries.get? registry key = none) :
    visitAll registry path (key :: rest) =
      if path.isEmpty then visitAll registry path rest
      else throw (.prerequisiteNotFound key path) := by
  rw [visitAll, dif_neg hfresh]
  split
  next => rfl
  next hfound => simp [hmissing] at hfound

theorem visitAll_cons_of_get? (hfresh : key ∉ path) {fragment : Fragment}
    (hfound : Entries.get? registry key = some fragment) :
    visitAll registry path (key :: rest) =
      (do
        modify fun search => search.visit key path.length
        let names ← requirements registry key fragment
        visitAll registry (path ++ [key]) names
        visitAll registry path rest : Searching Unit) := by
  rw [visitAll, dif_neg hfresh]
  split
  next hmissing => simp [hmissing] at hfound
  next found hsame =>
    rw [hfound] at hsame
    cases hsame
    rfl

/-- The trail of visiting keys in order, each with everything it requires. -/
def trail (registry : Registry) (path : List String) : List String → Trail
  | [] => ⟨[], none⟩
  | key :: rest =>
      if _hfresh : key ∈ path then ⟨[], some (.cycle (path ++ [key]))⟩
      else if _hregistered : key ∈ Entries.keys registry then
        ((Trail.mk [⟨path, key⟩] none).andThen
          (trail registry (path ++ [key]) (registry.required key))).andThen
            (trail registry path rest)
      else if path.isEmpty then trail registry path rest
      else ⟨[], some (.prerequisiteNotFound key path)⟩
termination_by keys => ((ahead registry path).length, keys.length)
decreasing_by
  · exact Prod.Lex.left _ _ (length_ahead_lt _hregistered _hfresh)
  · exact Prod.Lex.right _ (by simp)
  · exact Prod.Lex.right _ (by simp)

theorem trail_nil (registry : Registry) (path : List String) :
    trail registry path [] = ⟨[], none⟩ := by
  rw [trail]

theorem trail_cons_of_mem (hcycle : key ∈ path) :
    trail registry path (key :: rest) = ⟨[], some (.cycle (path ++ [key]))⟩ := by
  rw [trail, dif_pos hcycle]

theorem trail_cons_of_registered (hfresh : key ∉ path)
    (hregistered : key ∈ Entries.keys registry) :
    trail registry path (key :: rest) =
      ((Trail.mk [⟨path, key⟩] none).andThen
        (trail registry (path ++ [key]) (registry.required key))).andThen
          (trail registry path rest) := by
  rw [trail, dif_neg hfresh, dif_pos hregistered]

theorem trail_cons_of_unregistered (hfresh : key ∉ path) (hnot : key ∉ Entries.keys registry) :
    trail registry path (key :: rest) =
      if path.isEmpty then trail registry path rest
      else ⟨[], some (.prerequisiteNotFound key path)⟩ := by
  rw [trail, dif_neg hfresh, dif_neg hnot]

end Closure

namespace Search

/-- The search with the patch of a key in the request, if its requirement is one. -/
def obey (search : Search) (key : String) : Requirement → Search
  | .patch change => search.applyPatch key change
  | _ => search

def noteRequired (search : Search) (key : String) (names : List String) : Search :=
  if names.isEmpty then search else search.note (.prerequisites key names)

def meet (registry : Registry) (search : Search) (visit : Visit) : Search :=
  ((search.visit visit.key visit.path.length).obey visit.key
    (registry.requirementOf visit.key)).noteRequired visit.key (registry.required visit.key)

end Search

namespace Trail

/-- The action that makes the visits of a trail and ends as it does. -/
def follow (registry : Registry) (trail : Trail) : Searching Unit :=
  fun search => (trail.outcome, trail.visits.foldl (Search.meet registry) search)

theorem follow_andThen (registry : Registry) (first second : Trail) :
    (first.andThen second).follow registry =
      (do first.follow registry; second.follow registry) := by
  funext search
  rw [Action.bind_apply]
  cases h : first.failure with
  | none => simp [follow, outcome, andThen, h]
  | some failure => simp [follow, outcome, andThen, h]

end Trail

namespace Closure

variable {registry : Registry}

theorem required_apply {requirement : Requirement}
    (hstatic : (Prerequisite.settled requirement).Static) (key : String) (search : Search) :
    required registry key requirement search =
      (.ok (requirement.asked registry), search.obey key requirement) := by
  cases requirement with
  | none => rfl
  | names listed => rfl
  | mixed listed => exact absurd hstatic id
  | patch change =>
      rw [required, Action.bind_apply, Action.modify_apply]
      rfl

theorem requirements_settled {requirement : Requirement} {fragment : Fragment}
    (hsettled : fragment.prerequisite = .settled requirement)
    (hstatic : (Prerequisite.settled requirement).Static) (key : String) (search : Search) :
    requirements registry key fragment search =
      (.ok (requirement.asked registry),
        (search.obey key requirement).noteRequired key (requirement.asked registry)) := by
  have hresolve :
      Action.onJournal Search.journal (fun search journal => { search with journal })
        (fragment.prerequisite.resolve search.request) search =
          (.ok requirement, search) := by
    rw [hsettled, Prerequisite.resolve]
    rfl
  rw [requirements, Action.bind_apply, Action.get_apply]
  dsimp only
  rw [Action.bind_of_ok hresolve, Action.bind_of_ok (required_apply hstatic key search),
    Search.noteRequired]
  cases (requirement.asked registry).isEmpty with
  | true => rfl
  | false => rfl

theorem requirements_apply (hstatic : registry.Static) {key : String} {fragment : Fragment}
    (hfound : Entries.get? registry key = some fragment) (search : Search) :
    requirements registry key fragment search =
      (.ok (registry.required key),
        (search.obey key (registry.requirementOf key)).noteRequired key
          (registry.required key)) := by
  have hprerequisite := hstatic key fragment hfound
  have hrequirement := Registry.requirementOf_of_get? hfound
  cases h : fragment.prerequisite with
  | dynamic ask => simp [h, Prerequisite.Static] at hprerequisite
  | both left right => simp [h, Prerequisite.Static] at hprerequisite
  | settled requirement =>
      rw [h] at hprerequisite
      rw [h, Prerequisite.requirement] at hrequirement
      rw [requirements_settled h hprerequisite, Registry.required, hrequirement]

theorem visit_requirements_apply (hstatic : registry.Static) {key : String} {fragment : Fragment}
    (hfound : Entries.get? registry key = some fragment) (path : List String)
    (next : List String → Searching Unit) :
    (do
      modify fun search => search.visit key path.length
      let names ← requirements registry key fragment
      next names : Searching Unit) =
      (do
        (Trail.mk [⟨path, key⟩] none).follow registry
        next (registry.required key)) := by
  funext search
  rw [Action.bind_apply, Action.modify_apply]
  exact Action.bind_of_ok (requirements_apply hstatic hfound _) next

/-- The search goes the way of its trail. -/
theorem visitAll_eq_follow (hstatic : registry.Static) (path keys : List String) :
    visitAll registry path keys = (trail registry path keys).follow registry := by
  induction path, keys using visitAll.induct registry with
  | case1 path =>
      rw [visitAll, trail_nil]
      rfl
  | case2 path key rest hcycle =>
      rw [visitAll_cons_of_mem hcycle, trail_cons_of_mem hcycle]
      rfl
  | case3 path key rest hfresh hmissing hempty ih =>
      have hnot := Entries.get?_eq_none_iff.mp hmissing
      rw [visitAll_cons_of_missing hfresh hmissing, if_pos hempty,
        trail_cons_of_unregistered hfresh hnot, if_pos hempty, ih]
  | case4 path key rest hfresh hmissing hempty =>
      have hnot := Entries.get?_eq_none_iff.mp hmissing
      rw [visitAll_cons_of_missing hfresh hmissing, if_neg hempty,
        trail_cons_of_unregistered hfresh hnot, if_neg hempty]
      rfl
  | case5 path key rest hfresh fragment hfound ihnames ihrest =>
      have hregistered := Entries.mem_keys_of_get? hfound
      rw [visitAll_cons_of_get? hfresh hfound, visit_requirements_apply hstatic hfound,
        trail_cons_of_registered hfresh hregistered, Trail.follow_andThen, Trail.follow_andThen,
        ihnames, ihrest, bind_assoc]

def walk (registry : Registry) (request : Request) : Trail :=
  trail registry [] request.keys

def final (registry : Registry) (start : Search) : Search :=
  (walk registry start.request).visits.foldl (Search.meet registry) start

theorem search_of_done (hstatic : registry.Static) (start : Search)
    (hdone : (walk registry start.request).failure = none) :
    search registry start = (.ok (final registry start).closure, final registry start) := by
  rw [search, Action.bind_apply, Action.get_apply]
  dsimp only
  rw [visitAll_eq_follow hstatic, Action.bind_apply, Trail.follow, Trail.outcome, ← walk, hdone]
  rfl

theorem search_of_broken (hstatic : registry.Static) (start : Search) {failure : Failure}
    (hbroken : (walk registry start.request).failure = some failure) :
    search registry start = (.error failure, final registry start) := by
  rw [search, Action.bind_apply, Action.get_apply]
  dsimp only
  rw [visitAll_eq_follow hstatic, Action.bind_apply, Trail.follow, Trail.outcome, ← walk, hbroken]
  rfl

end Closure

end QueryWeave

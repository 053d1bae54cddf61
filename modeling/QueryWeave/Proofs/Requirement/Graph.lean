import QueryWeave.Closure
import QueryWeave.Proofs.Entries
import Mathlib.Logic.Relation

namespace QueryWeave

/-- A settled prerequisite other than a list with something in it that is no text. -/
def Prerequisite.Static : Prerequisite → Prop
  | .settled (.mixed _) => False
  | .settled _ => True
  | .dynamic _ | .both _ _ => False

def Prerequisite.requirement : Prerequisite → Requirement
  | .settled requirement => requirement
  | .dynamic _ | .both _ _ => .none

/-- The keys that a requirement asks for, in order. -/
def Requirement.asked (registry : Registry) : Requirement → List String
  | .none | .mixed _ => []
  | .names listed => listed
  | .patch change => change.keys.filter (Entries.has registry)

/-- A fragment of no other use than what it requires. -/
def Fragment.bare (requirement : Requirement) : Fragment where
  recipe := .fixed .empty
  prerequisite := .settled requirement

namespace Registry

def Static (registry : Registry) : Prop :=
  ∀ key fragment, Entries.get? registry key = some fragment → fragment.prerequisite.Static

/-- What the fragment under a key requires; nothing where there is no fragment. -/
def requirementOf (registry : Registry) (key : String) : Requirement :=
  match Entries.get? registry key with
  | some fragment => fragment.prerequisite.requirement
  | none => .none

def required (registry : Registry) (key : String) : List String :=
  (registry.requirementOf key).asked registry

def Names (registry : Registry) (key name : String) : Prop :=
  ∃ listed, registry.requirementOf key = .names listed ∧ name ∈ listed

/-- The patch of a key asks for a registered key. -/
def Patches (registry : Registry) (key other : String) : Prop :=
  ∃ change, registry.requirementOf key = .patch change ∧ other ∈ change.keys ∧
    other ∈ Entries.keys registry

/-- The edges of the graph. -/
def Requires (registry : Registry) (key other : String) : Prop :=
  registry.Names key other ∨ registry.Patches key other

abbrev Reaches (registry : Registry) : String → String → Prop :=
  Relation.ReflTransGen registry.Requires

abbrev Depends (registry : Registry) : String → String → Prop :=
  Relation.TransGen registry.Requires

/-- A key from which a cycle or a name without a fragment can be reached. -/
def Doomed (registry : Registry) (key : String) : Prop :=
  ∃ reached, registry.Reaches key reached ∧
    (registry.Depends reached reached ∨
      ∃ name, registry.Names reached name ∧ name ∉ Entries.keys registry)

variable {registry : Registry} {key other : String}

theorem static_of_forall (h : ∀ pair ∈ registry, pair.2.prerequisite.Static) :
    registry.Static := by
  intro key fragment hfound
  exact h _ (Entries.mem_of_get? hfound)

theorem requirementOf_of_get? {fragment : Fragment}
    (hfound : Entries.get? registry key = some fragment) :
    registry.requirementOf key = fragment.prerequisite.requirement := by
  rw [requirementOf, hfound]

theorem mem_required : other ∈ registry.required key ↔ registry.Requires key other := by
  rw [required, Requires, Names, Patches]
  cases registry.requirementOf key with
  | none => simp [Requirement.asked]
  | mixed listed => simp [Requirement.asked]
  | names listed => simp [Requirement.asked]
  | patch change => simp [Requirement.asked, Entries.has_iff]

theorem Requires.names_of_not_mem (h : registry.Requires key other)
    (hnot : other ∉ Entries.keys registry) : registry.Names key other := by
  rcases h with hnames | ⟨_, _, _, hregistered⟩
  · exact hnames
  · exact absurd hregistered hnot

theorem Names.requires (h : registry.Names key other) : registry.Requires key other :=
  Or.inl h

end Registry

end QueryWeave

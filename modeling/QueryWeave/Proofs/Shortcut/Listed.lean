import QueryWeave.Proofs.Entries
import QueryWeave.Shortcut.Catalogue

namespace QueryWeave

/-- The names of a requirement that is a list of names, or none. -/
def Requirement.listed? : Requirement → Option (List String)
  | .none => some []
  | .names listed => some listed
  | .mixed _ | .patch _ => Option.none

namespace Prerequisite

def listed? : Prerequisite → Option (List String)
  | settled requirement => requirement.listed?
  | dynamic _ | both _ _ => none

variable {left right prerequisite : Prerequisite} {own more names : List String}

theorem eq_settled_of_listed? (h : prerequisite.listed? = some names) :
    prerequisite = settled .none ∧ names = [] ∨ prerequisite = settled (.names names) := by
  cases prerequisite with
  | settled requirement =>
      cases requirement with
      | none =>
          cases h
          exact Or.inl ⟨rfl, rfl⟩
      | names listed =>
          cases h
          exact Or.inr rfl
      | mixed data => cases h
      | patch change => cases h
  | dynamic ask => cases h
  | both left right => cases h

/-- Merging unites names. -/
theorem merge_listed (hleft : left.listed? = some own) (hright : right.listed? = some more) :
    ∃ merged names, left.merge right = .ok merged ∧ merged.listed? = some names ∧
      ∀ name, name ∈ names ↔ name ∈ own ∨ name ∈ more := by
  rcases eq_settled_of_listed? hleft with ⟨rfl, rfl⟩ | rfl
  · exact ⟨right, more, rfl, hright, by simp⟩
  · rcases eq_settled_of_listed? hright with ⟨rfl, rfl⟩ | rfl
    · exact ⟨settled (.names own), own, rfl, rfl, by simp⟩
    · refine ⟨settled (.names (own ++ more.filter fun name => !own.contains name)), _, rfl, rfl, ?_⟩
      intro name
      by_cases hown : name ∈ own
      · simp [hown]
      · simp [hown]

end Prerequisite

namespace Catalogue

variable {catalogue : Catalogue} {own : Prerequisite} {names : List String}

/-- The names in the prerequisite that is stored for an expression. -/
def stored (catalogue : Catalogue) (name : String) : List String :=
  ((catalogue.prerequisiteOf name).listed?).getD []

/-- Every prerequisite that is stored is a list of names. -/
def Listed (catalogue : Catalogue) : Prop :=
  ∀ name published, Entries.get? catalogue.published name = some published →
    ∃ names, published.prerequisite.listed? = some names

theorem stored_of_get? {name : String} {published : Published}
    (hfound : Entries.get? catalogue.published name = some published)
    (hlisted : published.prerequisite.listed? = some names) : catalogue.stored name = names := by
  rw [stored, prerequisiteOf, hfound, Option.map_some, Option.getD_some, hlisted, Option.getD_some]

theorem Listed.prerequisiteOf (h : catalogue.Listed) (name : String) :
    (catalogue.prerequisiteOf name).listed? = some (catalogue.stored name) := by
  cases hfound : Entries.get? catalogue.published name with
  | none =>
      rw [stored, Catalogue.prerequisiteOf, hfound]
      rfl
  | some published =>
      obtain ⟨names, hnames⟩ := h name published hfound
      rw [stored_of_get? hfound hnames, Catalogue.prerequisiteOf, hfound, Option.map_some,
        Option.getD_some, hnames]

theorem foldlM_merge_listed (h : catalogue.Listed) (reads : List String)
    (hown : own.listed? = some names) :
    ∃ merged all,
      reads.foldlM (fun prerequisite name =>
        prerequisite.merge (catalogue.prerequisiteOf name)) own = .ok merged ∧
      merged.listed? = some all ∧
      ∀ name, name ∈ all ↔ name ∈ names ∨ ∃ read ∈ reads, name ∈ catalogue.stored read := by
  induction reads generalizing own names with
  | nil => exact ⟨own, names, rfl, hown, by simp⟩
  | cons read rest ih =>
      obtain ⟨merged, both, hmerged, hboth, hmem⟩ :=
        Prerequisite.merge_listed hown (h.prerequisiteOf read)
      obtain ⟨result, all, hresult, hall, hmemAll⟩ := ih hboth
      refine ⟨result, all, ?_, hall, ?_⟩
      · rw [List.foldlM_cons, hmerged]
        exact hresult
      · intro name
        rw [hmemAll, hmem, or_assoc]
        simp

/-- What is read adds its names, and is forgotten. -/
theorem withReads_listed (h : catalogue.Listed) (hown : own.listed? = some names) :
    ∃ merged all, catalogue.withReads own = .ok (merged, { catalogue with reads := [] }) ∧
      merged.listed? = some all ∧
      ∀ name, name ∈ all ↔
        name ∈ names ∨ ∃ read ∈ catalogue.reads, name ∈ catalogue.stored read := by
  obtain ⟨merged, all, hmerged, hall, hmem⟩ := foldlM_merge_listed h catalogue.reads hown
  refine ⟨merged, all, ?_, hall, hmem⟩
  have hforgotten : ∀ name,
      ({ catalogue with reads := [] } : Catalogue).prerequisiteOf name =
        catalogue.prerequisiteOf name := fun _ => rfl
  rw [withReads, takeReads]
  simp only [hforgotten, hmerged]
  rfl

end Catalogue

end QueryWeave

import QueryWeave.Closure
import Mathlib.Data.List.Nodup

namespace QueryWeave

section Concatenation

universe u

variable {α : Type u} {name? : α → Option String} {entries additions : List α} {item : α}
  {name : String}

theorem any_name?_iff :
    (entries.any (name? · == some name)) = true ↔ name ∈ entries.filterMap name? := by
  simp [List.any_eq_true, List.mem_filterMap]

theorem addEntry_of_none (h : name? item = none) :
    addEntry name? entries item = entries ++ [item] := by
  rw [addEntry, h]

theorem addEntry_of_mem (h : name? item = some name) (hmem : name ∈ entries.filterMap name?) :
    addEntry name? entries item = entries := by
  rw [addEntry, h]
  exact if_pos (any_name?_iff.mpr hmem)

theorem addEntry_of_not_mem (h : name? item = some name)
    (hnot : name ∉ entries.filterMap name?) :
    addEntry name? entries item = entries ++ [item] := by
  rw [addEntry, h]
  exact if_neg fun hany => hnot (any_name?_iff.mp hany)

/-- An item is left out only when an entry has its very name. -/
theorem addEntry_cases (name? : α → Option String) (entries : List α) (item : α) :
    addEntry name? entries item = entries ++ [item] ∨
      (addEntry name? entries item = entries ∧
        ∃ name, name? item = some name ∧ name ∈ entries.filterMap name?) := by
  cases h : name? item with
  | none => exact Or.inl (addEntry_of_none h)
  | some name =>
      by_cases hmem : name ∈ entries.filterMap name?
      · exact Or.inr ⟨addEntry_of_mem h hmem, name, rfl, hmem⟩
      · exact Or.inl (addEntry_of_not_mem h hmem)

theorem prefix_addEntries (name? : α → Option String) (entries additions : List α) :
    entries <+: addEntries name? entries additions := by
  induction additions generalizing entries with
  | nil => exact List.prefix_refl _
  | cons item rest ih =>
      rw [addEntries_cons]
      rcases addEntry_cases name? entries item with h | ⟨h, _⟩
      · exact (h ▸ List.prefix_append _ _).trans (ih _)
      · rw [h]
        exact ih entries

/-- Adding entries adds what they ask for, where a bare name asks for itself. -/
theorem mem_filterMap_addEntries (name? asked? : α → Option String)
    (hasked : ∀ item name, name? item = some name → asked? item = some name)
    (entries additions : List α) (name : String) :
    name ∈ (addEntries name? entries additions).filterMap asked? ↔
      name ∈ entries.filterMap asked? ∨ name ∈ additions.filterMap asked? := by
  induction additions generalizing entries with
  | nil => simp
  | cons item rest ih =>
      rw [addEntries_cons, ih]
      rcases addEntry_cases name? entries item with h | ⟨h, held, hitem, hmem⟩
      · rw [h, List.filterMap_append, List.mem_append, or_assoc, ← List.mem_append,
          ← List.filterMap_append, List.singleton_append]
      · obtain ⟨entry, hentry, hname⟩ := List.mem_filterMap.mp hmem
        have hheld : held ∈ entries.filterMap asked? :=
          List.mem_filterMap.mpr ⟨entry, hentry, hasked entry held hname⟩
        rw [h, List.filterMap_cons_some (hasked item held hitem), List.mem_cons]
        constructor
        · rintro (hold | hnew)
          · exact Or.inl hold
          · exact Or.inr (Or.inr hnew)
        · rintro (hold | rfl | hnew)
          · exact Or.inl hold
          · exact Or.inl hheld
          · exact Or.inr hnew

theorem nodup_filterMap_addEntries (hnodup : (entries.filterMap name?).Nodup)
    (additions : List α) : ((addEntries name? entries additions).filterMap name?).Nodup := by
  induction additions generalizing entries with
  | nil => exact hnodup
  | cons item rest ih =>
      rw [addEntries_cons]
      apply ih
      cases h : name? item with
      | none =>
          rw [addEntry_of_none h, List.filterMap_append, List.filterMap_cons_none h]
          simpa using hnodup
      | some name =>
          by_cases hmem : name ∈ entries.filterMap name?
          · rw [addEntry_of_mem h hmem]
            exact hnodup
          · rw [addEntry_of_not_mem h hmem, List.filterMap_append, List.filterMap_cons_some h,
              List.filterMap_nil, ← List.concat_eq_append]
            exact hnodup.concat hmem

end Concatenation

section Distinct

variable {names more : List String} {name : String}

@[simp] theorem mem_addEntries_some :
    name ∈ addEntries some names more ↔ name ∈ names ∨ name ∈ more := by
  have h := mem_filterMap_addEntries some some (fun _ _ h => h) names more name
  simpa using h

theorem nodup_addEntries_some (hnodup : names.Nodup) (more : List String) :
    (addEntries some names more).Nodup := by
  rw [← List.filterMap_some (l := names)] at hnodup
  rw [← List.filterMap_some (l := addEntries some names more)]
  exact nodup_filterMap_addEntries hnodup more

theorem addEntry_some (names : List String) (name : String) :
    addEntry some names name = if name ∈ names then names else names ++ [name] := by
  split
  next hmem => exact addEntry_of_mem rfl (by simpa using hmem)
  next hnot => exact addEntry_of_not_mem rfl (by simpa using hnot)

/-- Adding names that are new and distinct appends them. -/
theorem addEntries_some_of_nodup (hnodup : (names ++ more).Nodup) :
    addEntries some names more = names ++ more := by
  induction more generalizing names with
  | nil => simp
  | cons name rest ih =>
      have hnew : name ∉ names := fun hmem =>
        (List.nodup_append.mp hnodup).2.2 name hmem name List.mem_cons_self rfl
      have hsplit : names ++ name :: rest = (names ++ [name]) ++ rest := by simp
      rw [addEntries_cons, addEntry_some, if_neg hnew, ih (hsplit ▸ hnodup), ← hsplit]

end Distinct

end QueryWeave

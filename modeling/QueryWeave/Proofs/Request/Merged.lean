import QueryWeave.Prerequisite
import QueryWeave.Proofs.Datum.Merge

/-!
Two patches merged into one.  Main statement: `Prerequisite.merged_patch_in_turn`, the merged patch
makes of a request what the two patches make of it in turn.
-/

namespace QueryWeave

section Concatenation

universe u

variable {α : Type u} {name? : α → Option String}

theorem addEntry_ne_nil (entries : List α) (item : α) : addEntry name? entries item ≠ [] := by
  rcases addEntry_cases name? entries item with h | ⟨h, name, _, hmem⟩
  · rw [h]
    exact List.append_ne_nil_of_right_ne_nil entries (List.cons_ne_nil item [])
  · rw [h]
    rintro rfl
    cases hmem

theorem addEntries_cons_ne_nil (entries : List α) (item : α) (rest : List α) :
    addEntries name? entries (item :: rest) ≠ [] := by
  intro h
  have hprefix := prefix_addEntries name? (addEntry name? entries item) rest
  rw [← addEntries_cons, h, List.prefix_nil] at hprefix
  exact addEntry_ne_nil entries item hprefix

theorem patchList_of_ne_nil (own : Option (List α)) {additions : List α} (h : additions ≠ []) :
    patchList name? own (some additions) = some (addEntries name? (own.getD []) additions) := by
  cases additions with
  | nil => contradiction
  | cons item rest => rfl

theorem patchList_patchList (own first second : Option (List α)) :
    patchList name? (patchList name? own first) second =
      patchList name? own (patchList name? first second) := by
  match second with
  | none => rfl
  | some [] => rfl
  | some (item :: rest) =>
      rw [patchList_of_ne_nil _ (List.cons_ne_nil item rest),
        patchList_of_ne_nil _ (List.cons_ne_nil item rest),
        patchList_of_ne_nil _ (addEntries_cons_ne_nil _ item rest), getD_patchList,
        addEntries_assoc]

end Concatenation

namespace Request

theorem patchSorting_patchSorting (own first second : Clause SortEntry) :
    patchSorting (patchSorting own first) second =
      patchSorting own (patchSorting first second) := by
  have hadded (items : List SortEntry) :
      Clause.many (addEntries SortEntry.name? (patchSorting own first).toList items) =
        .many (addEntries SortEntry.name? own.toList
          (addEntries SortEntry.name? first.toList items)) := by
    rw [toList_patchSorting, addEntries_assoc]
  cases second with
  | absent => rfl
  | one item => exact hadded [item]
  | many items => exact hadded items

theorem update_update {request first second : Request} (hrequest : request.filters.Keyed)
    (hfirst : first.filters.Keyed) (hsecond : second.filters.Keyed)
    (h : request.filters.Unbroken first.filters second.filters) :
    (request.update first).update second = request.update (first.update second) := by
  have hlast {β : Type} (own middle last : Option β) :
      (last <|> (middle <|> own)) = ((last <|> middle) <|> own) := by
    cases last <;> rfl
  simp only [update, mk.injEq]
  exact ⟨Bool.or_assoc .., patchList_patchList .., patchList_patchList ..,
    Datum.deepMerge_assoc hrequest hfirst hsecond h, patchList_patchList ..,
    patchSorting_patchSorting .., hlast .., hlast .., hlast ..⟩

end Request

/-- The merged patch of two patches makes of a request what they make of it in turn, unless the
first puts something between objects that the request and the second bind at one place. -/
theorem Prerequisite.merged_patch_in_turn {request first second : Request}
    (hrequest : request.filters.Keyed) (hfirst : first.filters.Keyed)
    (hsecond : second.filters.Keyed)
    (h : request.filters.Unbroken first.filters second.filters) :
    ∃ merged, merge (.settled (.patch first)) (.settled (.patch second)) =
        .ok (.settled (.patch merged)) ∧
      request.update merged = (request.update first).update second :=
  ⟨first.update second, rfl, (Request.update_update hrequest hfirst hsecond h).symm⟩

namespace Request

/-- A request with a span of days. -/
def stay : Request where
  filters := [("span", .object [("from", .int 1), ("to", .int 9)]), ("open", .bool true)]
  sorting := .one (.name "day")
  condition := some (some (.named "listed"))

/-- A patch that ends the span earlier and lifts the condition. -/
def shorter : Request where
  filters := [("span", .object [("to", .int 5)])]
  sorting := .many [.name "day", .key ⟨"day", none⟩]
  condition := some none

/-- A patch that starts the span later and binds an object where the request has none. -/
def later : Request where
  fields := some [.name "id", .name "id"]
  filters := [("open", .object [("since", .int 2)]), ("span", .object [("from", .int 3)])]
  constants := some .null

theorem stay_in_turn :
    stay.filters.Keyed ∧ shorter.filters.Keyed ∧ later.filters.Keyed ∧
      stay.filters.Unbroken shorter.filters later.filters ∧
      ∃ merged, Prerequisite.merge (.settled (.patch shorter)) (.settled (.patch later)) =
          .ok (.settled (.patch merged)) ∧
        stay.update merged =
          { fields := some [.name "id"]
            filters :=
              [("span", .object [("from", .int 3), ("to", .int 5)]),
                ("open", .object [("since", .int 2)])]
            sorting := .many [.name "day", .key ⟨"day", none⟩]
            condition := some none
            constants := some .null } := by
  have hstay : stay.filters.Keyed :=
    .cons_object (by decide) (.of_plain (by decide) (by simp)) (.of_plain (by decide) (by simp))
  have hshorter : shorter.filters.Keyed :=
    .cons_object (by decide) (.of_plain (by decide) (by simp)) (.of_plain (by decide) (by simp))
  have hlater : later.filters.Keyed :=
    .cons_object (by decide) (.of_plain (by decide) (by simp))
      (.cons_object (by decide) (.of_plain (by decide) (by simp))
        (.of_plain (by decide) (by simp)))
  have hunbroken : stay.filters.Unbroken shorter.filters later.filters := by
    rw [Entries.unbroken_iff]
    intro key first value last hfirst hvalue _
    cases List.mem_singleton.mp (Entries.mem_of_get? hvalue)
    cases hfirst
    refine ⟨_, rfl, ?_⟩
    rw [Entries.unbroken_iff]
    intro key inner _ _ hinner
    have hmem := Entries.mem_of_get? hinner
    simp at hmem
  obtain ⟨merged, hmerged, hturn⟩ :=
    Prerequisite.merged_patch_in_turn hstay hshorter hlater hunbroken
  exact ⟨hstay, hshorter, hlater, hunbroken, merged, hmerged, hturn.trans rfl⟩

end Request

end QueryWeave

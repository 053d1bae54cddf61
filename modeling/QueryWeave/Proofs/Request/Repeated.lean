import QueryWeave.Proofs.Request.Merged

/-!
A patch put in again.  Main statement: `Request.update_again`, the second time changes nothing
exactly if the lists of the patch hold bare names only, whatever it binds to filters.
-/

namespace QueryWeave

section Concatenation

universe u

variable {α : Type u} {name? : α → Option String} {entries additions : List α}

theorem addEntries_of_mem
    (h : ∀ item ∈ additions, ∃ name ∈ entries.filterMap name?, name? item = some name) :
    addEntries name? entries additions = entries := by
  induction additions with
  | nil => rfl
  | cons item rest ih =>
      obtain ⟨name, hmem, hname⟩ := h item List.mem_cons_self
      rw [addEntries_cons, addEntry_of_mem hname hmem]
      exact ih fun other hother => h other (List.mem_cons_of_mem item hother)

/-- Of additions nothing is added again exactly if they are bare names. -/
theorem addEntries_twice_iff :
    addEntries name? (addEntries name? entries additions) additions =
        addEntries name? entries additions ↔
      ∀ item ∈ additions, (name? item).isSome := by
  constructor
  · intro h item hitem
    have hready := congrArg (readyMade name?) h
    rw [readyMade_addEntries, List.append_right_eq_self, readyMade,
      List.filter_eq_nil_iff] at hready
    exact Option.isSome_iff_ne_none.mpr (by simpa using hready item hitem)
  · intro h
    apply addEntries_of_mem
    intro item hitem
    obtain ⟨name, hname⟩ := Option.isSome_iff_exists.mp (h item hitem)
    refine ⟨name, ?_, hname⟩
    rw [mem_filterMap_addEntries name? name? fun _ _ h => h]
    exact Or.inr (List.mem_filterMap.mpr ⟨item, hitem, hname⟩)

theorem patchList_twice_iff (own patch : Option (List α)) :
    patchList name? (patchList name? own patch) patch = patchList name? own patch ↔
      ∀ item ∈ patch.getD [], (name? item).isSome := by
  match patch with
  | none => simp [patchList]
  | some [] => simp [patchList]
  | some (item :: rest) =>
      have hne := List.cons_ne_nil item rest
      rw [patchList_of_ne_nil _ hne, patchList_of_ne_nil _ hne, Option.getD_some, Option.some.injEq,
        addEntries_twice_iff]
      rfl

end Concatenation

namespace Request

theorem patchSorting_twice_iff (own patch : Clause SortEntry) :
    patchSorting (patchSorting own patch) patch = patchSorting own patch ↔
      ∀ entry ∈ patch.toList, entry.name?.isSome := by
  have hadded (items : List SortEntry) :
      Clause.many (addEntries SortEntry.name?
          (addEntries SortEntry.name? own.toList items) items) =
        .many (addEntries SortEntry.name? own.toList items) ↔
      ∀ entry ∈ items, entry.name?.isSome := by
    rw [Clause.many.injEq, addEntries_twice_iff]
  cases patch with
  | absent => exact iff_of_true rfl nofun
  | one item => exact hadded [item]
  | many items => exact hadded items

/-- The lists of a request hold bare names only. -/
structure ByName (request : Request) : Prop where
  fields : ∀ entry ∈ request.fieldList, entry.name?.isSome
  groups : ∀ entry ∈ request.groupList, entry.name?.isSome
  sorts : ∀ entry ∈ request.sortList, entry.name?.isSome

theorem update_twice_iff {patch : Request} (hkeyed : patch.filters.Keyed) (request : Request) :
    (request.update patch).update patch = request.update patch ↔ patch.ByName := by
  have hlast {β : Type} (own given : Option β) : (given <|> (given <|> own)) = (given <|> own) := by
    cases given <;> rfl
  have htables : patchList some (patchList some request.tables patch.tables) patch.tables =
      patchList some request.tables patch.tables :=
    (patchList_twice_iff _ _).mpr fun _ _ => rfl
  constructor
  · intro h
    exact {
      fields := (patchList_twice_iff _ _).mp (congrArg Request.fields h)
      groups := (patchList_twice_iff _ _).mp (congrArg Request.grouping h)
      sorts := (patchSorting_twice_iff _ _).mp (congrArg Request.sorting h) }
  · intro h
    simp only [update, mk.injEq]
    exact ⟨by rw [Bool.or_assoc, Bool.or_self], (patchList_twice_iff _ _).mpr h.fields, htables,
      Datum.deepMerge_twice hkeyed _, (patchList_twice_iff _ _).mpr h.groups,
      (patchSorting_twice_iff _ _).mpr h.sorts, hlast .., hlast .., hlast ..⟩

/-- Merging an object again changes nothing, and neither does putting a patch in again, unless one
of its lists holds an entry that is no bare name. -/
theorem update_again :
    (∀ left right : Entries Datum, right.Keyed →
      Datum.deepMerge (Datum.deepMerge left right) right = Datum.deepMerge left right) ∧
    ∀ request patch : Request, patch.filters.Keyed →
      ((request.update patch).update patch = request.update patch ↔ patch.ByName) :=
  ⟨fun left _ hright => Datum.deepMerge_twice hright left,
    fun request _ hkeyed => update_twice_iff hkeyed request⟩

/-- A patch that binds an object where `later` binds a number and a truth value where it binds an
object. -/
def reopened : Request where
  fields := some [.name "total", .name "id"]
  filters :=
    [("span", .object [("from", .object [("day", .int 5)]), ("to", .int 9)]),
      ("open", .bool true)]
  sorting := .one (.name "day")
  condition := some none

theorem reopened_again :
    reopened.filters.Keyed ∧ reopened.ByName ∧
      Datum.deepMerge (Datum.deepMerge later.filters reopened.filters) reopened.filters =
        [("open", .bool true),
          ("span", .object [("from", .object [("day", .int 5)]), ("to", .int 9)])] ∧
      (later.update reopened).update reopened =
        { fields := some [.name "id", .name "id", .name "total"]
          filters :=
            [("open", .bool true),
              ("span", .object [("from", .object [("day", .int 5)]), ("to", .int 9)])]
          sorting := .many [.name "day"]
          condition := some none
          constants := some .null } := by
  have hspan : Entries.Keyed [("from", .object [("day", .int 5)]), ("to", .int 9)] :=
    .cons_object (by decide) (.of_plain (by decide) (by simp)) (.of_plain (by decide) (by simp))
  have hkeyed : reopened.filters.Keyed :=
    .cons_object (by decide) hspan (.of_plain (by decide) (by simp))
  have hnames : reopened.ByName :=
    { fields := by decide
      groups := nofun
      sorts := by decide }
  obtain ⟨hobjects, hrequests⟩ := update_again
  exact ⟨hkeyed, hnames, (hobjects later.filters reopened.filters hkeyed).trans rfl,
    ((hrequests later reopened hkeyed).mpr hnames).trans rfl⟩

end Request

end QueryWeave

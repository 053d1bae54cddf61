import QueryWeave.Proofs.Key
import QueryWeave.Proofs.Request.Keys

namespace QueryWeave

section Concatenation

universe u

variable {α : Type u} (name? asked? : α → Option String) (entries additions : List α)
  (name : String)

/-- How many entries ask for a name otherwise than as a bare name. -/
def keyedCount : Nat :=
  entries.countP fun entry => asked? entry == some name && (name? entry).isNone

/-- The entries that ask for a name are all the bare name, or there is at most one of them. -/
def Unite : Prop :=
  (∀ entry ∈ entries, asked? entry = some name → name? entry = some name) ∨
    (entries.filterMap asked?).count name ≤ 1

variable {name? asked? entries additions name}

theorem keyedCount_append : keyedCount name? asked? (entries ++ additions) name =
    keyedCount name? asked? entries name + keyedCount name? asked? additions name :=
  List.countP_append

theorem keyedCount_cons_of_name? {entry : α} {held : String} (h : name? entry = some held) :
    keyedCount name? asked? (entry :: entries) name = keyedCount name? asked? entries name := by
  rw [keyedCount, List.countP_cons_of_neg (by simp [h])]
  rfl

theorem keyedCount_addEntries :
    keyedCount name? asked? (addEntries name? entries additions) name =
      keyedCount name? asked? entries name + keyedCount name? asked? additions name := by
  induction additions generalizing entries with
  | nil => rfl
  | cons item rest ih =>
      rw [addEntries_cons, ih]
      rcases addEntry_cases name? entries item with h | ⟨h, held, hname, _⟩
      · rw [h, keyedCount_append, Nat.add_assoc, ← keyedCount_append, List.singleton_append]
      · rw [h, keyedCount_cons_of_name? hname]

/-- Of a name that is not there yet one bare name is added, of one that is there none. -/
theorem count_filterMap_addEntries :
    ((addEntries name? entries additions).filterMap name?).count name =
      max ((entries.filterMap name?).count name)
        (min 1 ((additions.filterMap name?).count name)) := by
  induction additions generalizing entries with
  | nil => simp
  | cons item rest ih =>
      rw [addEntries_cons, ih]
      cases hitem : name? item with
      | none =>
          rw [addEntry_of_none hitem, List.filterMap_append, List.filterMap_cons_none hitem,
            List.filterMap_cons_none hitem, List.filterMap_nil, List.append_nil]
      | some held =>
          rw [List.filterMap_cons_some hitem]
          by_cases hmem : held ∈ entries.filterMap name?
          · rw [addEntry_of_mem hitem hmem, List.count_cons]
            split
            next heq =>
              have hheld := List.one_le_count_iff.mpr (eq_of_beq heq ▸ hmem)
              omega
            next => rfl
          · rw [addEntry_of_not_mem hitem hmem, List.filterMap_append,
              List.filterMap_cons_some hitem, List.filterMap_nil, List.count_append,
              List.count_singleton, List.count_cons]
            split
            next heq =>
              have hnone := List.count_eq_zero_of_not_mem (eq_of_beq heq ▸ hmem)
              omega
            next => rfl

theorem count_addEntries_le_one (hown : (entries.filterMap name?).count name ≤ 1) :
    ((addEntries name? entries additions).filterMap name?).count name ≤ 1 := by
  rw [count_filterMap_addEntries]
  omega

theorem count_addEntries_some_le_one {names more : List String} (hown : names.count name ≤ 1) :
    (addEntries some names more).count name ≤ 1 := by
  rw [← List.filterMap_some (l := names)] at hown
  rw [← List.filterMap_some (l := addEntries some names more)]
  exact count_addEntries_le_one hown

variable (hasked : ∀ item name, name? item = some name → asked? item = some name)

include hasked

theorem count_filterMap_asked : (entries.filterMap asked?).count name =
    keyedCount name? asked? entries name + (entries.filterMap name?).count name := by
  induction entries with
  | nil => rfl
  | cons entry rest ih =>
      cases hentry : name? entry with
      | some held =>
          rw [List.filterMap_cons_some hentry, List.filterMap_cons_some (hasked _ _ hentry),
            keyedCount_cons_of_name? hentry, List.count_cons, List.count_cons, ih, Nat.add_assoc]
      | none =>
          rw [List.filterMap_cons_none hentry, keyedCount, List.countP_cons, ← keyedCount]
          cases hfound : asked? entry with
          | none =>
              rw [List.filterMap_cons_none hfound, ih]
              simp [hentry]
          | some held =>
              rw [List.filterMap_cons_some hfound, List.count_cons, ih]
              simp [hentry]
              omega

theorem keyedCount_eq_zero_iff : keyedCount name? asked? entries name = 0 ↔
    ∀ entry ∈ entries, asked? entry = some name → name? entry = some name := by
  rw [keyedCount, List.countP_eq_zero]
  constructor
  · intro hnone entry hentry hname
    cases hheld : name? entry with
    | none => exact absurd (by simp [hname, hheld]) (hnone entry hentry)
    | some held => exact hname ▸ hasked entry held hheld ▸ rfl
  · intro hbare entry hentry hkeyed
    rw [Bool.and_eq_true, beq_iff_eq] at hkeyed
    rw [hbare entry hentry hkeyed.1] at hkeyed
    exact absurd hkeyed.2 (by simp)

theorem count_addEntries_le_one_iff (hown : (entries.filterMap asked?).count name ≤ 1) :
    ((addEntries name? entries additions).filterMap asked?).count name ≤ 1 ↔
      Unite name? asked? (entries ++ additions) name := by
  rw [Unite, ← keyedCount_eq_zero_iff hasked, count_filterMap_asked hasked,
    keyedCount_addEntries, count_filterMap_addEntries, keyedCount_append, count_filterMap_asked hasked,
    keyedCount_append, List.filterMap_append, List.count_append]
  rw [count_filterMap_asked hasked] at hown
  omega

end Concatenation

end QueryWeave

import Mathlib.Data.List.Perm.Basic
import Mathlib.Data.List.Count
import Mathlib.Data.List.FinRange

/-!
Outlines: what a scan finds in a query, clause by clause and table by table.  They are merged as
queries are.  Main statements: `Outline.scan_merge_perm`, a merge keeps everything, and
`Outline.scan_sublist_merge`, it keeps the order of what was there first.
-/

namespace QueryWeave

/-- What is found in a table, after the key of the table. -/
abbrev Outline.Entry (α : Type) := Option String × List α

structure Outline (α : Type) where
  columns : List α
  tables : List (Outline.Entry α)
  conditions : List α
  terms : List α
  having : List α
  order : List α

namespace Outline

variable {α β : Type} {key : String} {entry : Entry α} {entries additions : List (Entry α)}

def listed (entries : List (Entry α)) : List α := entries.flatMap Prod.snd

@[simp] theorem listed_nil : listed ([] : List (Entry α)) = [] := rfl

@[simp] theorem listed_cons (entry : Entry α) (rest : List (Entry α)) :
    listed (entry :: rest) = entry.2 ++ listed rest := rfl

@[simp] theorem listed_append (first second : List (Entry α)) :
    listed (first ++ second) = listed first ++ listed second :=
  List.flatMap_append

def scan (outline : Outline α) : List α :=
  outline.columns ++ (listed outline.tables ++ (outline.conditions ++
    (outline.terms ++ (outline.having ++ outline.order))))

section Merge

def addAt (key : String) (labels : List α) : List (Entry α) → List (Entry α)
  | [] => []
  | entry :: rest =>
      if entry.1 = some key then (entry.1, entry.2 ++ labels) :: rest
      else entry :: addAt key labels rest

/-- An entry put where the joins of a table go: to the first entry of the key, or else at the end. -/
def place (entries : List (Entry α)) (entry : Entry α) : List (Entry α) :=
  match entry.1 with
  | none => entries ++ [entry]
  | some key =>
      if some key ∈ entries.map Prod.fst then addAt key entry.2 entries else entries ++ [entry]

def merge (base addition : Outline α) : Outline α where
  columns := base.columns ++ addition.columns
  tables := addition.tables.foldl place base.tables
  conditions := base.conditions ++ addition.conditions
  terms := base.terms ++ addition.terms
  having := base.having ++ addition.having
  order := base.order ++ addition.order

theorem addAt_cons_self {labels : List α} {rest : List (Entry α)} (hkey : entry.1 = some key) :
    addAt key labels (entry :: rest) = (entry.1, entry.2 ++ labels) :: rest :=
  if_pos hkey

theorem addAt_cons_of_ne {labels : List α} {rest : List (Entry α)} (hkey : entry.1 ≠ some key) :
    addAt key labels (entry :: rest) = entry :: addAt key labels rest :=
  if_neg hkey

theorem addAt_nil (entries : List (Entry α)) : addAt key [] entries = entries := by
  induction entries with
  | nil => rfl
  | cons entry rest ih =>
      by_cases hkey : entry.1 = some key
      · rw [addAt_cons_self hkey, List.append_nil]
      · rw [addAt_cons_of_ne hkey, ih]

theorem listed_addAt_perm (labels : List α) (hmem : some key ∈ entries.map Prod.fst) :
    (listed (addAt key labels entries)).Perm (listed entries ++ labels) := by
  induction entries with
  | nil => cases hmem
  | cons entry rest ih =>
      by_cases hkey : entry.1 = some key
      · rw [addAt_cons_self hkey, listed_cons, listed_cons, List.append_assoc, List.append_assoc]
        exact List.perm_append_comm.append_left entry.2
      · have hrest : some key ∈ rest.map Prod.fst :=
          (List.mem_cons.mp hmem).resolve_left (Ne.symm hkey)
        rw [addAt_cons_of_ne hkey, listed_cons, listed_cons, List.append_assoc]
        exact (ih hrest).append_left entry.2

theorem listed_sublist_addAt (labels : List α) (entries : List (Entry α)) :
    (listed entries).Sublist (listed (addAt key labels entries)) := by
  induction entries with
  | nil => exact List.nil_sublist _
  | cons entry rest ih =>
      by_cases hkey : entry.1 = some key
      · rw [addAt_cons_self hkey]
        exact (List.sublist_append_left entry.2 labels).append_right _
      · rw [addAt_cons_of_ne hkey]
        exact ih.append_left entry.2

theorem place_of_fresh (h : ∀ key, entry.1 = some key → some key ∉ entries.map Prod.fst) :
    place entries entry = entries ++ [entry] := by
  unfold place
  split
  next => rfl
  next key hkey => exact if_neg (h key hkey)

theorem place_of_mem (hkey : entry.1 = some key) (hmem : some key ∈ entries.map Prod.fst) :
    place entries entry = addAt key entry.2 entries := by
  rw [place, hkey]
  exact if_pos hmem

theorem listed_place_perm (entries : List (Entry α)) (entry : Entry α) :
    (listed (place entries entry)).Perm (listed entries ++ entry.2) := by
  have hend : listed (entries ++ [entry]) = listed entries ++ entry.2 := by
    rw [listed_append, listed_cons, listed_nil, List.append_nil]
  unfold place
  split
  next => rw [hend]
  next key _ =>
    split
    next hmem => exact listed_addAt_perm entry.2 hmem
    next => rw [hend]

theorem listed_sublist_place (entries : List (Entry α)) (entry : Entry α) :
    (listed entries).Sublist (listed (place entries entry)) := by
  have hend : (listed entries).Sublist (listed (entries ++ [entry])) := by
    rw [listed_append]
    exact List.sublist_append_left _ _
  unfold place
  split
  next => exact hend
  next =>
    split
    next => exact listed_sublist_addAt entry.2 entries
    next => exact hend

theorem listed_foldl_place_perm (entries additions : List (Entry α)) :
    (listed (additions.foldl place entries)).Perm (listed entries ++ listed additions) := by
  induction additions generalizing entries with
  | nil => simp
  | cons entry rest ih =>
      rw [List.foldl_cons, listed_cons, ← List.append_assoc]
      exact (ih _).trans ((listed_place_perm entries entry).append_right _)

theorem listed_sublist_foldl_place (entries additions : List (Entry α)) :
    (listed entries).Sublist (listed (additions.foldl place entries)) := by
  induction additions generalizing entries with
  | nil => exact List.Sublist.refl _
  | cons entry rest ih => exact (listed_sublist_place entries entry).trans (ih _)

theorem foldl_place_of_fresh (hdistinct : (additions.filterMap Prod.fst).Nodup)
    (hfresh : ∀ key ∈ additions.filterMap Prod.fst, some key ∉ entries.map Prod.fst) :
    additions.foldl place entries = entries ++ additions := by
  induction additions generalizing entries with
  | nil => exact (List.append_nil _).symm
  | cons entry rest ih =>
      have hentry : ∀ key, entry.1 = some key → some key ∉ entries.map Prod.fst := by
        intro key hkey
        apply hfresh
        rw [List.filterMap_cons_some hkey]
        exact List.mem_cons_self
      have hsub : (rest.filterMap Prod.fst).Sublist ((entry :: rest).filterMap Prod.fst) :=
        (List.sublist_cons_self entry rest).filterMap _
      have hrest : ∀ key ∈ rest.filterMap Prod.fst,
          some key ∉ (entries ++ [entry]).map Prod.fst := by
        intro key hkey hmem
        rw [List.map_append, List.mem_append] at hmem
        rcases hmem with hold | hnew
        · exact hfresh key (hsub.subset hkey) hold
        · have hsame : entry.1 = some key := (List.mem_singleton.mp hnew).symm
          rw [List.filterMap_cons_some hsame, List.nodup_cons] at hdistinct
          exact hdistinct.1 hkey
      rw [List.foldl_cons, place_of_fresh hentry, ih (hdistinct.sublist hsub) hrest,
        List.append_assoc, List.singleton_append]

/-- A merge keeps everything, each thing as often as it was there. -/
theorem scan_merge_perm (base addition : Outline α) :
    (base.merge addition).scan.Perm (base.scan ++ addition.scan) := by
  classical
  rw [List.perm_iff_count]
  intro label
  have htables := (listed_foldl_place_perm base.tables addition.tables).count_eq label
  rw [List.count_append] at htables
  simp only [scan, merge, List.count_append, htables]
  omega

theorem scan_sublist_merge (base addition : Outline α) :
    base.scan.Sublist (base.merge addition).scan :=
  (List.sublist_append_left _ _).append <|
    (listed_sublist_foldl_place _ _).append <|
      (List.sublist_append_left _ _).append <|
        (List.sublist_append_left _ _).append <|
          (List.sublist_append_left _ _).append (List.sublist_append_left _ _)

/-- What is added keeps its order too, when no table of it is known or comes twice. -/
theorem scan_sublist_merge_of_fresh {base addition : Outline α}
    (hdistinct : (addition.tables.filterMap Prod.fst).Nodup)
    (hfresh : ∀ key ∈ addition.tables.filterMap Prod.fst, some key ∉ base.tables.map Prod.fst) :
    addition.scan.Sublist (base.merge addition).scan := by
  have htables : (listed addition.tables).Sublist (listed (base.merge addition).tables) := by
    rw [merge, foldl_place_of_fresh hdistinct hfresh, listed_append]
    exact List.sublist_append_right _ _
  exact (List.sublist_append_right _ _).append <|
    htables.append <|
      (List.sublist_append_right _ _).append <|
        (List.sublist_append_right _ _).append <|
          (List.sublist_append_right _ _).append (List.sublist_append_right _ _)

end Merge

section Map

def mapEntry (f : α → β) (entry : Entry α) : Entry β := (entry.1, entry.2.map f)

@[simp] theorem fst_mapEntry (f : α → β) (entry : Entry α) : (mapEntry f entry).1 = entry.1 := rfl

@[simp] theorem snd_mapEntry (f : α → β) (entry : Entry α) :
    (mapEntry f entry).2 = entry.2.map f := rfl

def map (f : α → β) (outline : Outline α) : Outline β where
  columns := outline.columns.map f
  tables := outline.tables.map (mapEntry f)
  conditions := outline.conditions.map f
  terms := outline.terms.map f
  having := outline.having.map f
  order := outline.order.map f

variable (f : α → β)

theorem listed_map (entries : List (Entry α)) :
    listed (entries.map (mapEntry f)) = (listed entries).map f := by
  induction entries with
  | nil => rfl
  | cons entry rest ih =>
      rw [List.map_cons, listed_cons, ih, listed_cons, List.map_append, snd_mapEntry]

theorem scan_map (outline : Outline α) : (outline.map f).scan = outline.scan.map f := by
  simp only [scan, map, listed_map, List.map_append]

theorem keys_map (entries : List (Entry α)) :
    (entries.map (mapEntry f)).map Prod.fst = entries.map Prod.fst :=
  List.map_map

theorem map_addAt (labels : List α) (entries : List (Entry α)) :
    (addAt key labels entries).map (mapEntry f) =
      addAt key (labels.map f) (entries.map (mapEntry f)) := by
  induction entries with
  | nil => rfl
  | cons entry rest ih =>
      by_cases hkey : entry.1 = some key
      · have hmapped : (mapEntry f entry).1 = some key := hkey
        rw [addAt_cons_self hkey, List.map_cons, List.map_cons, addAt_cons_self hmapped,
          snd_mapEntry, ← List.map_append]
        rfl
      · have hmapped : (mapEntry f entry).1 ≠ some key := hkey
        rw [addAt_cons_of_ne hkey, List.map_cons, ih, List.map_cons, addAt_cons_of_ne hmapped]

theorem map_place (entries : List (Entry α)) (entry : Entry α) :
    (place entries entry).map (mapEntry f) =
      place (entries.map (mapEntry f)) (mapEntry f entry) := by
  have hend : (entries ++ [entry]).map (mapEntry f) =
      entries.map (mapEntry f) ++ [mapEntry f entry] := List.map_append
  unfold place
  rw [fst_mapEntry]
  split
  next => exact hend
  next key _ =>
    rw [keys_map]
    split
    next => exact map_addAt f entry.2 entries
    next => exact hend

theorem map_foldl_place (entries additions : List (Entry α)) :
    (additions.foldl place entries).map (mapEntry f) =
      (additions.map (mapEntry f)).foldl place (entries.map (mapEntry f)) := by
  induction additions generalizing entries with
  | nil => rfl
  | cons entry rest ih => rw [List.foldl_cons, ih, map_place, List.map_cons, List.foldl_cons]

/-- A merge goes by the keys alone. -/
theorem map_merge (base addition : Outline α) :
    (base.merge addition).map f = (base.map f).merge (addition.map f) := by
  simp only [merge, map, map_foldl_place, List.map_append]

end Map

section Deal

def dealEntries : List (Entry α) → List β → List (Entry β)
  | [], _ => []
  | entry :: rest, labels =>
      (entry.1, labels.take entry.2.length) :: dealEntries rest (labels.drop entry.2.length)

/-- An outline of the same shape, with labels dealt over it in scan order. -/
def deal (outline : Outline α) (labels : List β) : Outline β :=
  let joined := labels.drop outline.columns.length
  let filtered := joined.drop (listed outline.tables).length
  let grouped := filtered.drop outline.conditions.length
  let restricted := grouped.drop outline.terms.length
  { columns := labels.take outline.columns.length
    tables := dealEntries outline.tables joined
    conditions := filtered.take outline.conditions.length
    terms := grouped.take outline.terms.length
    having := restricted.take outline.having.length
    order := restricted.drop outline.having.length }

variable {γ : Type}

theorem listed_dealEntries (entries : List (Entry α)) (labels : List β) :
    listed (dealEntries entries labels) = labels.take (listed entries).length := by
  induction entries generalizing labels with
  | nil => exact List.take_zero.symm
  | cons entry rest ih =>
      rw [dealEntries, listed_cons, ih, listed_cons, List.length_append, List.take_add]

theorem keys_dealEntries (entries : List (Entry α)) (labels : List β) :
    (dealEntries entries labels).map Prod.fst = entries.map Prod.fst := by
  induction entries generalizing labels with
  | nil => rfl
  | cons entry rest ih => rw [dealEntries, List.map_cons, ih, List.map_cons]

theorem map_dealEntries (f : β → γ) (entries : List (Entry α)) (labels : List β) :
    (dealEntries entries labels).map (mapEntry f) = dealEntries entries (labels.map f) := by
  induction entries generalizing labels with
  | nil => rfl
  | cons entry rest ih =>
      rw [dealEntries, List.map_cons, ih, dealEntries, List.map_drop, ← List.map_take]
      rfl

theorem dealEntries_map (f : α → γ) (entries : List (Entry α)) (labels : List β) :
    dealEntries (entries.map (mapEntry f)) labels = dealEntries entries labels := by
  induction entries generalizing labels with
  | nil => rfl
  | cons entry rest ih =>
      rw [List.map_cons, dealEntries, ih, dealEntries, snd_mapEntry, List.length_map, fst_mapEntry]

theorem dealEntries_listed (entries : List (Entry α)) (more : List α) :
    dealEntries entries (listed entries ++ more) = entries := by
  induction entries with
  | nil => rfl
  | cons entry rest ih =>
      rw [listed_cons, List.append_assoc, dealEntries, List.take_left, List.drop_left, ih]

@[simp] theorem scan_deal (outline : Outline α) (labels : List β) :
    (outline.deal labels).scan = labels := by
  simp only [scan, deal, listed_dealEntries, List.take_append_drop]

theorem map_deal (f : β → γ) (outline : Outline α) (labels : List β) :
    (outline.deal labels).map f = outline.deal (labels.map f) := by
  simp only [map, deal, map_dealEntries, List.map_take, List.map_drop]

/-- Only the shape of an outline tells where labels go. -/
theorem deal_map (f : α → γ) (outline : Outline α) (labels : List β) :
    (outline.map f).deal labels = outline.deal labels := by
  simp only [map, deal, dealEntries_map, listed_map, List.length_map]

theorem deal_scan (outline : Outline α) : outline.deal outline.scan = outline := by
  simp only [scan, deal, List.take_left, List.drop_left, dealEntries_listed]

/-- Outlines of the same shape with the same scan are the same. -/
theorem eq_deal_scan_of_shape {outline : Outline α} {other : Outline β} {f : α → γ} {g : β → γ}
    (hshape : outline.map f = other.map g) : outline = other.deal outline.scan := by
  rw [← deal_map g other, ← hshape, deal_map, deal_scan]

theorem keys_deal (outline : Outline α) (labels : List β) :
    (outline.deal labels).tables.map Prod.fst = outline.tables.map Prod.fst :=
  keys_dealEntries _ _

theorem filterMap_fst_deal (outline : Outline α) (labels : List β) :
    (outline.deal labels).tables.filterMap Prod.fst = outline.tables.filterMap Prod.fst := by
  have hkeys := congrArg (List.filterMap id) (outline.keys_deal labels)
  rw [List.filterMap_map, List.filterMap_map] at hkeys
  exact hkeys

end Deal

section Origins

variable {m n : Nat} (base addition : Outline α)

/-- What a merge of two outlines holds, in scan order, by its number on the side that it is from. -/
def origins (m n : Nat) (base addition : Outline α) : List (Fin m ⊕ Fin n) :=
  ((base.deal ((List.finRange m).map .inl)).merge
    (addition.deal ((List.finRange n).map .inr))).scan

/-- Whatever is dealt over two outlines, it is merged by the same origins. -/
theorem scan_merge_deal (own : Fin m → β) (added : Fin n → β) :
    ((base.deal (List.ofFn own)).merge (addition.deal (List.ofFn added))).scan =
      (origins m n base addition).map (Sum.elim own added) := by
  have hleft : (base.deal ((List.finRange m).map Sum.inl)).map (Sum.elim own added) =
      base.deal (List.ofFn own) := by
    rw [map_deal, List.map_map, Sum.elim_comp_inl, List.ofFn_eq_map]
  have hright : (addition.deal ((List.finRange n).map Sum.inr)).map (Sum.elim own added) =
      addition.deal (List.ofFn added) := by
    rw [map_deal, List.map_map, Sum.elim_comp_inr, List.ofFn_eq_map]
  rw [origins, ← scan_map, map_merge, hleft, hright]

theorem origins_perm : (origins m n base addition).Perm
    ((List.finRange m).map .inl ++ (List.finRange n).map .inr) := by
  have hscan := (base.deal ((List.finRange m).map Sum.inl)).scan_merge_perm
    (addition.deal ((List.finRange n).map Sum.inr))
  rwa [scan_deal, scan_deal] at hscan

theorem sublist_origins :
    ((List.finRange m).map .inl).Sublist (origins m n base addition) := by
  have hsub := (base.deal ((List.finRange m).map Sum.inl)).scan_sublist_merge
    (addition.deal ((List.finRange n).map Sum.inr))
  rwa [scan_deal] at hsub

theorem sublist_origins_of_fresh {base addition : Outline α}
    (hdistinct : (addition.tables.filterMap Prod.fst).Nodup)
    (hfresh : ∀ key ∈ addition.tables.filterMap Prod.fst, some key ∉ base.tables.map Prod.fst) :
    ((List.finRange n).map .inr).Sublist (origins m n base addition) := by
  have hlabelled : (addition.deal ((List.finRange n).map Sum.inr)).scan.Sublist
      (origins m n base addition) := by
    apply scan_sublist_merge_of_fresh
    · rw [filterMap_fst_deal]
      exact hdistinct
    · rw [filterMap_fst_deal, keys_deal]
      exact hfresh
  rwa [scan_deal] at hlabelled

end Origins

end Outline

end QueryWeave

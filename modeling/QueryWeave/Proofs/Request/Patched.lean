import QueryWeave.Proofs.Request.Counts
import Mathlib.Data.List.Count

namespace QueryWeave

universe u

variable {α : Type u}

theorem addEntries_append (name? : α → Option String) (entries first second : List α) :
    addEntries name? entries (first ++ second) =
      addEntries name? (addEntries name? entries first) second :=
  List.foldl_append

theorem addEntries_addEntry (name? : α → Option String) (entries additions : List α) (item : α) :
    addEntries name? entries (addEntry name? additions item) =
      addEntry name? (addEntries name? entries additions) item := by
  have happend : addEntries name? entries (additions ++ [item]) =
      addEntry name? (addEntries name? entries additions) item :=
    addEntries_append name? entries additions [item]
  rcases addEntry_cases name? additions item with h | ⟨h, name, hname, hmem⟩
  · rw [h, happend]
  · have hthere := (mem_filterMap_addEntries name? name? (fun _ _ h => h) entries additions
      name).mpr (Or.inr hmem)
    rw [h, addEntry_of_mem hname hthere]

/-- What is left out of the additions to additions would be left out anyway. -/
theorem addEntries_assoc (name? : α → Option String) (entries first second : List α) :
    addEntries name? (addEntries name? entries first) second =
      addEntries name? entries (addEntries name? first second) := by
  induction second generalizing first with
  | nil => rfl
  | cons item rest ih =>
      rw [addEntries_cons, addEntries_cons, ← ih, addEntries_addEntry]

theorem getD_patchList (name? : α → Option String) (own patch : Option (List α)) :
    (patchList name? own patch).getD [] = addEntries name? (own.getD []) (patch.getD []) := by
  cases patch with
  | none => rfl
  | some additions =>
      cases additions with
      | nil => rfl
      | cons item rest => rfl

section ReadyMade

variable (name? : α → Option String)

/-- The entries that are no bare names. -/
def readyMade (entries : List α) : List α :=
  entries.filter fun entry => (name? entry).isNone

theorem readyMade_append (entries more : List α) :
    readyMade name? (entries ++ more) = readyMade name? entries ++ readyMade name? more :=
  List.filter_append ..

variable {name?}

theorem readyMade_cons_of_some {item : α} {name : String} (h : name? item = some name)
    (rest : List α) : readyMade name? (item :: rest) = readyMade name? rest := by
  rw [readyMade, List.filter_cons_of_neg (by simp [h]), readyMade]

variable (name?)

/-- Ready-made entries are added whatever is there already. -/
theorem readyMade_addEntries (entries additions : List α) :
    readyMade name? (addEntries name? entries additions) =
      readyMade name? entries ++ readyMade name? additions := by
  induction additions generalizing entries with
  | nil => simp [readyMade]
  | cons item rest ih =>
      rw [addEntries_cons, ih]
      rcases addEntry_cases name? entries item with h | ⟨h, name, hname, -⟩
      · rw [h, readyMade_append, List.append_assoc, ← readyMade_append, List.singleton_append]
      · rw [h, readyMade_cons_of_some hname]

end ReadyMade

theorem Entries.keys_put_eq_addEntry (entries : Entries α) (key : String) (value : α) :
    keys (put entries key value) = addEntry some (keys entries) key := by
  rw [keys_put, addEntry_some]

theorem Datum.keys_deepMerge (left right : Entries Datum) :
    Entries.keys (deepMerge left right) =
      addEntries some (Entries.keys left) (Entries.keys right) := by
  induction right generalizing left with
  | nil => rfl
  | cons member rest ih =>
      obtain ⟨key, value⟩ := member
      rw [deepMerge_cons, ih, Entries.keys_put_eq_addEntry, Entries.keys_cons, addEntries_cons]

namespace Request

theorem toList_patchSorting (own patch : Clause SortEntry) :
    (patchSorting own patch).toList = addEntries SortEntry.name? own.toList patch.toList := by
  cases patch with
  | absent => rfl
  | one item => rfl
  | many items => rfl

theorem foldl_update (name? : α → Option String) (view : Request → List α)
    (hview : ∀ request patch : Request,
      view (request.update patch) = addEntries name? (view request) (view patch))
    (patches : List Request) (request : Request) :
    view (patches.foldl update request) =
      addEntries name? (view request) (patches.flatMap view) := by
  induction patches generalizing request with
  | nil => rfl
  | cons patch rest ih =>
      rw [List.foldl_cons, ih, hview, List.flatMap_cons, addEntries_append]

/-- The entries of requests for a name do not keep each other from being one. -/
def Unites (sources : List Request) (kind : Kind) (name : String) : Prop :=
  kind = .order →
    Unite SortEntry.name? SortEntry.sortName? (sources.flatMap sortList) name

variable {request : Request} {patches : List Request} {kind : Kind} {name : String}

theorem count_foldl_update_le_one (name? : α → Option String) (view : Request → List α)
    (hview : ∀ request patch : Request,
      view (request.update patch) = addEntries name? (view request) (view patch))
    (hown : ((view request).filterMap name?).count name ≤ 1) :
    ((view (patches.foldl update request)).filterMap name?).count name ≤ 1 := by
  rw [foldl_update name? view hview]
  exact count_addEntries_le_one hown

theorem count_foldl_update_some_le_one (view : Request → List String)
    (hview : ∀ request patch : Request,
      view (request.update patch) = addEntries some (view request) (view patch))
    (hown : (view request).count name ≤ 1) :
    (view (patches.foldl update request)).count name ≤ 1 := by
  rw [foldl_update some view hview]
  exact count_addEntries_some_le_one hown

/-- A series of patches makes a request ask twice for no name but one to sort by. -/
theorem count_asked_foldl_update_le_one_iff (hown : (request.asked kind).count name ≤ 1) :
    ((patches.foldl update request).asked kind).count name ≤ 1 ↔
      Unites (request :: patches) kind name := by
  cases kind with
  | field =>
      refine iff_of_true ?_ nofun
      exact count_foldl_update_le_one FieldEntry.name? fieldList
        (fun _ _ => getD_patchList _ _ _) hown
  | table =>
      refine iff_of_true ?_ nofun
      exact count_foldl_update_some_le_one tableList (fun _ _ => getD_patchList _ _ _) hown
  | filter =>
      refine iff_of_true ?_ nofun
      exact count_foldl_update_some_le_one (fun request => Entries.keys request.filters)
        (fun _ _ => Datum.keys_deepMerge _ _) hown
  | group =>
      refine iff_of_true ?_ nofun
      exact count_foldl_update_le_one GroupEntry.name? groupList
        (fun _ _ => getD_patchList _ _ _) hown
  | order =>
      have hlist := foldl_update SortEntry.name? sortList
        (fun _ _ => toList_patchSorting _ _) patches request
      unfold asked
      dsimp only
      rw [hlist, count_addEntries_le_one_iff SortEntry.sortName?_of_name? hown, Unites,
        List.flatMap_cons]
      exact ⟨fun h _ => h, fun h => h rfl⟩

theorem mem_asked_foldl_update :
    name ∈ (patches.foldl update request).asked kind ↔
      ∃ source ∈ request :: patches, name ∈ source.asked kind := by
  induction patches generalizing request with
  | nil => simp
  | cons patch rest ih =>
      rw [List.foldl_cons, ih]
      simp only [List.mem_cons, exists_eq_or_imp, mem_asked_update]
      rw [or_assoc]

theorem Unites.perm {sources others : List Request} (h : Unites sources kind name)
    (hperm : sources.Perm others) : Unites others kind name := by
  intro hkind
  have hentries : (sources.flatMap sortList).Perm (others.flatMap sortList) :=
    hperm.flatMap_right sortList
  rcases h hkind with hbare | hcount
  · exact Or.inl fun entry hentry => hbare entry (hentries.mem_iff.mpr hentry)
  · exact Or.inr ((hentries.filterMap _).count_eq name ▸ hcount)

theorem count_map_render (kind : Kind) (names : List String) (key : String) :
    (names.map fun name => (Key.mk kind name).render).count key =
      if kind = .filter then names.count key
      else if (Key.parse key).kind = kind then names.count (Key.parse key).name
      else 0 := by
  by_cases hfilter : kind = .filter
  · subst hfilter
    simp
  · rw [if_neg hfilter]
    split
    next hkind =>
      subst hkind
      have hcount := List.count_map_of_injective names _
        (Key.render_injective (Key.parse key).kind) (Key.parse key).name
      rw [Key.render_parse] at hcount
      exact hcount
    next hkind =>
      apply List.count_eq_zero_of_not_mem
      intro hmem
      obtain ⟨name, _, rfl⟩ := List.mem_map.mp hmem
      rw [Key.parse_render hfilter] at hkind
      exact hkind rfl

/-- A key is asked for under its kind, and by filters that go by the whole key. -/
theorem count_keys (request : Request) (key : String) :
    request.keys.count key =
      (request.asked (Key.parse key).kind).count (Key.parse key).name +
        if (Key.parse key).kind = .filter then 0 else (request.asked .filter).count key := by
  have hname : (Key.parse key).kind = .filter → (Key.parse key).name = key := by
    intro hkind
    have hrender := Key.render_parse key
    rw [Key.render, hkind] at hrender
    exact hrender
  rw [keys_eq_append]
  simp only [List.count_append, count_map_render]
  cases hkind : (Key.parse key).kind with
  | filter => simp [hname hkind]
  | field => simp
  | table => simp
  | group => simp [Nat.add_comm]
  | order => simp [Nat.add_comm]

end Request

end QueryWeave

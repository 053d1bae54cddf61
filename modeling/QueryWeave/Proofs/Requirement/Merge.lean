import QueryWeave.Proofs.Request.Keys

namespace QueryWeave

theorem Entries.mem_put_inv {α : Type} {entries : Entries α} {key : String} {value : α}
    {pair : String × α} (h : pair ∈ put entries key value) :
    pair ∈ entries ∨ pair = (key, value) := by
  induction entries with
  | nil => exact Or.inr (List.mem_singleton.mp h)
  | cons first rest ih =>
      obtain ⟨old, held⟩ := first
      rw [put] at h
      split at h
      next heq =>
        rcases List.mem_cons.mp h with hfirst | hrest
        · exact Or.inr (heq ▸ hfirst)
        · exact Or.inl (List.mem_cons_of_mem _ hrest)
      next =>
        rcases List.mem_cons.mp h with hfirst | hrest
        · exact Or.inl (hfirst ▸ List.mem_cons_self)
        · exact (ih hrest).imp_left (List.mem_cons_of_mem _)

/-- Every value that a filter has is true; it may have none. -/
def Entries.OnlyTrue (filters : Entries Datum) (name : String) : Prop :=
  ∀ value, (name, value) ∈ filters → value = .bool true

namespace Entries.OnlyTrue

variable {left right filters : Entries Datum} {key name : String} {value : Datum}

theorem of_not_mem (h : name ∉ keys filters) : OnlyTrue filters name :=
  fun _ hmem => absurd (List.mem_map.mpr ⟨_, hmem, rfl⟩) h

theorem tail {pair : String × Datum} (h : OnlyTrue (pair :: filters) name) :
    OnlyTrue filters name :=
  fun value hmem => h value (List.mem_cons_of_mem _ hmem)

theorem put (h : OnlyTrue filters name) (hvalue : key = name → value = .bool true) :
    OnlyTrue (put filters key value) name := by
  intro held hmem
  rcases mem_put_inv hmem with hold | hnew
  · exact h held hold
  · cases hnew
    exact hvalue rfl

theorem deepMerge (hleft : OnlyTrue left name) (hright : OnlyTrue right name) :
    OnlyTrue (Datum.deepMerge left right) name := by
  induction right generalizing left with
  | nil => exact hleft
  | cons pair rest ih =>
      obtain ⟨key, held⟩ := pair
      rw [Datum.deepMerge_cons]
      refine ih (hleft.put ?_) hright.tail
      rintro rfl
      rw [hright held List.mem_cons_self]
      rfl

end Entries.OnlyTrue

/-- Merging sets a filter to true when that is all the merged filters have for it. -/
theorem Datum.get?_deepMerge {left right : Entries Datum} {name : String}
    (h : right.OnlyTrue name) :
    Entries.get? (deepMerge left right) name =
      if name ∈ Entries.keys right then some (.bool true) else Entries.get? left name := by
  induction right generalizing left with
  | nil => simp
  | cons pair rest ih =>
      obtain ⟨key, held⟩ := pair
      rw [deepMerge_cons, ih h.tail]
      by_cases hkey : key = name
      · subst hkey
        obtain rfl := h held List.mem_cons_self
        rw [Entries.get?_put_self]
        simp [mergeOnto]
      · rw [Entries.get?_put_of_ne _ _ hkey]
        simp [Ne.symm hkey]

namespace Requirement

variable {request patch merged : Request} {names : List String} {key name : String} {kind : Kind}

theorem mem_asked_askFor :
    name ∈ (askFor request key).asked kind ↔
      name ∈ request.asked kind ∨ Key.parse key = ⟨kind, name⟩ := by
  rw [askFor]
  cases Key.parse key with
  | mk asked given =>
      cases asked <;> cases kind <;>
        simp [Request.asked, Request.fieldList, Request.tableList, Request.groupList,
          Request.sortList, FieldEntry.name?, GroupEntry.name?, SortEntry.sortName?,
          Entries.mem_keys_put, eq_comm]

theorem mem_asked_foldl_askFor :
    name ∈ (names.foldl askFor request).asked kind ↔
      name ∈ request.asked kind ∨ ∃ key ∈ names, Key.parse key = ⟨kind, name⟩ := by
  induction names generalizing request with
  | nil => simp
  | cons first rest ih =>
      rw [List.foldl_cons, ih, mem_asked_askFor, List.exists_mem_cons_iff, or_assoc]

theorem onlyTrue_askFor (h : request.filters.OnlyTrue name) :
    (askFor request key).filters.OnlyTrue name := by
  rw [askFor]
  cases (Key.parse key).kind with
  | filter => exact Entries.OnlyTrue.put h fun _ => rfl
  | _ => exact h

theorem onlyTrue_foldl_askFor (h : request.filters.OnlyTrue name) :
    (names.foldl askFor request).filters.OnlyTrue name := by
  induction names generalizing request with
  | nil => exact h
  | cons first rest ih => exact ih (onlyTrue_askFor h)

theorem mem_keys_ofNames : key ∈ (ofNames names).keys ↔ key ∈ names := by
  rw [Request.mem_keys]
  simp only [ofNames, mem_asked_foldl_askFor]
  constructor
  · rintro ⟨kind, name, hempty | ⟨other, hother, hparse⟩, rfl⟩
    · cases kind <;> cases hempty
    · rw [← hparse, Key.render_parse]
      exact hother
  · intro hkey
    exact ⟨_, _, Or.inr ⟨key, hkey, rfl⟩, Key.render_parse key⟩

/-- A patch that comes of merging a name list and a patch, in either order. -/
def Blends (names : List String) (patch merged : Request) : Prop :=
  merged = (ofNames names).update patch ∨ merged = patch.update (ofNames names)

namespace Blends

theorem mem_keys (h : Blends names patch merged) :
    key ∈ merged.keys ↔ key ∈ names ∨ key ∈ patch.keys := by
  rcases h with rfl | rfl
  · rw [Request.mem_keys_update, mem_keys_ofNames]
  · rw [Request.mem_keys_update, mem_keys_ofNames, or_comm]

theorem onlyTrue (h : Blends names patch merged) (hpatch : patch.filters.OnlyTrue name) :
    merged.filters.OnlyTrue name := by
  have hnames : (ofNames names).filters.OnlyTrue name :=
    onlyTrue_foldl_askFor (Entries.OnlyTrue.of_not_mem nofun)
  rcases h with rfl | rfl
  · exact hnames.deepMerge hpatch
  · exact hpatch.deepMerge hnames

theorem mem_keys_filters (h : Blends names patch merged) (hname : name ∈ names)
    (hkind : (Key.parse name).kind = .filter) : name ∈ Entries.keys merged.filters := by
  have hparse : Key.parse name = ⟨.filter, name⟩ := by
    have hrender := Key.render_parse name
    rw [Key.render, hkind] at hrender
    exact congrArg₂ Key.mk hkind hrender
  have hnames : name ∈ (ofNames names).asked .filter :=
    mem_asked_foldl_askFor.mpr (Or.inr ⟨name, hname, hparse⟩)
  rcases h with rfl | rfl
  · exact Request.mem_asked_update.mpr (Or.inl hnames)
  · exact Request.mem_asked_update.mpr (Or.inr hnames)

end Blends

end Requirement

theorem Prerequisite.blends_of_merge {names : List String} {patch : Request}
    {prerequisite : Prerequisite}
    (h : merge (.settled (.names names)) (.settled (.patch patch)) = .ok prerequisite ∨
      merge (.settled (.patch patch)) (.settled (.names names)) = .ok prerequisite) :
    ∃ merged, prerequisite = .settled (.patch merged) ∧
      Requirement.Blends names patch merged := by
  rcases h with h | h
  · cases h
    exact ⟨_, rfl, Or.inl rfl⟩
  · cases h
    exact ⟨_, rfl, Or.inr rfl⟩

end QueryWeave

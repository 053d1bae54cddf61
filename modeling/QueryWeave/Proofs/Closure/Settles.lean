import QueryWeave.Proofs.Closure.Trail

namespace QueryWeave

namespace Closure

/-- Visiting keys in order on a path, from a state of the search, settles the prerequisite of a key
as a requirement. -/
inductive Settles (registry : Registry) :
    List String → List String → Search → String → Requirement → Prop where
  | met {path rest : List String} {key : String} {search : Search} {fragment : Fragment}
      {requirement : Requirement} {journal : Journal} (fresh : key ∉ path)
      (found : Entries.get? registry key = some fragment)
      (resolved : fragment.prerequisite.resolve search.request search.journal =
        (.ok requirement, journal)) :
      Settles registry path (key :: rest) search key requirement
  | under {path rest names : List String} {key other : String} {search middle : Search}
      {fragment : Fragment} {requirement : Requirement} (fresh : key ∉ path)
      (found : Entries.get? registry key = some fragment)
      (required : requirements registry key fragment (search.visit key path.length) =
        (.ok names, middle))
      (settled : Settles registry (path ++ [key]) names middle other requirement) :
      Settles registry path (key :: rest) search other requirement
  | later {path rest names : List String} {key other : String} {search middle left : Search}
      {fragment : Fragment} {requirement : Requirement} (fresh : key ∉ path)
      (found : Entries.get? registry key = some fragment)
      (required : requirements registry key fragment (search.visit key path.length) =
        (.ok names, middle))
      (visited : visitAll registry (path ++ [key]) names middle = (.ok (), left))
      (settled : Settles registry path rest left other requirement) :
      Settles registry path (key :: rest) search other requirement
  | skipped {rest : List String} {key other : String} {search : Search} {requirement : Requirement}
      (missing : Entries.get? registry key = none)
      (settled : Settles registry [] rest search other requirement) :
      Settles registry [] (key :: rest) search other requirement

variable {registry : Registry} {path keys : List String} {search left : Search} {key : String}
  {requirement : Requirement}

/-- What is settled is what the prerequisite of the key resolves to. -/
theorem Settles.resolved (h : Settles registry path keys search key requirement) :
    ∃ fragment request journal entries, Entries.get? registry key = some fragment ∧
      fragment.prerequisite.resolve request journal = (.ok requirement, entries) := by
  induction h with
  | met _ found resolved => exact ⟨_, _, _, _, found, resolved⟩
  | under _ _ _ _ ih => exact ih
  | later _ _ _ _ _ ih => exact ih
  | skipped _ _ ih => exact ih

/-- A prerequisite that is settled in the registry is settled as what it is. -/
theorem Settles.eq_of_settled {fragment : Fragment} {own : Requirement}
    (h : Settles registry path keys search key requirement)
    (hfound : Entries.get? registry key = some fragment)
    (hsettled : fragment.prerequisite = .settled own) : requirement = own := by
  obtain ⟨held, request, journal, entries, hheld, hresolved⟩ := h.resolved
  rw [hfound] at hheld
  cases hheld
  rw [hsettled] at hresolved
  cases hresolved
  rfl

theorem request_applyPatch (search : Search) (key : String) (change : Request) :
    (search.applyPatch key change).request = search.request ∨
      (search.applyPatch key change).request = search.request.update change := by
  rw [Search.applyPatch]
  split
  · exact Or.inl rfl
  · exact Or.inr rfl

theorem required_ok_inv {names : List String}
    (h : required registry key requirement search = (.ok names, left)) :
    names = requirement.asked registry ∧ left = search.obey key requirement := by
  cases requirement with
  | none => cases h; exact ⟨rfl, rfl⟩
  | names listed => cases h; exact ⟨rfl, rfl⟩
  | mixed listed => cases h
  | patch change =>
      rw [required, Action.bind_apply, Action.modify_apply] at h
      cases h
      exact ⟨rfl, rfl⟩

theorem obey_with_journal (search : Search) (journal : Journal) (key : String)
    (requirement : Requirement) :
    ({ search with journal } : Search).obey key requirement =
      { search.obey key requirement with
        journal := (({ search with journal } : Search).obey key requirement).journal } := by
  cases requirement with
  | patch change =>
      rw [Search.obey, Search.obey, Search.applyPatch, Search.applyPatch]
      split
      · rfl
      · rfl
  | _ => rfl

/-- Settling what a key requires changes nothing but the journal and what its patch changes. -/
theorem requirements_ok_eq {fragment : Fragment} {names : List String}
    (h : requirements registry key fragment search = (.ok names, left)) :
    ∃ requirement journal entries,
      fragment.prerequisite.resolve search.request search.journal = (.ok requirement, journal) ∧
        names = requirement.asked registry ∧
        left = { search.obey key requirement with journal := entries } := by
  rw [requirements, Action.bind_apply, Action.get_apply] at h
  dsimp only at h
  obtain ⟨requirement, resolved, hresolved, h⟩ := Action.bind_ok_inv h
  obtain ⟨asked, middle, hasked, h⟩ := Action.bind_ok_inv h
  obtain ⟨rfl, rfl⟩ := required_ok_inv hasked
  rw [Action.onJournal] at hresolved
  obtain ⟨houtcome, rfl⟩ := Prod.mk.inj hresolved
  rw [obey_with_journal] at h
  split at h
  · cases h
    exact ⟨requirement, _, _, Prod.ext houtcome rfl, rfl, rfl⟩
  · cases h
    exact ⟨requirement, _, _, Prod.ext houtcome rfl, rfl, rfl⟩

theorem requirements_ok_inv {fragment : Fragment} {names : List String}
    (h : requirements registry key fragment search = (.ok names, left)) :
    ∃ requirement journal,
      fragment.prerequisite.resolve search.request search.journal = (.ok requirement, journal) ∧
        names = requirement.asked registry ∧
        left.request = (search.obey key requirement).request ∧
        left.patched = (search.obey key requirement).patched := by
  obtain ⟨requirement, journal, entries, hresolved, hnames, rfl⟩ := requirements_ok_eq h
  exact ⟨requirement, journal, hresolved, hnames, rfl, rfl⟩

theorem search_ok_inv (h : Closure.search registry search = (.ok keys, left)) :
    visitAll registry [] search.request.keys search = (.ok (), left) := by
  rw [Closure.search, Action.bind_apply, Action.get_apply] at h
  dsimp only at h
  obtain ⟨_, middle, hvisited, hclosed⟩ := Action.bind_ok_inv h
  cases hclosed
  exact hvisited

/-- What every visit that settles a requirement keeps, the search keeps. -/
theorem visitAll_preserves (kept : Search → Prop)
    (hkept : ∀ key requirement, Settles registry path keys search key requirement →
      ∀ (current : Search) (depth : Nat) (entries : Journal), kept current →
        kept { (current.visit key depth).obey key requirement with journal := entries })
    (hstart : kept search)
    (hdone : visitAll registry path keys search = (.ok (), left)) :
    kept left := by
  induction path, keys using visitAll.induct registry generalizing search left with
  | case1 path =>
      rw [visitAll] at hdone
      cases hdone
      exact hstart
  | case2 path key rest hcycle =>
      rw [visitAll_cons_of_mem hcycle] at hdone
      cases hdone
  | case3 path key rest hfresh hmissing hempty ih =>
      rw [visitAll_cons_of_missing hfresh hmissing, if_pos hempty] at hdone
      obtain rfl := List.isEmpty_iff.mp hempty
      exact ih (fun key requirement h => hkept key requirement (.skipped hmissing h)) hstart hdone
  | case4 path key rest hfresh hmissing hempty =>
      rw [visitAll_cons_of_missing hfresh hmissing, if_neg hempty] at hdone
      cases hdone
  | case5 path key rest hfresh fragment hfound ihnames ihrest =>
      rw [visitAll_cons_of_get? hfresh hfound, Action.bind_apply, Action.modify_apply] at hdone
      dsimp only at hdone
      obtain ⟨names, middle, hrequired, hdone⟩ := Action.bind_ok_inv hdone
      obtain ⟨_, last, hbelow, hrest⟩ := Action.bind_ok_inv hdone
      obtain ⟨requirement, journal, entries, hresolved, _, hmiddle⟩ := requirements_ok_eq hrequired
      -- The prerequisite of the key itself, what is visited under it, and the keys after it.
      have hhere : kept middle := by
        rw [hmiddle]
        exact hkept key requirement (.met hfresh hfound hresolved) search path.length entries hstart
      have hlast := ihnames names
        (fun key requirement h => hkept key requirement (.under hfresh hfound hrequired h)) hhere
        hbelow
      exact ihrest
        (fun key requirement h => hkept key requirement (.later hfresh hfound hrequired hbelow h))
        hlast hrest

/-- What every settled patch keeps of the request and the patched keys, the search keeps. -/
theorem visitAll_keeps (kept : Request → List String → Prop)
    (hkept : ∀ key change, Settles registry path keys search key (.patch change) →
      ∀ current : Search, kept current.request current.patched →
        kept (current.applyPatch key change).request (current.applyPatch key change).patched)
    (hstart : kept search.request search.patched)
    (hdone : visitAll registry path keys search = (.ok (), left)) :
    kept left.request left.patched := by
  refine visitAll_preserves (fun current => kept current.request current.patched) ?_ hstart hdone
  intro key requirement hsettled current depth entries hcurrent
  cases requirement with
  | patch change => exact hkept key change hsettled (current.visit key depth) hcurrent
  | _ => exact hcurrent

theorem patched_subset_visitAll (hdone : visitAll registry path keys search = (.ok (), left)) :
    search.patched ⊆ left.patched := by
  refine visitAll_keeps (fun _ patched => search.patched ⊆ patched) ?_ (List.Subset.refl _) hdone
  intro key change _ current hcurrent
  rw [Search.applyPatch]
  split
  · exact hcurrent
  · exact List.subset_append_of_subset_left _ hcurrent

/-- A search that ends well has visited every registered key it was given, with what it requires. -/
theorem exists_visit_of_mem {fragment : Fragment}
    (hfound : Entries.get? registry key = some fragment) (hmem : key ∈ keys)
    (hdone : visitAll registry path keys search = (.ok (), left)) :
    ∃ before names middle last,
      requirements registry key fragment before = (.ok names, middle) ∧
      visitAll registry (path ++ [key]) names middle = (.ok (), last) ∧
      middle.patched ⊆ left.patched := by
  induction keys generalizing search with
  | nil => cases hmem
  | cons first rest ih =>
      by_cases hfresh : first ∈ path
      · rw [visitAll_cons_of_mem hfresh] at hdone
        cases hdone
      cases hfirst : Entries.get? registry first with
      | none =>
          rw [visitAll_cons_of_missing hfresh hfirst] at hdone
          split at hdone
          · refine ih ((List.mem_cons.mp hmem).resolve_left ?_) hdone
            rintro rfl
            rw [hfirst] at hfound
            cases hfound
          · cases hdone
      | some held =>
          rw [visitAll_cons_of_get? hfresh hfirst, Action.bind_apply, Action.modify_apply] at hdone
          dsimp only at hdone
          obtain ⟨names, middle, hrequired, hdone⟩ := Action.bind_ok_inv hdone
          obtain ⟨_, last, hbelow, hrest⟩ := Action.bind_ok_inv hdone
          rcases List.mem_cons.mp hmem with rfl | hlater
          · rw [hfirst] at hfound
            cases hfound
            exact ⟨_, names, middle, last, hrequired, hbelow,
              fun _ h => patched_subset_visitAll hrest (patched_subset_visitAll hbelow h)⟩
          · exact ih hlater hrest

/-- Under a key there is no name without a fragment in a search that ends well. -/
theorem registered_of_visitAll (hpath : path ≠ [])
    (hdone : visitAll registry path keys search = (.ok (), left)) :
    ∀ key ∈ keys, key ∈ Entries.keys registry := by
  intro key hmem
  induction keys generalizing search with
  | nil => cases hmem
  | cons first rest ih =>
      by_cases hfresh : first ∈ path
      · rw [visitAll_cons_of_mem hfresh] at hdone
        cases hdone
      cases hfirst : Entries.get? registry first with
      | none =>
          rw [visitAll_cons_of_missing hfresh hfirst, if_neg (by simpa using hpath)] at hdone
          cases hdone
      | some held =>
          rw [visitAll_cons_of_get? hfresh hfirst] at hdone
          obtain ⟨_, _, _, hdone⟩ := Action.bind_ok_inv hdone
          obtain ⟨_, _, _, hdone⟩ := Action.bind_ok_inv hdone
          obtain ⟨_, _, _, hrest⟩ := Action.bind_ok_inv hdone
          rcases List.mem_cons.mp hmem with rfl | hlater
          · exact Entries.mem_keys_of_get? hfirst
          · exact ih hrest hlater

section Kept

universe u

variable {α : Type u} (view : Request → α)

/-- What no settled patch changes in a request is there after the search. -/
theorem request_visitAll
    (hkept : ∀ key change, Settles registry path keys search key (.patch change) →
      ∀ request : Request, view (request.update change) = view request)
    (hdone : visitAll registry path keys search = (.ok (), left)) :
    view left.request = view search.request := by
  refine visitAll_keeps (fun request _ => view request = view search.request) ?_ rfl hdone
  intro key change hsettled current hcurrent
  rcases request_applyPatch current key change with hsame | hchanged
  · rw [hsame, hcurrent]
  · rw [hchanged, hkept key change hsettled, hcurrent]

end Kept

end Closure

end QueryWeave

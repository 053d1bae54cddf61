import QueryWeave.Proofs.Closure.Trail

namespace QueryWeave

/-- Settling a prerequisite of the registry ends in a failure. -/
inductive Registry.Answers (registry : Registry) (failure : Failure) : Prop
  | intro (key : String) (fragment : Fragment) (request : Request) (journal : Journal)
      (found : Entries.get? registry key = some fragment)
      (answered : (fragment.prerequisite.resolve request journal).1 = .error failure)

namespace Closure

/-- The failures that a search finds by itself. -/
inductive Finding : Failure → Prop
  | cycle (path : List String) : Finding (.cycle path)
  | missing (key : String) (path : List String) : Finding (.prerequisiteNotFound key path)
  | mixed : Finding .wrongType

variable {registry : Registry} {failure : Failure}

theorem required_error_inv {key : String} {requirement : Requirement} {start left : Search}
    (h : required registry key requirement start = (.error failure, left)) :
    failure = .wrongType := by
  cases requirement with
  | none => cases h
  | names names => cases h
  | mixed names =>
      cases h
      rfl
  | patch change => cases h

theorem cause_of_requirements {key : String} {fragment : Fragment} {start left : Search}
    (hfound : Entries.get? registry key = some fragment)
    (h : requirements registry key fragment start = (.error failure, left)) :
    failure = .wrongType ∨ registry.Answers failure := by
  rcases Action.bind_error_inv h with hget | ⟨current, _, _, h⟩
  · cases hget
  rcases Action.bind_error_inv h with hresolve | ⟨requirement, _, _, h⟩
  · exact Or.inr (.intro key fragment _ _ hfound (congrArg Prod.fst hresolve))
  rcases Action.bind_error_inv h with hrequired | ⟨names, _, _, h⟩
  · exact Or.inl (required_error_inv hrequired)
  · split at h
    · cases h
    · cases h

theorem cause_of_visitAll {path keys : List String} {start left : Search}
    (h : visitAll registry path keys start = (.error failure, left)) :
    Finding failure ∨ registry.Answers failure := by
  induction path, keys using visitAll.induct registry generalizing start left with
  | case1 path =>
      rw [visitAll] at h
      cases h
  | case2 path key rest hcycle =>
      rw [visitAll_cons_of_mem hcycle] at h
      cases h
      exact Or.inl (.cycle _)
  | case3 path key rest hfresh hmissing hempty ih =>
      rw [visitAll_cons_of_missing hfresh hmissing, if_pos hempty] at h
      exact ih h
  | case4 path key rest hfresh hmissing hempty =>
      rw [visitAll_cons_of_missing hfresh hmissing, if_neg hempty] at h
      cases h
      exact Or.inl (.missing _ _)
  | case5 path key rest hfresh fragment hfound ihnames ihrest =>
      rw [visitAll_cons_of_get? hfresh hfound] at h
      rcases Action.bind_error_inv h with hvisit | ⟨_, _, _, h⟩
      · cases hvisit
      rcases Action.bind_error_inv h with hrequirements | ⟨names, _, _, h⟩
      · refine (cause_of_requirements hfound hrequirements).imp_left ?_
        rintro rfl
        exact .mixed
      rcases Action.bind_error_inv h with hnames | ⟨_, _, _, hrest⟩
      · exact ihnames names hnames
      · exact ihrest hrest

/-- A key that is reported missing is one that the last key of the path asks for, unless the failure
is the answer of a prerequisite. -/
theorem cause_of_missing {path keys route : List String} {missing : String} {start left : Search}
    (h : visitAll registry path keys start = (.error (.prerequisiteNotFound missing route), left)) :
    registry.Answers (.prerequisiteNotFound missing route) ∨ missing ∉ Entries.keys registry ∧
      (route = path ∧ missing ∈ keys ∨
        ∃ key fragment before names middle, route.getLast? = some key ∧
          Entries.get? registry key = some fragment ∧
          requirements registry key fragment before = (.ok names, middle) ∧ missing ∈ names) := by
  induction path, keys using visitAll.induct registry generalizing start left with
  | case1 path =>
      rw [visitAll] at h
      cases h
  | case2 path key rest hcycle =>
      rw [visitAll_cons_of_mem hcycle] at h
      cases h
  | case3 path key rest hfresh hmissing hempty ih =>
      rw [visitAll_cons_of_missing hfresh hmissing, if_pos hempty] at h
      rcases ih h with hanswer | ⟨hnot, ⟨hroute, hmem⟩ | hasked⟩
      · exact Or.inl hanswer
      · exact Or.inr ⟨hnot, Or.inl ⟨hroute, List.mem_cons_of_mem _ hmem⟩⟩
      · exact Or.inr ⟨hnot, Or.inr hasked⟩
  | case4 path key rest hfresh hmissing hempty =>
      rw [visitAll_cons_of_missing hfresh hmissing, if_neg hempty] at h
      cases h
      exact Or.inr ⟨Entries.get?_eq_none_iff.mp hmissing, Or.inl ⟨rfl, List.mem_cons_self⟩⟩
  | case5 path key rest hfresh fragment hfound ihnames ihrest =>
      rw [visitAll_cons_of_get? hfresh hfound] at h
      rcases Action.bind_error_inv h with hvisit | ⟨_, _, _, h⟩
      · cases hvisit
      rcases Action.bind_error_inv h with hrequirements | ⟨names, middle, hrequired, h⟩
      · refine Or.inl ((cause_of_requirements hfound hrequirements).resolve_left ?_)
        rintro ⟨⟩
      rcases Action.bind_error_inv h with hnames | ⟨_, _, _, hrest⟩
      · rcases ihnames names hnames with hanswer | ⟨hnot, ⟨rfl, hmem⟩ | hasked⟩
        · exact Or.inl hanswer
        · exact Or.inr ⟨hnot, Or.inr
            ⟨key, fragment, _, names, middle, List.getLast?_concat, hfound, hrequired, hmem⟩⟩
        · exact Or.inr ⟨hnot, Or.inr hasked⟩
      · rcases ihrest hrest with hanswer | ⟨hnot, ⟨hroute, hmem⟩ | hasked⟩
        · exact Or.inl hanswer
        · exact Or.inr ⟨hnot, Or.inl ⟨hroute, List.mem_cons_of_mem _ hmem⟩⟩
        · exact Or.inr ⟨hnot, Or.inr hasked⟩

theorem search_error_inv {start left : Search} (h : search registry start = (.error failure, left)) :
    visitAll registry [] start.request.keys start = (.error failure, left) := by
  rcases Action.bind_error_inv h with hget | ⟨current, middle, hget, h⟩
  · cases hget
  cases hget
  rcases Action.bind_error_inv h with hvisits | ⟨_, _, _, h⟩
  · exact hvisits
  · cases h

theorem cause_of_search {start : Search}
    (h : (search registry start).1 = .error failure) :
    Finding failure ∨ registry.Answers failure :=
  cause_of_visitAll (search_error_inv (Prod.ext h rfl))

end Closure

end QueryWeave

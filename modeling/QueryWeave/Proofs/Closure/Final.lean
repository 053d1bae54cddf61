import QueryWeave.Proofs.Closure.Route
import QueryWeave.Proofs.Request.Keys

namespace QueryWeave

namespace Search

def weight (search : Search) (key : String) : Nat :=
  (Entries.get? search.weights key).getD 0

theorem obey_weights (search : Search) (key : String) (requirement : Requirement) :
    (search.obey key requirement).weights = search.weights := by
  cases requirement with
  | none => rfl
  | names listed => rfl
  | mixed listed => rfl
  | patch change =>
      rw [obey, applyPatch]
      split
      · rfl
      · rfl

theorem obey_request (search : Search) (key : String) (requirement : Requirement) :
    (search.obey key requirement).request = search.request ∨
      ∃ change, requirement = .patch change ∧
        (search.obey key requirement).request = search.request.update change := by
  cases requirement with
  | none => exact Or.inl rfl
  | names listed => exact Or.inl rfl
  | mixed listed => exact Or.inl rfl
  | patch change =>
      rw [obey, applyPatch]
      split
      · exact Or.inl rfl
      · exact Or.inr ⟨change, rfl, rfl⟩

theorem noteRequired_weights (search : Search) (key : String) (names : List String) :
    (search.noteRequired key names).weights = search.weights := by
  rw [noteRequired]
  split
  · rfl
  · rfl

theorem noteRequired_request (search : Search) (key : String) (names : List String) :
    (search.noteRequired key names).request = search.request := by
  rw [noteRequired]
  split
  · rfl
  · rfl

variable {registry : Registry} {search : Search} {visit : Visit}

theorem meet_weights : (search.meet registry visit).weights =
    Entries.put search.weights visit.key (search.weight visit.key + visit.path.length) := by
  rw [meet, noteRequired_weights, obey_weights]
  rfl

theorem meet_request (registry : Registry) (search : Search) (visit : Visit) :
    (search.meet registry visit).request = search.request ∨
    ∃ change, registry.requirementOf visit.key = .patch change ∧
      (search.meet registry visit).request = search.request.update change := by
  rw [meet, noteRequired_request]
  exact obey_request _ _ _

theorem weight_meet (key : String) : (search.meet registry visit).weight key =
    search.weight key + if visit.key = key then visit.path.length else 0 := by
  rw [weight, meet_weights]
  split
  next h =>
    rw [← h, Entries.get?_put_self]
    rfl
  next h =>
    rw [Entries.get?_put_of_ne _ _ h, Nat.add_zero]
    rfl

theorem keys_weights_meet : Entries.keys (search.meet registry visit).weights =
    addEntry some (Entries.keys search.weights) visit.key := by
  rw [meet_weights, Entries.keys_put, addEntry_some]

end Search

namespace Trail

/-- What the visits to a key are worth together, each by its path. -/
def total (worth : List String → Nat) : List Visit → String → Nat
  | [], _ => 0
  | visit :: rest, key =>
      (if visit.key = key then worth visit.path else 0) + total worth rest key

/-- The keys met, in order of first visit. -/
def firstMet (visits : List Visit) : List String :=
  addEntries some [] (visits.map Visit.key)

/-- The sum of the depths at which visits meet a key. -/
abbrev load : List Visit → String → Nat :=
  total List.length

variable {worth : List String → Nat} {visits : List Visit} {key : String}

theorem total_cons (visit : Visit) (rest : List Visit) :
    total worth (visit :: rest) key =
      (if visit.key = key then worth visit.path else 0) + total worth rest key :=
  rfl

theorem total_append (first second : List Visit) :
    total worth (first ++ second) key = total worth first key + total worth second key := by
  induction first with
  | nil => exact (Nat.zero_add _).symm
  | cons visit rest ih => rw [List.cons_append, total_cons, total_cons, ih, Nat.add_assoc]

end Trail

namespace Search

variable {registry : Registry}

theorem weight_foldl_meet (visits : List Visit) (search : Search) (key : String) :
    (visits.foldl (meet registry) search).weight key =
      search.weight key + Trail.load visits key := by
  induction visits generalizing search with
  | nil => rfl
  | cons visit rest ih =>
      rw [List.foldl_cons, ih, weight_meet, Trail.load, Trail.total_cons, Nat.add_assoc]

theorem keys_weights_foldl_meet (visits : List Visit) (search : Search) :
    Entries.keys (visits.foldl (meet registry) search).weights =
      addEntries some (Entries.keys search.weights) (visits.map Visit.key) := by
  induction visits generalizing search with
  | nil => rfl
  | cons visit rest ih =>
      rw [List.foldl_cons, ih, keys_weights_meet, List.map_cons, addEntries_cons]

/-- A patch brings in no keys but its own. -/
theorem mem_keys_foldl_meet {visits : List Visit} {search : Search} {key : String}
    (h : key ∈ (visits.foldl (meet registry) search).request.keys) :
    key ∈ search.request.keys ∨
      ∃ visit ∈ visits, ∃ change, registry.requirementOf visit.key = .patch change ∧
        key ∈ change.keys := by
  induction visits generalizing search with
  | nil => exact Or.inl h
  | cons visit rest ih =>
      rcases ih h with hstep | ⟨later, hmem, hpatch⟩
      · rcases meet_request registry search visit with
          hsame | ⟨change, hchange, hupdate⟩
        · exact Or.inl (hsame ▸ hstep)
        · rw [hupdate, Request.mem_keys_update] at hstep
          rcases hstep with hold | hnew
          · exact Or.inl hold
          · exact Or.inr ⟨visit, List.mem_cons_self, change, hchange, hnew⟩
      · exact Or.inr ⟨later, List.mem_cons_of_mem _ hmem, hpatch⟩

theorem closure_perm (search : Search) : search.closure.Perm (Entries.keys search.weights) :=
  (List.mergeSort_perm _ _).map Prod.fst

end Search

end QueryWeave

import QueryWeave.Proofs.Closure.Final
import QueryWeave.Proofs.Closure.Settles
import QueryWeave.Proofs.Closure.WriteBack
import QueryWeave.Proofs.Key

namespace QueryWeave

namespace Search

theorem keys_weights_visit (search : Search) (key : String) (depth : Nat) {other : String} :
    other ∈ Entries.keys (search.visit key depth).weights ↔
      other ∈ Entries.keys search.weights ∨ other = key :=
  Entries.mem_keys_put

/-- What is met from one state of a search to another. -/
structure Covers (registry : Registry) (keys : List String) (start left : Search) : Prop where
  grown : Entries.keys start.weights ⊆ Entries.keys left.weights
  met : ∀ key ∈ keys, key ∈ Entries.keys registry → key ∈ Entries.keys left.weights
  named : ∀ key ∈ left.request.keys, key ∈ Entries.keys registry →
    key ∈ start.request.keys ∨ key ∈ Entries.keys left.weights
  registered : ∀ key ∈ Entries.keys left.weights,
    key ∈ Entries.keys start.weights ∨ key ∈ Entries.keys registry

theorem covers_nil (registry : Registry) (search : Search) : Covers registry [] search search where
  grown := List.Subset.refl _
  met _ hmem := absurd hmem List.not_mem_nil
  named _ hmem _ := Or.inl hmem
  registered _ hmem := Or.inl hmem

/-- A visit to a key and to what it requires, and then the visits to the keys after it. -/
theorem Covers.cons {registry : Registry} {key : String} {rest : List String} {depth : Nat}
    {requirement : Requirement} {entries : Journal} {search below left : Search}
    (hkey : key ∈ Entries.keys registry)
    (hbelow : Covers registry (requirement.asked registry)
      { (search.visit key depth).obey key requirement with journal := entries } below)
    (hrest : Covers registry rest below left) : Covers registry (key :: rest) search left := by
  have hweights (other : String) :
      other ∈ Entries.keys ((search.visit key depth).obey key requirement).weights ↔
        other ∈ Entries.keys search.weights ∨ other = key := by
    rw [obey_weights]
    exact search.keys_weights_visit key depth
  refine ⟨?_, ?_, ?_, ?_⟩
  · intro other hother
    exact hrest.grown (hbelow.grown ((hweights other).mpr (.inl hother)))
  · intro other hother hregistered
    rcases List.mem_cons.mp hother with rfl | hlater
    · exact hrest.grown (hbelow.grown ((hweights other).mpr (.inr rfl)))
    · exact hrest.met other hlater hregistered
  · intro other hother hregistered
    rcases hrest.named other hother hregistered with hearlier | hmet
    · rcases hbelow.named other hearlier hregistered with hasked | hmet
      · rcases (search.visit key depth).obey_request key requirement with
          hsame | ⟨change, rfl, hchanged⟩
        · rw [hsame] at hasked
          exact .inl hasked
        · rw [hchanged, Request.mem_keys_update] at hasked
          rcases hasked with hold | hnew
          · exact .inl hold
          · have hnamed : other ∈ Requirement.asked registry (.patch change) :=
              List.mem_filter.mpr ⟨hnew, Entries.has_iff.mpr hregistered⟩
            exact .inr (hrest.grown (hbelow.met other hnamed hregistered))
      · exact .inr (hrest.grown hmet)
    · exact .inr hmet
  · intro other hother
    rcases hrest.registered other hother with hearlier | hregistered
    · rcases hbelow.registered other hearlier with hvisited | hregistered
      · rcases (hweights other).mp hvisited with hold | rfl
        · exact .inl hold
        · exact .inr hkey
      · exact .inr hregistered
    · exact .inr hregistered

end Search

namespace Closure

variable {registry : Registry} {path keys : List String} {search left : Search}

theorem covers_visitAll (hdone : visitAll registry path keys search = (.ok (), left)) :
    Search.Covers registry keys search left := by
  induction path, keys using visitAll.induct registry generalizing search left with
  | case1 path =>
      rw [visitAll] at hdone
      cases hdone
      exact Search.covers_nil registry search
  | case2 path key rest hcycle =>
      rw [visitAll_cons_of_mem hcycle] at hdone
      cases hdone
  | case3 path key rest hfresh hmissing hempty ih =>
      rw [visitAll_cons_of_missing hfresh hmissing, if_pos hempty] at hdone
      have hrest := ih hdone
      refine ⟨hrest.grown, ?_, hrest.named, hrest.registered⟩
      intro other hother hregistered
      rcases List.mem_cons.mp hother with rfl | hlater
      · obtain ⟨fragment, hfound⟩ := Entries.exists_get?_of_mem_keys hregistered
        rw [hmissing] at hfound
        cases hfound
      · exact hrest.met other hlater hregistered
  | case4 path key rest hfresh hmissing hempty =>
      rw [visitAll_cons_of_missing hfresh hmissing, if_neg hempty] at hdone
      cases hdone
  | case5 path key rest hfresh fragment hfound ihnames ihrest =>
      rw [visitAll_cons_of_get? hfresh hfound, Action.bind_apply, Action.modify_apply] at hdone
      dsimp only at hdone
      obtain ⟨names, middle, hrequired, hdone⟩ := Action.bind_ok_inv hdone
      obtain ⟨_, below, hbelow, hrest⟩ := Action.bind_ok_inv hdone
      obtain ⟨requirement, journal, entries, _, rfl, rfl⟩ := requirements_ok_eq hrequired
      exact (ihnames _ hbelow).cons (Entries.mem_keys_of_get? hfound) (ihrest hrest)

theorem asked_visitAll (hdone : visitAll registry path keys search = (.ok (), left)) (kind : Kind) :
    search.request.asked kind ⊆ left.request.asked kind := by
  refine visitAll_keeps (fun request _ => search.request.asked kind ⊆ request.asked kind) ?_
    (List.Subset.refl _) hdone
  intro key change _ current hcurrent
  rcases request_applyPatch current key change with hsame | hchanged
  · rw [hsame]
    exact hcurrent
  · rw [hchanged]
    exact fun name hname => Request.mem_asked_update.mpr (.inl (hcurrent hname))

theorem closure_of_search (hdone : Closure.search registry search = (.ok keys, left)) :
    keys = left.closure := by
  rw [Closure.search, Action.bind_apply, Action.get_apply] at hdone
  obtain ⟨_, middle, _, hclosed⟩ := Action.bind_ok_inv hdone
  cases hclosed
  rfl

/-- After a search that ends well the closure is those of the registered keys that were met, with every
one that the request names. -/
theorem covers_search (hweights : search.weights = [])
    (hdone : Closure.search registry search = (.ok keys, left)) :
    (∀ key ∈ left.request.keys, key ∈ Entries.keys registry → key ∈ keys) ∧
      ∀ key ∈ keys, key ∈ Entries.keys registry := by
  have hcovers := covers_visitAll (search_ok_inv hdone)
  obtain rfl := closure_of_search hdone
  constructor
  · intro key hnamed hregistered
    rw [left.closure_perm.mem_iff]
    rcases hcovers.named key hnamed hregistered with hstart | hmet
    · exact hcovers.met key hstart hregistered
    · exact hmet
  · intro key hclosed
    have hmet := left.closure_perm.mem_iff.mp hclosed
    rcases hcovers.registered key hmet with hstart | hregistered
    · rw [hweights] at hstart
      cases hstart
    · exact hregistered

section Closed

variable {kind : Kind} {name : String} (hweights : search.weights = [])
  (hdone : Closure.search registry search = (.ok keys, left))

include hweights hdone

theorem mem_asked_closed_iff : name ∈ (writeBack registry keys left.request).asked kind ↔
    name ∈ left.request.asked kind ∨ name ∈ namesOf kind keys :=
  mem_asked_writeBack fun _ hname =>
    (covers_search hweights hdone).2 _ (mem_of_mem_namesOf_filter hname)

/-- A closed request asks for a fragment of a kind that marks its keys if the search has met it. -/
theorem mem_asked_closed_iff_met (hkind : kind ≠ .filter)
    (hregistered : (Key.mk kind name).render ∈ Entries.keys registry) :
    name ∈ (writeBack registry keys left.request).asked kind ↔
      (Key.mk kind name).render ∈ Entries.keys left.weights := by
  rw [mem_asked_closed_iff hweights hdone, ← left.closure_perm.mem_iff, ← closure_of_search hdone,
    mem_namesOf]
  constructor
  · rintro (hasked | ⟨key, hkey, hparse⟩)
    · exact (covers_search hweights hdone).1 _ (Request.mem_keys.mpr ⟨kind, name, hasked, rfl⟩)
        hregistered
    · rw [← hparse, Key.render_parse]
      exact hkey
  · exact fun hkey => .inr ⟨_, hkey, Key.parse_render hkind name⟩

end Closed

end Closure

end QueryWeave

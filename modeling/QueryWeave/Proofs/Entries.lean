import QueryWeave.Entries

namespace QueryWeave

universe u

theorem eraseDups_append_singleton {α : Type u} [DecidableEq α] (items : List α) (item : α) :
    (items ++ [item]).eraseDups =
      if item ∈ items then items.eraseDups else items.eraseDups ++ [item] := by
  rw [List.eraseDups_append, List.removeAll]
  by_cases hmem : item ∈ items
  · rw [if_pos hmem, List.filter_cons_of_neg (by simpa using hmem), List.filter_nil,
      List.eraseDups_nil, List.append_nil]
  · rw [if_neg hmem, List.filter_cons_of_pos (by simpa using hmem), List.filter_nil]
    rfl

namespace Entries

variable {α : Type u} {entries left right : Entries α} {key other : String} {value : α}

theorem has_iff : has entries key = true ↔ key ∈ keys entries := by
  rw [has, Option.isSome_iff_ne_none, ne_eq, get?_eq_none_iff, Classical.not_not]

theorem exists_get?_of_mem_keys (h : key ∈ keys entries) :
    ∃ value, get? entries key = some value := by
  rw [← has_iff, has] at h
  exact Option.isSome_iff_exists.mp h

theorem mem_keys_put : other ∈ keys (put entries key value) ↔
    other ∈ keys entries ∨ other = key := by
  rw [keys_put]
  split
  next hmem =>
    constructor
    · exact Or.inl
    · rintro (h | rfl)
      · exact h
      · exact hmem
  next => simp

theorem has_put_of_ne (hne : key ≠ other) :
    has (put entries key value) other = has entries other := by
  rw [has, has, get?_put_of_ne entries value hne]

theorem put_of_not_mem (h : key ∉ keys entries) :
    put entries key value = entries ++ [(key, value)] := by
  induction entries with
  | nil => rfl
  | cons pair rest ih =>
      obtain ⟨held, first⟩ := pair
      rw [keys_cons, List.mem_cons, not_or] at h
      rw [put, if_neg (Ne.symm h.1), ih h.2, List.cons_append]

theorem put_of_get? (h : get? entries key = some value) : put entries key value = entries := by
  induction entries with
  | nil => cases h
  | cons pair rest ih =>
      obtain ⟨held, first⟩ := pair
      rw [get?] at h
      rw [put]
      split at h
      next heq =>
        cases h
        rw [if_pos heq]
      next hne => rw [if_neg hne, ih h]

theorem mem_of_get? (h : get? entries key = some value) : (key, value) ∈ entries := by
  induction entries with
  | nil => cases h
  | cons pair rest ih =>
      obtain ⟨held, first⟩ := pair
      rw [get?] at h
      split at h
      next heq =>
        cases h
        rw [heq]
        exact List.mem_cons_self
      next => exact List.mem_cons_of_mem _ (ih h)

theorem get?_cons_self (entries : Entries α) (key : String) (value : α) :
    get? ((key, value) :: entries) key = some value :=
  if_pos rfl

theorem get?_cons_of_ne (hne : key ≠ other) :
    get? ((key, value) :: entries) other = get? entries other :=
  if_neg hne

theorem get?_of_mem (hnodup : (keys entries).Nodup) (h : (key, value) ∈ entries) :
    get? entries key = some value := by
  induction entries with
  | nil => cases h
  | cons pair rest ih =>
      obtain ⟨held, first⟩ := pair
      rw [keys_cons, List.nodup_cons] at hnodup
      rcases List.mem_cons.mp h with heq | hrest
      · cases heq
        exact get?_cons_self rest key value
      · have hmem : key ∈ keys rest := List.mem_map.mpr ⟨_, hrest, rfl⟩
        have hne : held ≠ key := fun heq => hnodup.1 (heq ▸ hmem)
        rw [get?_cons_of_ne hne]
        exact ih hnodup.2 hrest

/-- Entries are told apart by their keys and what stands under them. -/
theorem ext_get? (hkeys : keys left = keys right) (hnodup : (keys left).Nodup)
    (h : ∀ key ∈ keys left, get? left key = get? right key) : left = right := by
  induction left generalizing right with
  | nil => exact (List.map_eq_nil_iff.mp hkeys.symm).symm
  | cons pair rest ih =>
      obtain ⟨key, value⟩ := pair
      cases right with
      | nil => cases hkeys
      | cons other others =>
          obtain ⟨key', value'⟩ := other
          rw [keys_cons, keys_cons, List.cons.injEq] at hkeys
          obtain ⟨rfl, hrest⟩ := hkeys
          rw [keys_cons, List.nodup_cons] at hnodup
          have hvalue := h key List.mem_cons_self
          rw [get?_cons_self, get?_cons_self, Option.some.injEq] at hvalue
          have hothers : rest = others := by
            apply ih hrest hnodup.2
            intro held hheld
            have hne : key ≠ held := fun heq => hnodup.1 (heq ▸ hheld)
            have hsame := h held (List.mem_cons_of_mem _ hheld)
            rw [get?_cons_of_ne hne, get?_cons_of_ne hne] at hsame
            exact hsame
          rw [hvalue, hothers]

theorem get?_eq_find? (entries : Entries α) (key : String) :
    get? entries key = (entries.find? (·.1 == key)).map Prod.snd := by
  induction entries with
  | nil => rfl
  | cons pair rest ih =>
      obtain ⟨held, first⟩ := pair
      by_cases heq : held = key <;> simp [get?, heq, ih]

theorem get?_append (left right : Entries α) (key : String) :
    get? (left ++ right) key = (get? left key).or (get? right key) := by
  rw [get?_eq_find?, List.find?_append, get?_eq_find?, get?_eq_find?, Option.map_or]

theorem get?_reverse_of_nodup (hnodup : (keys entries).Nodup) (key : String) :
    get? entries.reverse key = get? entries key := by
  have hreverse : (keys entries.reverse).Nodup := by
    rw [keys, List.map_reverse]
    exact List.pairwise_reverse.mpr (hnodup.imp Ne.symm)
  cases h : get? entries key with
  | none =>
      rw [get?_eq_none_iff] at h ⊢
      rw [keys, List.map_reverse, List.mem_reverse]
      exact h
  | some value => exact get?_of_mem hreverse (List.mem_reverse.mpr (mem_of_get? h))

/-- Of the pairs put onto entries the last of a key counts. -/
theorem get?_overlay (left right : Entries α) (key : String) :
    get? (overlay left right) key = (get? right.reverse key).or (get? left key) := by
  induction right generalizing left with
  | nil => rfl
  | cons pair rest ih =>
      obtain ⟨held, first⟩ := pair
      have hput : get? (put left held first) key =
          (get? [(held, first)] key).or (get? left key) := by
        by_cases heq : held = key
        · subst heq
          rw [get?_put_self, get?_cons_self, Option.some_or]
        · rw [get?_put_of_ne _ _ heq, get?_cons_of_ne heq, get?_nil, Option.none_or]
      have hstep : overlay left ((held, first) :: rest) = overlay (put left held first) rest := rfl
      rw [hstep, ih, hput, List.reverse_cons, get?_append, Option.or_assoc]

theorem overlay_of_nodup (h : (keys (left ++ right)).Nodup) : overlay left right = left ++ right := by
  induction right generalizing left with
  | nil => exact (List.append_nil left).symm
  | cons pair rest ih =>
      have hfresh : pair.1 ∉ keys left := by
        rw [keys_append, keys_cons, List.nodup_append] at h
        exact fun hmem => h.2.2 _ hmem _ List.mem_cons_self rfl
      have hstep : overlay left (pair :: rest) = overlay (put left pair.1 pair.2) rest := rfl
      rw [hstep, put_of_not_mem hfresh, ih]
      · rw [List.append_assoc, List.singleton_append]
      · rw [List.append_assoc, List.singleton_append]
        exact h

theorem ofPairs_of_nodup (h : (keys entries).Nodup) : ofPairs entries = entries := by
  have hnil : (keys ([] ++ entries)).Nodup := h
  exact overlay_of_nodup hnil

end Entries

end QueryWeave

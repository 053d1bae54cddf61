import QueryWeave.Fragment
import QueryWeave.Proofs.Action.Outcome

/-!
The slots of a fragment stay in ascending order of place, so that a copy, which registers them anew
one after the other, is the fragment itself.  Main statement: `Fragment.copy_eq`.
-/

namespace QueryWeave.Fragment

variable {fragment : Fragment} {place other : Int} {slot held : Slot} {slots : List (Int × Slot)}

/-- The slots are in ascending order of place, one for a place. -/
def Ordered (fragment : Fragment) : Prop :=
  fragment.slots.Pairwise fun first second => first.1 < second.1

theorem slots_register_cons {recipe : Recipe} {prerequisite : Prerequisite}
    {catalogue : Catalogue} :
    (Fragment.mk recipe prerequisite ((other, held) :: slots) catalogue).register place slot =
      ⟨recipe, prerequisite,
        if place < other then (place, slot) :: (other, held) :: slots
        else if place = other then (place, slot) :: slots
        else (other, held) ::
          ((Fragment.mk recipe prerequisite slots catalogue).register place slot).slots,
        catalogue⟩ :=
  rfl

theorem mem_slots_register {pair : Int × Slot}
    (h : pair ∈ (fragment.register place slot).slots) :
    pair = (place, slot) ∨ pair ∈ fragment.slots := by
  obtain ⟨recipe, prerequisite, slots, catalogue⟩ := fragment
  induction slots with
  | nil => exact Or.inl (List.mem_singleton.mp h)
  | cons first rest ih =>
      obtain ⟨other, held⟩ := first
      rw [slots_register_cons] at h
      dsimp only at h
      split at h
      next => exact List.mem_cons.mp h
      next =>
        split at h
        next => exact (List.mem_cons.mp h).imp_right (List.mem_cons_of_mem _)
        next =>
          rcases List.mem_cons.mp h with rfl | hrest
          · exact Or.inr List.mem_cons_self
          · exact (ih hrest).imp_right (List.mem_cons_of_mem _)

theorem Ordered.register (h : fragment.Ordered) (place : Int) (slot : Slot) :
    (fragment.register place slot).Ordered := by
  obtain ⟨recipe, prerequisite, slots, catalogue⟩ := fragment
  rw [Ordered] at h ⊢
  induction slots with
  | nil => exact List.pairwise_singleton _ _
  | cons first rest ih =>
      obtain ⟨other, held⟩ := first
      obtain ⟨hfirst, hrest⟩ := List.pairwise_cons.mp h
      rw [slots_register_cons]
      dsimp only
      split
      next hbefore =>
        refine List.pairwise_cons.mpr ⟨fun pair hmem => ?_, h⟩
        rcases List.mem_cons.mp hmem with rfl | hlater
        · exact hbefore
        · exact Int.lt_trans hbefore (hfirst pair hlater)
      next hnot =>
        split
        next hsame => exact List.pairwise_cons.mpr ⟨hsame ▸ hfirst, hrest⟩
        next hne =>
          refine List.pairwise_cons.mpr ⟨fun pair hmem => ?_, ih hrest⟩
          rcases mem_slots_register hmem with rfl | hlater
          · show other < place
            omega
          · exact hfirst pair hlater

theorem Ordered.foldl_register {α : Type} (h : fragment.Ordered) (items : List α)
    (place : α → Int) (slot : α → Slot) :
    (items.foldl (fun fragment item => fragment.register (place item) (slot item))
      fragment).Ordered := by
  induction items generalizing fragment with
  | nil => exact h
  | cons item rest ih => exact ih (h.register (place item) (slot item))

theorem ordered_ofDraft {source prerequisite : Draft} {fragment : Fragment}
    (h : Fragment.ofDraft source prerequisite = .ok fragment) : fragment.Ordered := by
  obtain ⟨_, _, hrest⟩ := Action.bind_eq_ok_iff.mp h
  obtain ⟨_, _, hmade⟩ := Action.bind_eq_ok_iff.mp hrest
  cases hmade
  exact List.Pairwise.nil

/-- What comes after all slots is put at their end. -/
theorem register_last (h : ∀ pair ∈ fragment.slots, pair.1 < place) :
    fragment.register place slot =
      { fragment with slots := fragment.slots ++ [(place, slot)] } := by
  have hslots : (fragment.register place slot).slots = fragment.slots ++ [(place, slot)] := by
    obtain ⟨recipe, prerequisite, slots, catalogue⟩ := fragment
    induction slots with
    | nil => rfl
    | cons first rest ih =>
        obtain ⟨other, held⟩ := first
        obtain ⟨hfirst, hrest⟩ := List.forall_mem_cons.mp h
        have hother : other < place := hfirst
        rw [slots_register_cons, if_neg (by omega), if_neg (by omega)]
        exact congrArg _ (ih hrest)
  rw [← hslots]
  rfl

/-- Slots that come after all that are there follow them in order. -/
theorem foldl_register_last (later : List (Int × Slot))
    (h : { fragment with slots := fragment.slots ++ later }.Ordered) :
    later.foldl (fun copied pair => copied.register pair.1 pair.2) fragment =
      { fragment with slots := fragment.slots ++ later } := by
  induction later generalizing fragment with
  | nil => rw [List.append_nil, List.foldl_nil]
  | cons pair rest ih =>
      -- what has been copied so far comes before the next slot
      have hbefore : ∀ held ∈ fragment.slots, held.1 < pair.1 := fun held hmem =>
        (List.pairwise_append.mp h).2.2 held hmem pair List.mem_cons_self
      rw [List.foldl_cons, register_last hbefore, ih]
      · rw [List.append_assoc, List.singleton_append]
      · rw [List.append_assoc, List.singleton_append]
        exact h

theorem copy_eq (h : fragment.Ordered) : fragment.copy = fragment :=
  foldl_register_last fragment.slots h

end QueryWeave.Fragment

import QueryWeave.Proofs.Request.Patched

/-!
Objects merged at every depth, member by member.  Main statements: `Datum.deepMerge_assoc`, merging
two objects onto a third in turn is merging them with each other first, unless something between two
objects is none; `Datum.deepMerge_twice`, merging an object again changes nothing.
-/

namespace QueryWeave

namespace Entries

/-- The keys are distinct, and so are those of every object among the values. -/
inductive Keyed : Entries Datum → Prop
  | mk {entries : Entries Datum} (nodup : (keys entries).Nodup)
      (inner : ∀ key members, get? entries key = some (.object members) → Keyed members) :
      Keyed entries

namespace Keyed

variable {entries members : Entries Datum} {key : String}

theorem nodup (h : entries.Keyed) : (keys entries).Nodup := by
  obtain ⟨hnodup, _⟩ := h
  exact hnodup

theorem inner (h : entries.Keyed) (hfound : get? entries key = some (.object members)) :
    members.Keyed := by
  obtain ⟨_, hinner⟩ := h
  exact hinner key members hfound

theorem of_plain (hnodup : (keys entries).Nodup)
    (h : ∀ pair ∈ entries, ∀ members, pair.2 ≠ .object members) : entries.Keyed := by
  refine ⟨hnodup, ?_⟩
  intro key members hfound
  exact absurd rfl (h _ (mem_of_get? hfound) members)

theorem cons_object {rest : Entries Datum} (hnot : key ∉ keys rest) (hmembers : members.Keyed)
    (hrest : rest.Keyed) : Keyed ((key, .object members) :: rest) := by
  refine ⟨List.nodup_cons.mpr ⟨hnot, hrest.nodup⟩, ?_⟩
  intro held inner hfound
  by_cases heq : key = held
  · subst heq
    rw [get?_cons_self] at hfound
    cases hfound
    exact hmembers
  · rw [get?_cons_of_ne heq] at hfound
    exact hrest.inner hfound

end Keyed

end Entries

namespace Datum

/-- What a path leads to: every name leads to a member of an object. -/
def at? : Datum → List String → Option Datum
  | value, [] => some value
  | .object members, key :: rest => (Entries.get? members key).bind (at? · rest)
  | _, _ :: _ => none

theorem at?_object_cons (members : Entries Datum) (key : String) (rest : List String) :
    (object members).at? (key :: rest) = (Entries.get? members key).bind (at? · rest) := by
  rw [at?]

/-- A path that leads to an object leads through objects. -/
theorem object_of_at? {value : Datum} {path : List String} {members : Entries Datum}
    (h : value.at? path = some (.object members)) : ∃ own, value = .object own := by
  cases path with
  | nil => exact ⟨members, Option.some.inj h⟩
  | cons key rest =>
      cases value with
      | object own => exact ⟨own, rfl⟩
      | _ => cases h

end Datum

namespace Entries

/-- No path that leads to objects in both `left` and `right` leads to something else in `middle`. -/
def Unbroken (left middle right : Entries Datum) : Prop :=
  ∀ path first value last, (Datum.object left).at? path = some (.object first) →
    (Datum.object middle).at? path = some value →
      (Datum.object right).at? path = some (.object last) → ∃ members, value = .object members

/-- A path is followed one name at a time. -/
theorem unbroken_iff {left middle right : Entries Datum} :
    left.Unbroken middle right ↔
      ∀ key first value last, get? left key = some (.object first) →
        get? middle key = some value → get? right key = some (.object last) →
          ∃ members, value = .object members ∧ Unbroken first members last := by
  constructor
  · intro h key first value last hfirst hvalue hlast
    have hobject := h [key] first value last
    simp only [Datum.at?_object_cons, hfirst, hvalue, hlast] at hobject
    obtain ⟨members, rfl⟩ := hobject rfl rfl rfl
    refine ⟨members, rfl, ?_⟩
    intro path
    have hpath := h (key :: path)
    simp only [Datum.at?_object_cons, hfirst, hvalue, hlast, Option.bind_some] at hpath
    exact hpath
  · intro h path first value last hfirst hvalue hlast
    cases path with
    | nil => exact ⟨middle, (Option.some.inj hvalue).symm⟩
    | cons key rest =>
        rw [Datum.at?_object_cons, Option.bind_eq_some_iff] at hfirst hvalue hlast
        obtain ⟨outer, houter, hfirst⟩ := hfirst
        obtain ⟨between, hbetween, hvalue⟩ := hvalue
        obtain ⟨other, hother, hlast⟩ := hlast
        obtain ⟨outers, rfl⟩ := Datum.object_of_at? hfirst
        obtain ⟨others, rfl⟩ := Datum.object_of_at? hlast
        obtain ⟨members, rfl, hinner⟩ := h key outers between others houter hbetween hother
        exact hinner rest first value last hfirst hvalue hlast

end Entries

namespace Datum

variable {left middle right : Entries Datum} {key : String} {value : Datum}

theorem mergeOnto_of_not_object {held : Option Datum}
    (h : ∀ members, held ≠ some (.object members)) (value : Datum) :
    value.mergeOnto held = value := by
  unfold mergeOnto
  split
  next members => exact absurd rfl (h members)
  next => rfl

theorem mergeOnto_of_plain (h : ∀ members, value ≠ .object members) (held : Option Datum) :
    value.mergeOnto held = value := by
  unfold mergeOnto
  split
  next members _ => exact absurd rfl (h members)
  next => rfl

/-- What comes to stand where there was something, or nothing, on either side. -/
def under (held : Option Datum) : Option Datum → Option Datum
  | none => held
  | some value => some (value.mergeOnto held)

theorem get?_deepMerge_of_not_mem (h : key ∉ Entries.keys right) :
    Entries.get? (deepMerge left right) key = Entries.get? left key := by
  induction right generalizing left with
  | nil => rfl
  | cons pair rest ih =>
      obtain ⟨held, value⟩ := pair
      rw [Entries.keys_cons, List.mem_cons, not_or] at h
      rw [deepMerge_cons, ih h.2, Entries.get?_put_of_ne _ _ (Ne.symm h.1)]

theorem get?_deepMerge_eq_under (hnodup : (Entries.keys right).Nodup) (left : Entries Datum)
    (key : String) :
    Entries.get? (deepMerge left right) key =
      under (Entries.get? left key) (Entries.get? right key) := by
  induction right generalizing left with
  | nil => rfl
  | cons pair rest ih =>
      obtain ⟨held, value⟩ := pair
      rw [Entries.keys_cons, List.nodup_cons] at hnodup
      rw [deepMerge_cons]
      by_cases hkey : held = key
      · subst hkey
        rw [get?_deepMerge_of_not_mem hnodup.1, Entries.get?_put_self, Entries.get?_cons_self,
          under]
      · rw [ih hnodup.2, Entries.get?_put_of_ne _ _ hkey, Entries.get?_cons_of_ne hkey]

theorem nodup_keys_deepMerge (h : (Entries.keys left).Nodup) (right : Entries Datum) :
    (Entries.keys (deepMerge left right)).Nodup := by
  rw [keys_deepMerge]
  exact nodup_addEntries_some h _

/-- Merging at one place is associative where all three are objects that merge so, and wherever no
object would meet another one across something else. -/
theorem under_assoc {held between given : Option Datum}
    (hbetween : ∀ first value last, held = some (.object first) → between = some value →
      given = some (.object last) → ∃ members, value = .object members ∧
        deepMerge (deepMerge first members) last = deepMerge first (deepMerge members last)) :
    under (under held between) given = under held (under between given) := by
  cases given with
  | none => rfl
  | some value =>
      cases between with
      | none =>
          have hnone : value.mergeOnto none = value :=
            mergeOnto_of_not_object (by simp) value
          simp only [under, hnone]
      | some middle =>
          simp only [under, Option.some.injEq]
          by_cases hlast : ∃ last, value = .object last
          · obtain ⟨last, rfl⟩ := hlast
            by_cases hfirst : ∃ first, held = some (.object first)
            · obtain ⟨first, rfl⟩ := hfirst
              obtain ⟨members, rfl, hassoc⟩ := hbetween first middle last rfl rfl rfl
              exact congrArg object hassoc
            · rw [mergeOnto_of_not_object (fun members heq => hfirst ⟨members, heq⟩) middle,
                mergeOnto_of_not_object (fun members heq => hfirst ⟨members, heq⟩)]
          · have hplain := mergeOnto_of_plain fun members heq => hlast ⟨members, heq⟩
            rw [hplain, hplain, hplain]

/-- Merging in turn is merging with each other first, if no object of `middle` is missing between
objects of the other two. -/
theorem deepMerge_assoc (hleft : left.Keyed) (hmiddle : middle.Keyed) (hright : right.Keyed)
    (h : left.Unbroken middle right) :
    deepMerge (deepMerge left middle) right = deepMerge left (deepMerge middle right) := by
  induction hright generalizing left middle with
  | @mk right hnodup _ ih =>
      have hkeys : Entries.keys (deepMerge (deepMerge left middle) right) =
          Entries.keys (deepMerge left (deepMerge middle right)) := by
        simp only [keys_deepMerge, addEntries_assoc]
      apply Entries.ext_get? hkeys (nodup_keys_deepMerge (nodup_keys_deepMerge hleft.nodup _) _)
      intro key _
      rw [get?_deepMerge_eq_under hnodup, get?_deepMerge_eq_under hmiddle.nodup,
        get?_deepMerge_eq_under (nodup_keys_deepMerge hmiddle.nodup right),
        get?_deepMerge_eq_under hnodup]
      apply under_assoc
      intro first value last hfirst hvalue hlast
      obtain ⟨members, rfl, hinner⟩ :=
        Entries.unbroken_iff.mp h key first value last hfirst hvalue hlast
      exact ⟨members, rfl,
        ih key last hlast (hleft.inner hfirst) (hmiddle.inner hvalue) hinner⟩

theorem nil_deepMerge (hnodup : (Entries.keys right).Nodup) : deepMerge [] right = right := by
  have hkeys : Entries.keys (deepMerge [] right) = Entries.keys right := by
    rw [keys_deepMerge]
    exact addEntries_some_of_nodup hnodup
  apply Entries.ext_get? hkeys (hkeys ▸ hnodup)
  intro key _
  rw [get?_deepMerge_eq_under hnodup, Entries.get?_nil]
  cases Entries.get? right key with
  | none => rfl
  | some value => rw [under, mergeOnto_of_not_object (by simp)]

/-- Merging changes nothing exactly if it changes nothing under any key. -/
theorem deepMerge_eq_left_iff (hnodup : (Entries.keys right).Nodup) :
    deepMerge left right = left ↔
      ∀ key, under (Entries.get? left key) (Entries.get? right key) = Entries.get? left key := by
  constructor
  · intro h key
    rw [← get?_deepMerge_eq_under hnodup, h]
  · intro h
    induction right with
    | nil => rfl
    | cons pair rest ih =>
        obtain ⟨held, value⟩ := pair
        rw [Entries.keys_cons, List.nodup_cons] at hnodup
        have hheld := h held
        rw [Entries.get?_cons_self, under] at hheld
        rw [deepMerge_cons, Entries.put_of_get? hheld.symm]
        apply ih hnodup.2
        intro key
        by_cases hkey : held = key
        · subst hkey
          rw [Entries.get?_eq_none_iff.mpr hnodup.1, under]
        · have hrest := h key
          rw [Entries.get?_cons_of_ne hkey] at hrest
          exact hrest

/-- An object that replaces something else might as well have been merged onto an empty one. -/
theorem exists_mergeOnto_object (hnodup : (Entries.keys right).Nodup) (held : Option Datum) :
    ∃ left, (object right).mergeOnto held = .object (deepMerge left right) := by
  by_cases hobject : ∃ left, held = some (.object left)
  · obtain ⟨left, rfl⟩ := hobject
    exact ⟨left, rfl⟩
  · refine ⟨[], ?_⟩
    rw [nil_deepMerge hnodup]
    exact mergeOnto_of_not_object (fun left heq => hobject ⟨left, heq⟩) _

theorem under_twice {held given : Option Datum}
    (h : ∀ members, given = some (.object members) → (Entries.keys members).Nodup ∧
      ∀ left, deepMerge (deepMerge left members) members = deepMerge left members) :
    under (under held given) given = under held given := by
  cases given with
  | none => rfl
  | some value =>
      rw [under, under, Option.some.injEq]
      by_cases hvalue : ∃ members, value = .object members
      · obtain ⟨members, rfl⟩ := hvalue
        obtain ⟨hnodup, htwice⟩ := h members rfl
        obtain ⟨left, hmerged⟩ := exists_mergeOnto_object hnodup held
        rw [hmerged]
        exact congrArg object (htwice left)
      · have hplain := mergeOnto_of_plain fun members heq => hvalue ⟨members, heq⟩
        rw [hplain, hplain]

theorem deepMerge_twice (hright : right.Keyed) (left : Entries Datum) :
    deepMerge (deepMerge left right) right = deepMerge left right := by
  induction hright generalizing left with
  | @mk right hnodup hinner ih =>
      rw [deepMerge_eq_left_iff hnodup]
      intro key
      rw [get?_deepMerge_eq_under hnodup]
      apply under_twice
      intro members hmembers
      exact ⟨(hinner key members hmembers).nodup, ih key members hmembers⟩

end Datum

end QueryWeave

import QueryWeave.Proofs.Action
import QueryWeave.Proofs.Requirement.Merge

/-!
Merged prerequisites.  Main statement: `Prerequisite.merge_asks_for_both`, a merged prerequisite
comes to what its two sides come to, merged, and asks for the keys of both.
-/

namespace QueryWeave

namespace Requirement

/-- The keys that a requirement asks for, registered or not. -/
def keys : Requirement → List String
  | none => []
  | names listed => listed
  | mixed listed => listed.filterMap fun
      | .text name => some name
      | _ => Option.none
  | patch request => request.keys

/-- A requirement other than a list with something in it that is no text. -/
def Plain : Requirement → Prop
  | mixed _ => False
  | _ => True

@[simp] theorem keys_none : none.keys = [] := rfl

@[simp] theorem keys_names (listed : List String) : (names listed).keys = listed := rfl

@[simp] theorem keys_patch (request : Request) : (patch request).keys = request.keys := rfl

theorem none_merge (requirement : Requirement) : none.merge requirement = .ok requirement := rfl

theorem merge_none (requirement : Requirement) : requirement.merge none = .ok requirement := by
  cases requirement <;> rfl

theorem names_merge_names (left right : List String) :
    (names left).merge (names right) =
      .ok (names (left ++ right.filter fun name => !left.contains name)) := rfl

/-- Requirements can be merged, and what comes of it asks for what either asks for. -/
theorem merge_of_plain {first second : Requirement} (hfirst : first.Plain)
    (hsecond : second.Plain) :
    ∃ merged, first.merge second = .ok merged ∧
      ∀ key, key ∈ merged.keys ↔ key ∈ first.keys ∨ key ∈ second.keys := by
  match first, second with
  | none, second => exact ⟨second, none_merge second, by simp⟩
  | first, none => exact ⟨first, merge_none first, by simp⟩
  | mixed _, _ => exact hfirst.elim
  | _, mixed _ => exact hsecond.elim
  | names left, names right =>
      refine ⟨_, names_merge_names left right, ?_⟩
      intro key
      by_cases hleft : key ∈ left <;> simp [hleft]
  | names left, patch right =>
      refine ⟨.patch ((ofNames left).update right), rfl, ?_⟩
      simp [Request.mem_keys_update, mem_keys_ofNames]
  | patch left, names right =>
      refine ⟨.patch (left.update (ofNames right)), rfl, ?_⟩
      simp [Request.mem_keys_update, mem_keys_ofNames]
  | patch left, patch right =>
      exact ⟨.patch (left.update right), rfl, fun _ => Request.mem_keys_update⟩

end Requirement

namespace Prerequisite

variable {request : Request}

theorem resolve_settled (requirement : Requirement) :
    (settled requirement).resolve request = pure requirement := by
  rw [resolve]

theorem resolve_both (left right : Prerequisite) :
    (both left right).resolve request = (do
      let first ← left.resolve request
      let second ← right.resolve request
      liftExcept (first.merge second)) := by
  rw [resolve]

/-- A merged prerequisite comes to what its sides come to when they are kept apart. -/
theorem resolve_merge (left right : Prerequisite) (request : Request) :
    (do
      let merged ← liftExcept (left.merge right)
      merged.resolve request : Journaled Requirement) = (both left right).resolve request := by
  rw [resolve_both]
  unfold merge
  split
  next right =>
    rw [Action.liftExcept_ok_bind, resolve_settled, pure_bind]
    exact (bind_pure _).symm
  next left _ =>
    rw [Action.liftExcept_ok_bind, resolve_settled]
    simp only [pure_bind, Requirement.merge_none]
    exact (bind_pure _).symm
  next first second _ _ =>
    rw [resolve_settled, resolve_settled, pure_bind, pure_bind]
    cases first.merge second with
    | ok merged =>
        refine (Action.liftExcept_ok_bind (settled merged) _).trans ?_
        exact resolve_settled merged
    | error failure => rfl
  next =>
    rw [Action.liftExcept_ok_bind, resolve_both]

/-- A merged prerequisite comes to what its two sides come to, merged; that asks for exactly the keys
of both, and nothing is lost or changed where a name list becomes a patch. -/
theorem merge_asks_for_both (left right : Prerequisite) (request : Request) :
    (do
      let merged ← liftExcept (left.merge right)
      merged.resolve request : Journaled Requirement) = (do
        let first ← left.resolve request
        let second ← right.resolve request
        liftExcept (first.merge second)) ∧
      (∀ journal middle last first second,
        left.resolve request journal = (.ok first, middle) →
          right.resolve request middle = (.ok second, last) →
            first.Plain → second.Plain →
              ∃ prerequisite merged, left.merge right = .ok prerequisite ∧
                prerequisite.resolve request journal = (.ok merged, last) ∧
                first.merge second = .ok merged ∧
                ∀ key, key ∈ merged.keys ↔ key ∈ first.keys ∨ key ∈ second.keys) ∧
      ∀ names key, key ∈ (Requirement.ofNames names).keys ↔ key ∈ names := by
  refine ⟨(resolve_merge left right request).trans (resolve_both left right), ?_,
    fun _ _ => Requirement.mem_keys_ofNames⟩
  intro journal middle last first second hleft hright hfirst hsecond
  obtain ⟨merged, hmerged, hkeys⟩ := Requirement.merge_of_plain hfirst hsecond
  have hboth : (both left right).resolve request journal = (.ok merged, last) := by
    rw [resolve_both, Action.bind_of_ok hleft, Action.bind_of_ok hright, Action.liftExcept_apply,
      hmerged]
  rw [← resolve_merge] at hboth
  obtain ⟨prerequisite, start, hlifted, hresolved⟩ := Action.bind_ok_inv hboth
  rw [Action.liftExcept_apply, Prod.mk.injEq] at hlifted
  obtain ⟨hprerequisite, rfl⟩ := hlifted
  exact ⟨prerequisite, merged, hprerequisite, hresolved, hmerged, hkeys⟩

/-- A name list with a key of no kind that there is. -/
def delivered : Prerequisite :=
  .settled (.names ["table:orders", "status", "view:all"])

/-- A prerequisite that asks again for the status that is bound. -/
def tracked : Prerequisite :=
  .dynamic fun request => .accepted (.settled (.patch
    { filters := [("status", Datum.member request.filters "status")]
      sorting := .one (.key ⟨"day", none⟩) }))

def opened : Request where
  filters := [("status", .text "open")]

theorem tracked_asks_for_both :
    ∃ first second, delivered.resolve opened [] = (.ok first, []) ∧
      tracked.resolve opened [] = (.ok second, []) ∧ first.Plain ∧ second.Plain ∧
      ∃ prerequisite merged, delivered.merge tracked = .ok prerequisite ∧
        prerequisite.resolve opened [] = (.ok merged, []) ∧
        ∀ key, key ∈ merged.keys ↔
          key ∈ ["table:orders", "status", "view:all"] ∨ key ∈ ["status", "orderBy:day"] := by
  obtain ⟨_, hmerge, _⟩ := merge_asks_for_both delivered tracked opened
  obtain ⟨prerequisite, merged, hprerequisite, hresolved, _, hkeys⟩ :=
    hmerge [] [] [] _ _ rfl rfl trivial trivial
  exact ⟨_, _, rfl, rfl, trivial, trivial, prerequisite, merged, hprerequisite, hresolved, hkeys⟩

end Prerequisite

end QueryWeave

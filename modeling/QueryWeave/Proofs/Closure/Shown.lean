import QueryWeave.Proofs.Action.Paired
import QueryWeave.Proofs.Closure.Rebound

namespace QueryWeave

universe u

namespace Request

/-- What a journal shows of a request. -/
def shown (request : Request) : Request :=
  { request with condition := none, constants := none }

/-- The same request up to its condition and constants; `same` is whether the conditions agree. -/
structure Alike (same : Prop) (left right : Request) : Prop where
  shown : left.shown = right.shown
  condition : same → left.condition? = right.condition?

variable {same : Prop} {left right : Request}

theorem Alike.of_rest (hsame : same → left.condition? = right.condition?)
    (h : right = { left with condition := right.condition, constants := right.constants }) :
    left.Alike same right where
  shown := by
    rw [h]
    rfl
  condition := hsame

/-- What looks at neither member is the same. -/
theorem Alike.view_eq {α : Type u} (h : left.Alike same right) (view : Request → α)
    (hview : ∀ request, view request.shown = view request) : view left = view right := by
  rw [← hview left, h.shown, hview]

theorem Alike.named (h : left.Alike same right) : left.keys = right.keys :=
  h.view_eq Request.keys fun _ => rfl

theorem shown_update (request patch : Request) :
    (request.update patch).shown = (request.shown.update patch).shown := rfl

theorem condition?_update_congr (h : left.condition? = right.condition?) (patch : Request) :
    (left.update patch).condition? = (right.update patch).condition? := by
  rw [condition?, condition?, update, update]
  cases patch.condition with
  | none => exact h
  | some given => rfl

/-- Patches may set both members, to the same in both requests. -/
theorem Alike.update (h : left.Alike same right) (patch : Request) :
    (left.update patch).Alike same (right.update patch) where
  shown := by rw [shown_update, h.shown, ← shown_update]
  condition hsame := condition?_update_congr (h.condition hsame) patch

theorem Alike.foldl_update (h : left.Alike same right) (patches : List Request) :
    (patches.foldl Request.update left).Alike same (patches.foldl Request.update right) := by
  induction patches generalizing left right with
  | nil => exact h
  | cons patch rest ih => exact ih (h.update patch)

/-- A change of the members that a journal shows. -/
theorem Alike.map (h : left.Alike same right) {change : Request → Request}
    (hshown : ∀ request, (change request).shown = (change request.shown).shown)
    (hcondition : ∀ request, (change request).condition? = request.condition?) :
    (change left).Alike same (change right) where
  shown := by rw [hshown, h.shown, ← hshown]
  condition hsame := by rw [hcondition, hcondition, h.condition hsame]

end Request

namespace Search

variable {registry : Registry}

theorem obey_journal (search : Search) (key : String) (requirement : Requirement) :
    (search.obey key requirement).journal = search.journal := by
  cases requirement with
  | none => rfl
  | names listed => rfl
  | mixed listed => rfl
  | patch change =>
      rw [obey, applyPatch]
      split
      · rfl
      · rfl

theorem noteRequired_journal_congr {left right : Search} (h : left.journal = right.journal)
    (key : String) (names : List String) :
    (left.noteRequired key names).journal = (right.noteRequired key names).journal := by
  rw [noteRequired, noteRequired]
  split
  · exact h
  · exact congrArg (· ++ [Entry.prerequisites key names]) h

/-- What a search notes does not depend on the request it has so far. -/
theorem journal_foldl_meet_congr (visits : List Visit) {left right : Search}
    (h : left.journal = right.journal) :
    (visits.foldl (meet registry) left).journal = (visits.foldl (meet registry) right).journal := by
  induction visits generalizing left right with
  | nil => exact h
  | cons visit rest ih =>
      apply ih
      rw [meet, meet]
      apply noteRequired_journal_congr
      rw [obey_journal, obey_journal]
      exact h

end Search

namespace Closure

variable {registry : Registry} {same : Prop}

theorem request_final_alike {left right : Search} (hrequest : left.request.Alike same right.request)
    (hleft : left.patched = []) (hright : right.patched = []) :
    (final registry left).request.Alike same (final registry right).request := by
  rw [request_final left hleft, request_final right hright, walk_congr hrequest.named]
  exact hrequest.foldl_update _

theorem writeBack_alike (registry : Registry) (keys : List String) {left right : Request}
    (h : left.Alike same right) :
    (writeBack registry keys left).Alike same (writeBack registry keys right) :=
  h.map (fun _ => rfl) fun _ => rfl

end Closure

namespace Composer

variable {composer : Composer} {options : Options} {same : Prop} {left right : Request}

theorem withDefaultFilter_alike (registry : Registry) (options : Options)
    (h : left.Alike same right) :
    (withDefaultFilter registry options left).Alike same
      (withDefaultFilter registry options right) := by
  apply h.map
  · intro request
    unfold withDefaultFilter
    split
    · rfl
    · rfl
  · intro request
    unfold withDefaultFilter
    split
    · rfl
    · rfl

theorem masked_opening (h : left.Alike same right) (journal : Journal) :
    (opening left journal).journal = (opening right journal).journal := by
  rw [opening, opening, h.view_eq Request.masked fun _ => rfl]

/-- The closure of a request, from a search that has been made. -/
def closedBy (composer : Composer) (options : Options) :
    Except Failure (List String) × Search → Except Failure Request × Journal
  | (.ok keys, search) =>
      let working := withDefaultFilter composer.registry options
        (Closure.writeBack composer.registry keys search.request)
      (.ok working, search.journal ++ [.request .after working.masked])
  | (.error failure, search) => (.error failure, search.journal)

theorem prepare_apply (request : Request) (journal : Journal) :
    composer.prepare options request journal =
      composer.closedBy options (Closure.search composer.registry (opening request journal)) := by
  rw [prepare, note, Action.bind_apply, Action.modify_apply]
  dsimp only
  rw [Action.bind_apply, close, ← opening]
  cases Closure.search composer.registry (opening request journal) with
  | mk outcome search =>
      cases outcome with
      | error failure => rfl
      | ok keys => rfl

/-- The journal shows no condition and no constants, and neither decides what the closure is. -/
theorem prepare_alike (hstatic : composer.registry.Static) (h : left.Alike same right) :
    (composer.prepare options left).Alike (Request.Alike same) (composer.prepare options right) := by
  intro journal
  have hstart : (opening left journal).request.Alike same (opening right journal).request := h
  have hfinal : (Closure.final composer.registry (opening left journal)).journal =
      (Closure.final composer.registry (opening right journal)).journal := by
    rw [Closure.final, Closure.final, ← Closure.walk_congr hstart.named]
    exact Search.journal_foldl_meet_congr _ (masked_opening h journal)
  rw [prepare_apply, prepare_apply]
  cases hdone : (Closure.walk composer.registry left).failure with
  | some failure =>
      rw [Closure.search_of_broken hstatic (opening left journal) hdone]
      rw [Closure.walk_congr h.named] at hdone
      rw [Closure.search_of_broken hstatic (opening right journal) hdone, closedBy, closedBy,
        hfinal]
      exact .failed failure _
  | none =>
      rw [Closure.search_of_done hstatic (opening left journal) hdone]
      rw [Closure.walk_congr h.named] at hdone
      rw [Closure.search_of_done hstatic (opening right journal) hdone,
        Closure.closure_final_congr hstart.named rfl]
      have hrequest : (Closure.final composer.registry (opening left journal)).request.Alike same
          (Closure.final composer.registry (opening right journal)).request :=
        Closure.request_final_alike hstart rfl rfl
      have hclosed := Closure.writeBack_alike composer.registry
        (Closure.final composer.registry (opening right journal)).closure hrequest
      have hworking := withDefaultFilter_alike composer.registry options hclosed
      rw [closedBy, closedBy, hfinal, hworking.view_eq Request.masked fun _ => rfl]
      exact .done _ hworking

end Composer

end QueryWeave

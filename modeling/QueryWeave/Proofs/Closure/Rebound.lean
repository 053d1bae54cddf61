import QueryWeave.Proofs.Closure.Final
import QueryWeave.Proofs.Closure.Patches
import QueryWeave.Proofs.Composer.Stages
import QueryWeave.Proofs.Request.Rebound

namespace QueryWeave

variable {registry : Registry}

namespace Search

theorem weights_foldl_meet_congr (visits : List Visit) {left right : Search}
    (h : left.weights = right.weights) :
    (visits.foldl (meet registry) left).weights =
      (visits.foldl (meet registry) right).weights := by
  induction visits generalizing left right with
  | nil => exact h
  | cons visit rest ih =>
      apply ih
      rw [meet_weights, meet_weights, weight, weight, h]

end Search

namespace Closure

/-- A walk starts from what the request names. -/
theorem walk_congr {left right : Request} (h : left.keys = right.keys) :
    walk registry left = walk registry right := by
  rw [walk, walk, h]

theorem closure_final_congr {left right : Search} (hkeys : left.request.keys = right.request.keys)
    (hweights : left.weights = right.weights) :
    (final registry left).closure = (final registry right).closure := by
  rw [final, final, walk_congr hkeys, Search.closure, Search.closure,
    Search.weights_foldl_meet_congr _ hweights]

theorem request_final_rebound {left right : Search} (hrequest : left.request.Rebound right.request)
    (hleft : left.patched = []) (hright : right.patched = []) :
    (final registry left).request.Rebound (final registry right).request := by
  rw [request_final left hleft, request_final right hright, walk_congr hrequest.named]
  exact hrequest.foldl_update _

theorem keys_foldl_addFilter_congr (names : List String) {left right : Entries Datum}
    (h : Entries.keys left = Entries.keys right) :
    Entries.keys (names.foldl (addFilter registry) left) =
      Entries.keys (names.foldl (addFilter registry) right) := by
  induction names generalizing left right with
  | nil => exact h
  | cons name rest ih =>
      apply ih
      rw [addFilter, addFilter, Entries.has_congr h]
      split
      · exact h
      · split
        · exact Entries.keys_put_congr h _ _ _
        · exact h

theorem writeBack_rebound (keys : List String) {left right : Request} (h : left.Rebound right) :
    (writeBack registry keys left).Rebound (writeBack registry keys right) where
  keys := keys_foldl_addFilter_congr _ h.keys
  rest := by
    rw [h.rest]
    rfl

end Closure

namespace Composer

theorem withDefaultFilter_rebound (options : Options) {left right : Request}
    (h : left.Rebound right) :
    (withDefaultFilter registry options left).Rebound
      (withDefaultFilter registry options right) := by
  unfold withDefaultFilter
  split
  · exact ⟨Entries.keys_put_congr h.keys _ _ _, by rw [h.rest]⟩
  · exact h

variable {composer : Composer} {options : Options} {request : Request} {journal : Journal}

/-- A working request over a static registry is what the walk of its request leaves. -/
theorem working_eq (hstatic : composer.registry.Static) {working : Request}
    (h : (composer.prepare options request journal).1 = .ok working) :
    working = withDefaultFilter composer.registry options
      (Closure.writeBack composer.registry
        (Closure.final composer.registry (opening request journal)).closure
        (Closure.final composer.registry (opening request journal)).request) := by
  cases hdone : (Closure.walk composer.registry request).failure with
  | none =>
      rw [prepare_of_done hstatic hdone] at h
      exact (Except.ok.inj h).symm
  | some failure =>
      rw [prepare_outcome, Closure.search_of_broken hstatic (opening request journal) hdone] at h
      cases h

theorem prepare_rebound (hstatic : composer.registry.Static) {left right : Request}
    (hrebound : left.Rebound right) {first second : Journal} {working other : Request}
    (hleft : (composer.prepare options left first).1 = .ok working)
    (hright : (composer.prepare options right second).1 = .ok other) :
    working.Rebound other := by
  have hstart : (opening left first).request.Rebound (opening right second).request := hrebound
  rw [working_eq hstatic hleft, working_eq hstatic hright,
    Closure.closure_final_congr hstart.named rfl]
  apply withDefaultFilter_rebound
  apply Closure.writeBack_rebound
  exact Closure.request_final_rebound hstart rfl rfl

end Composer

end QueryWeave

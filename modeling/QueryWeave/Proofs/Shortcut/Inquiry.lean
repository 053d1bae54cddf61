import QueryWeave.Script

/-!
What a function does with the lookup of published expressions, as a program: it looks names up, it
finds them and it asks for them.  Only a look is recorded.  Main statements: `run_eq_ok` and, for
functions that are written as data, `Script.inquires_eval`.
-/

namespace QueryWeave

inductive Inquiry (α : Type) where
  | done (value : α)
  | failed (failure : Failure)
  | lookup (name : String) (next : Expr → Inquiry α)
  | find (name : String) (next : Option Expr → Inquiry α)
  | has (name : String) (next : Bool → Inquiry α)

namespace Inquiry

variable {α β : Type}

def run : Inquiry α → Lookup α
  | done value => pure value
  | failed failure => fun _ => .error failure
  | lookup name next => fun catalogue =>
      match catalogue.lookup name with
      | .error failure => .error failure
      | .ok (expression, after) => run (next expression) after
  | find name next => fun catalogue => run (next (catalogue.find? name)) catalogue
  | has name next => fun catalogue => run (next (catalogue.has name)) catalogue

section Run

variable (name : String) (catalogue : Catalogue)

theorem run_lookup (next : Expr → Inquiry α) :
    (lookup name next).run catalogue =
      match catalogue.lookup name with
      | .error failure => .error failure
      | .ok (expression, after) => (next expression).run after := by
  rw [run]

theorem run_find (next : Option Expr → Inquiry α) :
    (find name next).run catalogue = (next (catalogue.find? name)).run catalogue := rfl

theorem run_has (next : Bool → Inquiry α) :
    (has name next).run catalogue = (next (catalogue.has name)).run catalogue := rfl

end Run

/-- The names that are looked up, in order. -/
def looked : Inquiry α → Catalogue → List String
  | done _, _ | failed _, _ => []
  | lookup name next, catalogue =>
      match catalogue.find? name with
      | none => []
      | some expression => name :: looked (next expression) catalogue
  | find name next, catalogue => looked (next (catalogue.find? name)) catalogue
  | has name next, catalogue => looked (next (catalogue.has name)) catalogue

/-- What is looked up depends on what is published alone. -/
theorem looked_withReads (inquiry : Inquiry α) (catalogue : Catalogue) (reads : List String) :
    inquiry.looked { catalogue with reads } = inquiry.looked catalogue := by
  induction inquiry with
  | done value => rfl
  | failed failure => rfl
  | lookup name next ih =>
      have hfind : ({ catalogue with reads } : Catalogue).find? name = catalogue.find? name := rfl
      rw [looked, looked, hfind]
      cases catalogue.find? name with
      | none => rfl
      | some expression => exact congrArg (name :: ·) (ih expression)
  | find name next ih => exact ih _
  | has name next ih => exact ih _

/-- A run that succeeds has recorded what it looked up, and nothing else. -/
theorem run_eq_ok {inquiry : Inquiry α} {catalogue after : Catalogue} {value : α}
    (h : inquiry.run catalogue = .ok (value, after)) :
    after = { catalogue with reads := catalogue.reads ++ inquiry.looked catalogue } := by
  induction inquiry generalizing catalogue with
  | done result =>
      cases h
      rw [looked, List.append_nil]
  | failed failure => cases h
  | lookup name next ih =>
      rw [run_lookup, Catalogue.lookup] at h
      rw [looked]
      cases hfound : catalogue.find? name with
      | none =>
          rw [hfound] at h
          cases h
      | some expression =>
          rw [hfound] at h
          rw [ih expression h, looked_withReads, List.append_assoc]
          rfl
  | find name next ih => exact ih _ h
  | has name next ih => exact ih _ h

theorem has_of_mem_looked {inquiry : Inquiry α} {catalogue : Catalogue} {name : String}
    (h : name ∈ inquiry.looked catalogue) : catalogue.has name = true := by
  induction inquiry with
  | done value => cases h
  | failed failure => cases h
  | lookup read next ih =>
      rw [looked] at h
      cases hfound : catalogue.find? read with
      | none =>
          rw [hfound] at h
          cases h
      | some expression =>
          rw [hfound] at h
          rcases List.mem_cons.mp h with rfl | hlater
          · rw [Catalogue.has, Entries.has, ← Option.isSome_map (f := Published.expression)]
            exact Option.isSome_of_mem hfound
          · exact ih expression hlater
  | find read next ih => exact ih _ h
  | has read next ih => exact ih _ h

/-- Two programs that do the same have looked the same up, once they succeed. -/
theorem looked_eq_of_run_eq {first second : Inquiry α} {catalogue after : Catalogue} {value : α}
    (hsame : first.run = second.run) (h : first.run catalogue = .ok (value, after)) :
    first.looked catalogue = second.looked catalogue := by
  have hfirst := run_eq_ok h
  rw [hsame] at h
  rw [run_eq_ok h, Catalogue.mk.injEq] at hfirst
  exact (List.append_cancel_left hfirst.2).symm

def bind : Inquiry α → (α → Inquiry β) → Inquiry β
  | done value, next => next value
  | failed failure, _ => failed failure
  | lookup name next, after => lookup name fun expression => bind (next expression) after
  | find name next, after => find name fun found => bind (next found) after
  | has name next, after => has name fun held => bind (next held) after

theorem run_bind (inquiry : Inquiry α) (next : α → Inquiry β) :
    (inquiry.bind next).run = inquiry.run >>= fun value => (next value).run := by
  induction inquiry with
  | done value => rfl
  | failed failure => rfl
  | lookup name after ih =>
      funext catalogue
      change (lookup name _).run catalogue = ((lookup name after).run catalogue).bind _
      rw [run_lookup, run_lookup]
      cases catalogue.lookup name with
      | error failure => rfl
      | ok found =>
          dsimp only
          rw [ih]
          rfl
  | find name after ih =>
      funext catalogue
      rw [bind, run_find, ih]
      rfl
  | has name after ih =>
      funext catalogue
      rw [bind, run_has, ih]
      rfl

end Inquiry

/-- The step does no more than look names up, find them and ask for them. -/
def Inquires {α : Type} (step : Lookup α) : Prop :=
  ∃ inquiry : Inquiry α, step = inquiry.run

section Inquires

variable {α β : Type} {step : Lookup α} {next : α → Lookup β}

theorem inquires_pure (value : α) : Inquires (pure value : Lookup α) :=
  ⟨.done value, rfl⟩

theorem inquires_throw (failure : Failure) : Inquires (throw failure : Lookup α) :=
  ⟨.failed failure, rfl⟩

theorem inquires_liftExcept (outcome : Except Failure α) :
    Inquires (liftExcept outcome : Lookup α) := by
  cases outcome with
  | ok value => exact inquires_pure value
  | error failure => exact inquires_throw failure

theorem inquires_inCatalogue (scope : Script.Scope) (h : Inquires step) :
    Inquires (Script.inCatalogue scope step) := by
  rw [Script.inCatalogue]
  split
  · exact h
  · exact inquires_throw _

theorem Inquires.bind (hstep : Inquires step) (hnext : ∀ value, Inquires (next value)) :
    Inquires (step >>= next) := by
  obtain ⟨inquiry, rfl⟩ := hstep
  refine ⟨inquiry.bind fun value => (hnext value).choose, ?_⟩
  rw [Inquiry.run_bind]
  exact congrArg _ (funext fun value => (hnext value).choose_spec)

end Inquires

/-- The draft, or the function that it is, does no more with the lookup when it is called. -/
def Draft.Inquires (draft : Draft) : Prop :=
  QueryWeave.Inquires (draft.evaluate [.catalogue])

/-- A name that the draft looks up when it is called. -/
def Draft.LooksUp (draft : Draft) (catalogue : Catalogue) (name : String) : Prop :=
  ∃ inquiry : Inquiry Draft, draft.evaluate [.catalogue] = inquiry.run ∧
    name ∈ inquiry.looked catalogue

namespace Draft

variable {draft : Draft} {catalogue after : Catalogue} {result : Draft} {name : String}

theorem inquires_of_not_function (h : draft.isFunction = false) : draft.Inquires := by
  cases draft with
  | function takesRequest call => cases h
  | _ => exact inquires_pure _

/-- A call that succeeds has recorded the names that the draft looks up. -/
theorem Inquires.evaluate_eq_ok (h : draft.Inquires)
    (hcalled : draft.evaluate [.catalogue] catalogue = .ok (result, after)) :
    ∃ looked, after = { catalogue with reads := catalogue.reads ++ looked } ∧
      ∀ name, name ∈ looked ↔ draft.LooksUp catalogue name := by
  obtain ⟨inquiry, hinquiry⟩ := h
  rw [hinquiry] at hcalled
  refine ⟨inquiry.looked catalogue, Inquiry.run_eq_ok hcalled, fun name => ?_⟩
  constructor
  · exact fun hmem => ⟨inquiry, hinquiry, hmem⟩
  · rintro ⟨other, hother, hmem⟩
    rw [hinquiry] at hother
    rwa [Inquiry.looked_eq_of_run_eq hother hcalled]

theorem LooksUp.has (h : draft.LooksUp catalogue name) : catalogue.has name = true := by
  obtain ⟨inquiry, _, hmem⟩ := h
  exact Inquiry.has_of_mem_looked hmem

end Draft

namespace Script

mutual

/-- Whatever a script does with the lookup is an inquiry. -/
theorem inquires_eval (scope : Scope) (script : Script) : Inquires (eval scope script) := by
  cases script with
  | literal value =>
      rw [eval]
      exact inquires_pure _
  | list items =>
      rw [eval]
      exact (inquires_evalAll scope items).bind fun _ => inquires_pure _
  | object members =>
      rw [eval]
      exact (inquires_evalMembers scope members).bind fun _ => inquires_pure _
  | function parameters body =>
      rw [eval]
      exact inquires_pure _
  | get name path =>
      rw [eval]
      split
      · exact inquires_pure _
      · exact inquires_pure _
  | choice test yes no =>
      rw [eval]
      refine (inquires_eval scope test).bind fun value => ?_
      split
      · exact inquires_eval scope yes
      · exact inquires_eval scope no
  | equal left right =>
      rw [eval]
      exact (inquires_eval scope left).bind fun _ =>
        (inquires_eval scope right).bind fun _ => inquires_pure _
  | joined parts =>
      rw [eval]
      exact (inquires_evalAll scope parts).bind fun _ => inquires_pure _
  | raise text =>
      rw [eval]
      exact inquires_throw _
  | lookup name =>
      rw [eval]
      refine inquires_inCatalogue scope ⟨.lookup name fun given => .done (.expression given), ?_⟩
      funext catalogue
      rw [Inquiry.run_lookup]
      cases catalogue.lookup name with
      | error failure => rfl
      | ok found => rfl
  | find name =>
      rw [eval]
      refine inquires_inCatalogue scope ⟨.find name fun
        | some given => .done (.expression given)
        | none => .done (.plain .null), ?_⟩
      funext catalogue
      rw [Inquiry.run_find]
      cases catalogue.find? name with
      | none => rfl
      | some given => rfl
  | has name =>
      rw [eval]
      exact inquires_inCatalogue scope ⟨.has name fun held => .done (.plain (.bool held)), rfl⟩
  | matching left =>
      rw [eval]
      exact (inquires_eval scope left).bind fun _ =>
        (inquires_liftExcept _).bind fun _ => inquires_pure _
  | comparing left =>
      rw [eval]
      exact (inquires_eval scope left).bind fun _ => inquires_pure _
  | anyValue inner =>
      rw [eval]
      exact (inquires_eval scope inner).bind fun _ => inquires_pure _
  | request inner =>
      rw [eval]
      exact (inquires_eval scope inner).bind fun _ =>
        (inquires_liftExcept _).bind fun _ => inquires_pure _

theorem inquires_evalAll (scope : Scope) (items : List Script) :
    Inquires (evalAll scope items) := by
  cases items with
  | nil =>
      rw [evalAll]
      exact inquires_pure _
  | cons item rest =>
      rw [evalAll]
      exact (inquires_eval scope item).bind fun _ =>
        (inquires_evalAll scope rest).bind fun _ => inquires_pure _

theorem inquires_evalMembers (scope : Scope) (members : List (String × Script)) :
    Inquires (evalMembers scope members) := by
  cases members with
  | nil =>
      rw [evalMembers]
      exact inquires_pure _
  | cons pair rest =>
      obtain ⟨key, item⟩ := pair
      rw [evalMembers]
      exact (inquires_eval scope item).bind fun _ =>
        (inquires_evalMembers scope rest).bind fun _ => inquires_pure _

end

end Script

end QueryWeave

import QueryWeave.Proofs.Shortcut.Inquiry
import QueryWeave.Proofs.Shortcut.Listed
import QueryWeave.Proofs.Shortcut.Posting

namespace QueryWeave

/-- The draft that is called with the lookup, or stands for itself. -/
def Shortcut.source? : Shortcut → Option Draft
  | field expression query _ => expression <|> query
  | table .absent computed query => computed <|> query
  | table _ _ _ => none
  | filter expression query _ => expression <|> query
  | group expression query => expression <|> query
  | order expression query _ => expression <|> query
  | combo expression computed _ => expression <|> computed

/-- The names of a draft that stands for a list of names, or for none. -/
def Draft.listed? (draft : Draft) : Option (List String) :=
  draft.toPrerequisite.toOption.bind Prerequisite.listed?

/-- The names of a prerequisite are those given and those stored for what a source looks up. -/
def Catalogue.Gathers (catalogue : Catalogue) (own : List String) (source : Option Draft)
    (prerequisite : Prerequisite) : Prop :=
  ∃ names, prerequisite.listed? = some names ∧
    ∀ name, name ∈ names ↔ name ∈ own ∨
      ∃ draft ∈ source, ∃ read, draft.LooksUp catalogue read ∧ name ∈ catalogue.stored read

/-- A desk at which nothing has been read and every stored prerequisite is a list of names. -/
structure Desk.Cleared (desk : Desk) : Prop where
  reads : desk.catalogue.reads = []
  listed : desk.catalogue.Listed

theorem Desk.Cleared.forget {desk : Desk} (h : desk.Cleared) :
    { desk with catalogue := { desk.catalogue with reads := [] } } = desk := by
  obtain ⟨registry, ⟨published, held⟩, options, journal⟩ := desk
  cases h.reads
  rfl

namespace Translating

variable {α β : Type} {desk after : Desk}

theorem looking_ok_inv {step : Lookup α} {value : α}
    (h : looking step desk = (.ok value, after)) :
    ∃ catalogue, step desk.catalogue = .ok (value, catalogue) ∧ after = { desk with catalogue } := by
  rw [looking, Action.bind_apply, Action.get_apply] at h
  dsimp only at h
  rw [Action.bind_apply, Action.liftExcept_apply] at h
  cases hstep : step desk.catalogue with
  | error failure =>
      rw [hstep] at h
      cases h
  | ok result =>
      rw [hstep] at h
      cases h
      exact ⟨result.2, rfl, rfl⟩

/-- The action does nothing but call a draft with the lookup. -/
def Peruses (action : Translating α) (draft : Draft) : Prop :=
  ∀ ⦃desk value after⦄, action desk = (.ok value, after) → ∃ result catalogue,
    draft.evaluate [.catalogue] desk.catalogue = .ok (result, catalogue) ∧
      after = { desk with catalogue }

theorem peruses_evaluate (draft : Draft) : Peruses (evaluate draft) draft := by
  intro desk value after h
  obtain ⟨catalogue, hcalled, rfl⟩ := looking_ok_inv h
  exact ⟨value, catalogue, hcalled, rfl⟩

theorem Peruses.then_lift {action : Translating α} {draft : Draft} (h : Peruses action draft)
    (read : α → Except Failure β) : Peruses (action >>= fun value => liftExcept (read value)) draft := by
  intro desk value after hdone
  obtain ⟨held, middle, hfirst, hread⟩ := Action.bind_ok_inv hdone
  rw [Action.liftExcept_apply] at hread
  obtain ⟨_, rfl⟩ := Prod.mk.inj hread
  exact h hfirst

theorem peruses_evaluateExpr (draft : Draft) : Peruses (evaluateExpr draft) draft :=
  (peruses_evaluate draft).then_lift Draft.toExpr

/-- What an action that ends leaves is under one prerequisite, its own names with those that are
stored for what the source looks up. -/
def Accounts (own : Draft) (source : Option Draft) (action : Translating Unit) : Prop :=
  ∀ ⦃names desk after⦄, own.listed? = some names → (∀ draft ∈ source, draft.Inquires) →
    desk.Cleared → action desk = (.ok (), after) →
      ∃ keys prerequisite, desk.Enlists after keys prerequisite ∧
        (keys = [] ∨ desk.catalogue.Gathers names source prerequisite)

variable {own : Draft} {source : Option Draft} {keys : List String}

theorem prerequisiteOf_ok_inv {names : List String} {prerequisite : Prerequisite}
    (h : prerequisiteOf own desk = (.ok prerequisite, after)) (hown : own.listed? = some names)
    (hlisted : desk.catalogue.Listed) :
    after = { desk with catalogue := { desk.catalogue with reads := [] } } ∧
      ∃ all, prerequisite.listed? = some all ∧ ∀ name, name ∈ all ↔
        name ∈ names ∨ ∃ read ∈ desk.catalogue.reads, name ∈ desk.catalogue.stored read := by
  obtain ⟨given, middle, hgiven, hlooking⟩ := Action.bind_ok_inv h
  rw [Action.liftExcept_apply] at hgiven
  obtain ⟨hread, rfl⟩ := Prod.mk.inj hgiven
  rw [Draft.listed?, hread] at hown
  obtain ⟨catalogue, hmerged, rfl⟩ := looking_ok_inv hlooking
  obtain ⟨merged, all, hwith, hall, hmem⟩ := Catalogue.withReads_listed hlisted hown
  rw [hwith] at hmerged
  cases hmerged
  exact ⟨rfl, all, hall, hmem⟩

theorem accounts_throw (failure : Failure) : Accounts own source (throw failure) := by
  intro names desk after _ _ _ hdone
  cases hdone

theorem accounts_note (entry : Entry) : Accounts own source (note entry) := by
  intro names desk after _ _ _ hdone
  exact ⟨[], default, (posts_note entry default hdone).enlists, Or.inl rfl⟩

theorem accounts_of_prerequisite {rest : Prerequisite → Translating Unit}
    (hrest : ∀ prerequisite, Enlists (rest prerequisite) keys prerequisite) :
    Accounts own none (do
      let prerequisite ← prerequisiteOf own
      rest prerequisite) := by
  intro names desk after hown _ hcleared hdone
  obtain ⟨prerequisite, middle, hmerged, hrested⟩ := Action.bind_ok_inv hdone
  obtain ⟨rfl, all, hall, hmem⟩ := prerequisiteOf_ok_inv hmerged hown hcleared.listed
  rw [hcleared.forget] at hrested
  refine ⟨keys, prerequisite, hrest prerequisite hrested, Or.inr ⟨all, hall, fun name => ?_⟩⟩
  rw [hmem, hcleared.reads]
  simp

/-- What is read between clearing the desk and taking the reads is what the source looks up. -/
theorem accounts_of_looking {look : Translating α} {draft : Draft}
    {rest : α → Prerequisite → Translating Unit} (hlook : Peruses look draft)
    (hrest : ∀ value prerequisite, Enlists (rest value prerequisite) keys prerequisite) :
    Accounts own (some draft) (do
      let value ← look
      let prerequisite ← prerequisiteOf own
      rest value prerequisite) := by
  intro names desk after hown hinquires hcleared hdone
  obtain ⟨value, looking, hlooked, hnext⟩ := Action.bind_ok_inv hdone
  obtain ⟨result, catalogue, hcalled, rfl⟩ := hlook hlooked
  obtain ⟨looked, rfl, hmemLooked⟩ := (hinquires draft rfl).evaluate_eq_ok hcalled
  obtain ⟨prerequisite, taken, hmerged, hrested⟩ := Action.bind_ok_inv hnext
  obtain ⟨rfl, all, hall, hmem⟩ := prerequisiteOf_ok_inv hmerged hown hcleared.listed
  have hback := hcleared.forget
  dsimp only at hrested hmem
  rw [hback] at hrested
  refine ⟨keys, prerequisite, hrest value prerequisite hrested,
    Or.inr ⟨all, hall, fun name => ?_⟩⟩
  rw [hmem, hcleared.reads, List.nil_append]
  simp only [hmemLooked, Option.mem_some_iff, exists_eq_left']
  rfl

end Translating

namespace Descriptor

open Translating

variable (name : String) (prerequisite : Draft)

theorem accounts_registerComputed_then (kind : Kind) (source : Draft) {after : Translating Unit}
    (hafter : ∀ settled, Posts after [] settled) :
    Accounts prerequisite (some source) (do
      registerComputed kind name source prerequisite
      after) := by
  unfold registerComputed
  simp only [bind_assoc]
  apply accounts_of_looking (peruses_evaluate source)
  intro value settled
  exact ((posts_register kind name (Recipe.ofDraft value) settled).bind fun _ =>
    hafter settled).enlists

theorem accounts_registerComputed (kind : Kind) (source : Draft) :
    Accounts prerequisite (some source) (registerComputed kind name source prerequisite) := by
  rw [← bind_pure (registerComputed kind name source prerequisite)]
  exact accounts_registerComputed_then name prerequisite kind source fun settled =>
    posts_pure () settled

theorem accounts_translateField (expression query : Option Draft) (published : Bool) :
    Accounts prerequisite (expression <|> query)
      (translateField name prerequisite expression query published) := by
  unfold translateField
  cases expression with
  | some draft =>
      apply accounts_of_looking (peruses_evaluateExpr draft)
      intro value settled
      have hposts := posts_register .field name
        (.ok (.fixed { Query.empty with select := .many [⟨value, some name⟩] })) settled
      cases published with
      | false => exact hposts.enlists
      | true => exact hposts.publishing List.mem_cons_self value
  | none =>
      cases query with
      | some source => exact accounts_registerComputed name prerequisite .field source
      | none => exact accounts_note _

theorem accounts_translateTable (tables : NamedClause Table) (computed query : Option Draft) :
    Accounts prerequisite (Shortcut.table tables computed query).source?
      (translateTable name prerequisite tables computed query) := by
  have hgiven : ∀ tables : NamedClause Table, Accounts prerequisite none (do
      let settled ← prerequisiteOf prerequisite
      registerQuery .table name { Query.empty with tables } settled) := by
    intro tables
    apply accounts_of_prerequisite
    exact fun settled => (posts_register .table name _ settled).enlists
  unfold translateTable
  cases tables with
  | absent =>
      cases computed with
      | some source =>
          dsimp only
          rw [← bind_assoc]
          apply accounts_of_looking ((peruses_evaluate source).then_lift _)
          exact fun value settled => (posts_register .table name _ settled).enlists
      | none =>
          cases query with
          | some source => exact accounts_registerComputed name prerequisite .table source
          | none => exact accounts_note _
  | name given => exact hgiven _
  | one table => exact hgiven _
  | many tables => exact hgiven _

theorem accounts_translateFilter (expression query : Option Draft) (unknowns : Unknowns) :
    Accounts prerequisite (expression <|> query)
      (translateFilter name prerequisite expression query unknowns) := by
  unfold translateFilter
  have hplaces := posts_bindPlaces name (placesOf unknowns)
  cases expression with
  | some draft =>
      apply accounts_of_looking (peruses_evaluateExpr draft)
      intro value settled
      exact ((posts_register .filter name _ settled).bind fun _ => hplaces settled).enlists
  | none =>
      cases query with
      | some source =>
          exact accounts_registerComputed_then name prerequisite .filter source hplaces
      | none => exact accounts_note _

theorem accounts_translateGroup (expression query : Option Draft) :
    Accounts prerequisite (expression <|> query)
      (translateGroup name prerequisite expression query) := by
  unfold translateGroup
  cases expression with
  | some draft =>
      apply accounts_of_looking (peruses_evaluateExpr draft)
      exact fun value settled => (posts_register .group name _ settled).enlists
  | none =>
      cases query with
      | some source => exact accounts_registerComputed name prerequisite .group source
      | none => exact accounts_note _

theorem accounts_translateOrder (expression query : Option Draft) (direction : Direction) :
    Accounts prerequisite (expression <|> query)
      (translateOrder name prerequisite expression query direction) := by
  unfold translateOrder
  cases expression with
  | some draft =>
      apply accounts_of_looking (peruses_evaluateExpr draft)
      exact fun value settled => (posts_register .order name _ settled).enlists
  | none =>
      cases query with
      | some source => exact accounts_registerComputed name prerequisite .order source
      | none => exact accounts_note _

theorem posts_combo (value : Draft) (settled : Prerequisite) :
    Posts (do
      registerGrouped name value settled
      registerGrouped (name ++ "Any") value.anyValue settled
      register .filter name (Recipe.ofDraft (.comparing value)) settled)
      ((comboKeys name).map Key.render) settled := by
  have hkeys : (comboKeys name).map Key.render =
      [(Key.mk .field name).render, (Key.mk .group name).render] ++
        ([(Key.mk .field (name ++ "Any")).render, (Key.mk .group (name ++ "Any")).render] ++
          [(Key.mk .filter name).render]) := by
    simp [comboKeys, Registry.groupFieldKeys]
  rw [hkeys]
  exact (posts_registerGrouped name value settled).bind fun _ =>
    (posts_registerGrouped (name ++ "Any") value.anyValue settled).bind fun _ =>
      posts_register .filter name (Recipe.ofDraft (.comparing value)) settled

theorem enlists_publishDraft (published : Bool) (draft : Draft) {action : Translating Unit}
    {keys : List String} {settled : Prerequisite} (h : Posts action keys settled)
    (hfield : (Key.mk .field name).render ∈ keys) :
    Enlists (do publishDraft name published draft settled; action) keys settled := by
  unfold publishDraft
  split
  next given => exact h.publishing hfield given
  next => exact h.enlists

theorem accounts_translateCombo (expression computed : Option Draft) (published : Bool) :
    Accounts prerequisite (expression <|> computed)
      (translateCombo name prerequisite expression computed published) := by
  have hfield : (Key.mk .field name).render ∈ (comboKeys name).map Key.render :=
    List.mem_map_of_mem List.mem_cons_self
  unfold translateCombo
  cases expression <|> computed with
  | none => exact accounts_throw _
  | some draft =>
      dsimp only
      rw [← bind_assoc]
      apply accounts_of_looking ((peruses_evaluate draft).then_lift settleExpr)
      intro value settled
      exact enlists_publishDraft name published value (posts_combo name value settled) hfield

theorem accounts_translate (descriptor : Descriptor) :
    Accounts descriptor.prerequisite descriptor.shortcut.source? descriptor.translate := by
  obtain ⟨name, prerequisite, shortcut⟩ := descriptor
  cases shortcut with
  | field expression query published =>
      exact accounts_translateField name prerequisite expression query published
  | table tables computed query =>
      exact accounts_translateTable name prerequisite tables computed query
  | filter expression query unknowns =>
      exact accounts_translateFilter name prerequisite expression query unknowns
  | group expression query => exact accounts_translateGroup name prerequisite expression query
  | order expression query direction =>
      exact accounts_translateOrder name prerequisite expression query direction
  | combo expression computed published =>
      exact accounts_translateCombo name prerequisite expression computed published

end Descriptor

end QueryWeave

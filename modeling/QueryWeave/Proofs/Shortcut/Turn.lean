import QueryWeave.Composer
import QueryWeave.Proofs.Shortcut.Accounts
import Mathlib.Logic.Relation

/-!
A list of descriptors, turn by turn.  What a turn registers or publishes is under a prerequisite of
the names that it owes: the descriptor's own and those stored for what it looks up.  Main statement:
`Handlers.accounts_translateEach`.
-/

namespace QueryWeave

/-- The type of a draft of a descriptor, where that is a text. -/
def Descriptor.typeOf? (raw : Draft) : Option String :=
  raw.members?.bind fun members => (member members "type").datum.toText?

/-- A draft that no handler but a built-in one takes. -/
def Handlers.TakesBuiltIn (handlers : Handlers) (raw : Draft) : Prop :=
  ∀ type, Descriptor.typeOf? raw = some type →
    type ∈ Shortcut.builtIn ∨ type ∉ Entries.keys handlers.custom

/-- A draft that no handler but a built-in one takes.  What it requires itself is none or a list of
names, and a function in it does no more with the lookup than to look names up, to find them and to
ask for them. -/
structure Handlers.Ordinary (handlers : Handlers) (raw : Draft) : Prop where
  handled : handlers.TakesBuiltIn raw
  own : ∀ descriptor, Descriptor.decode raw = .ok descriptor →
    ∃ names, descriptor.prerequisite.listed? = some names
  source : ∀ descriptor, Descriptor.decode raw = .ok descriptor →
    ∀ draft ∈ descriptor.shortcut.source?, draft.Inquires

theorem Handlers.Ordinary.of_decode {handlers : Handlers} {raw : Draft} {descriptor : Descriptor}
    {names : List String} (hcustom : handlers.custom = [])
    (hdecoded : Descriptor.decode raw = .ok descriptor)
    (hown : descriptor.prerequisite.listed? = some names)
    (hsource : ∀ draft ∈ descriptor.shortcut.source?, draft.Inquires) : handlers.Ordinary raw where
  handled type _ := by
    rw [hcustom]
    exact Or.inr List.not_mem_nil
  own other hother := by
    cases hdecoded.symm.trans hother
    exact ⟨names, hown⟩
  source other hother := by
    cases hdecoded.symm.trans hother
    exact hsource

/-- A draft of a descriptor, with the desk before and after its translation. -/
structure Turn where
  raw : Draft
  before : Desk
  after : Desk

/-- The turns of a list of drafts. -/
def Handlers.turns (handlers : Handlers) : List Draft → Desk → List Turn
  | [], _ => []
  | raw :: rest, desk =>
      let after := (handlers.translateOne raw desk).2
      ⟨raw, desk, after⟩ :: turns handlers rest after

namespace Turn

/-- The names that the descriptor itself requires. -/
def own (turn : Turn) : List String :=
  match Descriptor.decode turn.raw with
  | .ok descriptor => descriptor.prerequisite.listed?.getD []
  | .error _ => []

def source? (turn : Turn) : Option Draft :=
  match Descriptor.decode turn.raw with
  | .ok descriptor => descriptor.shortcut.source?
  | .error _ => none

/-- The descriptor looks an expression up while it is translated. -/
def LooksUp (turn : Turn) (read : String) : Prop :=
  ∃ draft ∈ turn.source?, draft.LooksUp turn.before.catalogue read

def Registers (turn : Turn) (key : String) : Prop :=
  key ∈ Entries.keys turn.after.registry ∧ key ∉ Entries.keys turn.before.registry

def Publishes (turn : Turn) (name : String) : Prop :=
  name ∈ Entries.keys turn.after.catalogue.published ∧
    name ∉ Entries.keys turn.before.catalogue.published

/-- The names are the descriptor's own and those stored for the expressions it looks up. -/
def Owes (turn : Turn) (names : List String) : Prop :=
  ∀ name, name ∈ names ↔ name ∈ turn.own ∨
    ∃ read, turn.LooksUp read ∧ name ∈ turn.before.catalogue.stored read

/-- The turn looks up what the other one publishes. -/
def Draws (turns : List Turn) (turn other : Turn) : Prop :=
  other ∈ turns ∧ ∃ read, turn.LooksUp read ∧ other.Publishes read

/-- The name is the own name of a descriptor whose expression is looked up, directly or through
others. -/
def Traces (turns : List Turn) (turn : Turn) (name : String) : Prop :=
  ∃ source, Relation.ReflTransGen (Draws turns) turn source ∧ name ∈ source.own

end Turn

namespace Desk

/-- Stored prerequisites are lists of names, and what is published is registered as a field. -/
structure Settled (desk : Desk) : Prop where
  listed : desk.catalogue.Listed
  named : ∀ name ∈ Entries.keys desk.catalogue.published,
    (Key.mk .field name).render ∈ Entries.keys desk.registry

/-- What is registered and what is published stay. -/
structure Extends (before after : Desk) : Prop where
  registered : ∀ key prerequisite,
    Entries.get? before.registry.prerequisites key = some prerequisite →
      Entries.get? after.registry.prerequisites key = some prerequisite
  published : ∀ name published, Entries.get? before.catalogue.published name = some published →
    Entries.get? after.catalogue.published name = some published

variable {before middle after : Desk} {keys : List String} {prerequisite : Prerequisite}

theorem Extends.refl (desk : Desk) : desk.Extends desk :=
  ⟨fun _ _ h => h, fun _ _ h => h⟩

theorem Extends.trans (hfirst : before.Extends middle) (hsecond : middle.Extends after) :
    before.Extends after where
  registered key _ h := hsecond.registered key _ (hfirst.registered key _ h)
  published name _ h := hsecond.published name _ (hfirst.published name _ h)

/-- An expression that is published stays what it is stored with. -/
theorem Extends.stored_eq (h : before.Extends after) {name : String}
    (hmem : name ∈ Entries.keys before.catalogue.published) :
    after.catalogue.stored name = before.catalogue.stored name := by
  obtain ⟨published, hfound⟩ := Entries.exists_get?_of_mem_keys hmem
  rw [Catalogue.stored, Catalogue.stored, Catalogue.prerequisiteOf, Catalogue.prerequisiteOf,
    hfound, h.published name published hfound]

section Enlists

variable (h : before.Enlists after keys prerequisite)

include h

theorem Enlists.mem_keys_iff {key : String} : key ∈ Entries.keys after.registry ↔
    key ∈ Entries.keys before.registry ∨ key ∈ keys := by
  have hnew : Entries.keys (keys.map fun key => (key, prerequisite)) = keys := by
    rw [Entries.keys, List.map_map]
    exact List.map_id keys
  rw [← Registry.keys_prerequisites after.registry, h.registered, Entries.keys_append,
    Registry.keys_prerequisites, List.mem_append, hnew]

theorem Enlists.get?_new {key : String} (hmem : key ∈ keys) :
    Entries.get? after.registry.prerequisites key = some prerequisite := by
  have hnot : key ∉ Entries.keys before.registry.prerequisites := by
    rw [Registry.keys_prerequisites]
    exact h.fresh key hmem
  rw [h.registered, Entries.get?_append_of_not_mem hnot]
  exact Entries.get?_map_pair hmem prerequisite

/-- Nothing is published twice: the field of a name is registered but once. -/
theorem Enlists.extends (hsettled : before.Settled) : before.Extends after where
  registered key held hfound := by
    rw [h.registered, Entries.get?_append_of_mem (Entries.mem_keys_of_get? hfound), hfound]
  published name held hfound := by
    rcases h.published with hsame | ⟨fresh, expression, hfield, hput⟩
    · rw [hsame, hfound]
    · have hne : fresh ≠ name := by
        rintro rfl
        exact h.fresh _ hfield (hsettled.named fresh (Entries.mem_keys_of_get? hfound))
      rw [hput, Entries.get?_put_of_ne _ _ hne, hfound]

theorem Enlists.published_cases {name : String}
    (hmem : name ∈ Entries.keys after.catalogue.published) :
    name ∈ Entries.keys before.catalogue.published ∨
      (Key.mk .field name).render ∈ keys ∧
        ∃ expression, Entries.get? after.catalogue.published name =
          some ⟨expression, prerequisite⟩ := by
  rcases h.published with hsame | ⟨fresh, expression, hfield, hput⟩
  · exact Or.inl (hsame ▸ hmem)
  · rw [hput] at hmem ⊢
    rcases Entries.mem_keys_put.mp hmem with hold | rfl
    · exact Or.inl hold
    · exact Or.inr ⟨hfield, expression, Entries.get?_put_self _ _ _⟩

end Enlists

end Desk

/-- What a lookup records does not tell what is looked up. -/
theorem Draft.looksUp_withReads {draft : Draft} {catalogue : Catalogue} {reads : List String}
    {name : String} :
    draft.LooksUp { catalogue with reads } name ↔ draft.LooksUp catalogue name := by
  constructor
  · rintro ⟨inquiry, hinquiry, hmem⟩
    exact ⟨inquiry, hinquiry, by rwa [Inquiry.looked_withReads] at hmem⟩
  · rintro ⟨inquiry, hinquiry, hmem⟩
    exact ⟨inquiry, hinquiry, by rwa [Inquiry.looked_withReads]⟩

namespace Handlers

open Descriptor

variable {handlers : Handlers} {raw : Draft} {desk after : Desk}

/-- What has no members is skipped as of no type or fails. -/
theorem translateOne_cases_of_no_members (hmembers : raw.members? = none) :
    (∃ name, handlers.translateOne raw = Translating.note (.unknownShortcut "None" name)) ∨
      handlers.translateOne raw = throw .noMembers := by
  rw [translateOne, hmembers]
  cases raw.datum with
  | record form members => exact Or.inl ⟨_, rfl⟩
  | _ => exact Or.inr rfl

theorem translateOne_of_no_members (hmembers : raw.members? = none)
    (h : handlers.translateOne raw desk = (.ok (), after)) :
    after.registry = desk.registry ∧ after.catalogue = desk.catalogue := by
  rcases handlers.translateOne_cases_of_no_members hmembers with ⟨name, hnote⟩ | hthrow
  · rw [hnote] at h
    cases h
    exact ⟨rfl, rfl⟩
  · rw [hthrow] at h
    cases h

/-- What takes a draft of a built-in type, if anything does, decodes and translates it. -/
theorem finder?_builtIn (hbuiltIn : handlers.TakesBuiltIn raw) {members : Entries Draft}
    (hmembers : raw.members? = some members) {action : Translating Unit}
    (hfound : handlers.finder? raw members (member members "type").datum = .ok (some action)) :
    action = translateDraft raw := by
  cases htype : (member members "type").datum with
  | text type =>
      have htyped : typeOf? raw = some type := by
        rw [typeOf?, hmembers, Option.bind_some, htype]
        rfl
      rw [htype, finder?, Except.ok.injEq, find?] at hfound
      split at hfound
      next => exact (Option.some.inj hfound).symm
      next hcustom =>
        have hnot : type ∉ Entries.keys handlers.custom :=
          (hbuiltIn type htyped).resolve_left fun hmem =>
            hcustom (List.contains_iff_mem.mpr hmem)
        rw [Entries.get?_eq_none_iff.mpr hnot] at hfound
        cases hfound
  | _ =>
      rw [htype] at hfound
      cases hfound

/-- A draft without a handler is skipped; any other one is decoded and translated. -/
theorem translateOne_ok_inv (hordinary : handlers.Ordinary raw)
    (h : handlers.translateOne raw desk = (.ok (), after)) :
    (after.registry = desk.registry ∧ after.catalogue = desk.catalogue) ∨
    ∃ descriptor left, decode raw = .ok descriptor ∧
      descriptor.translate { desk with catalogue := desk.catalogue.takeReads.2 } =
        (.ok (), left) ∧
      after.registry = left.registry ∧ after.catalogue = left.catalogue := by
  cases hmembers : raw.members? with
  | none => exact Or.inl (translateOne_of_no_members hmembers h)
  | some members =>
      rw [translateOne_of_members hmembers] at h
      obtain ⟨found, middle, hfinder, hrest⟩ := Action.bind_ok_inv h
      rw [Action.liftExcept_apply] at hfinder
      obtain ⟨hfound, rfl⟩ := Prod.mk.inj hfinder
      cases found with
      | none =>
          cases hrest
          exact Or.inl ⟨rfl, rfl⟩
      | some action =>
          rw [finder?_builtIn hordinary.handled hmembers hfound] at hrest
          obtain ⟨_, cleared, hcleared, hrest⟩ := Action.bind_ok_inv hrest
          obtain ⟨_, translated, hexplained, hnoted⟩ := Action.bind_ok_inv hrest
          cases hcleared
          cases hnoted
          rw [explaining_apply, translateDraft] at hexplained
          cases hdecoded : decode raw with
          | error failure =>
              rw [hdecoded] at hexplained
              cases hexplained
          | ok descriptor =>
              rw [hdecoded, Action.liftExcept_ok_bind] at hexplained
              refine Or.inr ⟨descriptor, translated, rfl, ?_, rfl, rfl⟩
              generalize descriptor.translate _ = run at hexplained ⊢
              obtain ⟨outcome, left⟩ := run
              cases outcome with
              | error failure => cases hexplained
              | ok done =>
                  cases hexplained
                  rfl

end Handlers

namespace Turn

/-- What a turn leaves that ends well.  Everything it registers or publishes is under a prerequisite
of the names it owes. -/
structure Accounts (turn : Turn) : Prop where
  settled : turn.after.Settled
  extended : turn.before.Extends turn.after
  registered : ∀ key, turn.Registers key → ∃ prerequisite names,
    Entries.get? turn.after.registry.prerequisites key = some prerequisite ∧
      prerequisite.listed? = some names ∧ turn.Owes names
  published : ∀ name, turn.Publishes name → ∃ published names,
    Entries.get? turn.after.catalogue.published name = some published ∧
      published.prerequisite.listed? = some names ∧ turn.Owes names

variable {turn : Turn}

theorem accounts_of_same (hsettled : turn.before.Settled)
    (hregistry : turn.after.registry.prerequisites = turn.before.registry.prerequisites)
    (hpublished : turn.after.catalogue.published = turn.before.catalogue.published) :
    turn.Accounts := by
  have hkeys : Entries.keys turn.after.registry = Entries.keys turn.before.registry := by
    rw [← Registry.keys_prerequisites, hregistry, Registry.keys_prerequisites]
  refine ⟨⟨?_, ?_⟩, ⟨?_, ?_⟩, ?_, ?_⟩
  · rw [Catalogue.Listed, hpublished]
    exact hsettled.listed
  · rw [hpublished, hkeys]
    exact hsettled.named
  · rw [hregistry]
    exact fun _ _ h => h
  · rw [hpublished]
    exact fun _ _ h => h
  · rintro key ⟨hafter, hbefore⟩
    exact absurd (hkeys ▸ hafter) hbefore
  · rintro name ⟨hafter, hbefore⟩
    exact absurd (hpublished ▸ hafter) hbefore

/-- What a turn registers and publishes is under one prerequisite, of the names it owes. -/
theorem accounts_of_enlists {keys : List String} {prerequisite : Prerequisite}
    {names : List String} (hsettled : turn.before.Settled)
    (h : turn.before.Enlists turn.after keys prerequisite)
    (hnames : prerequisite.listed? = some names) (howes : turn.Owes names) : turn.Accounts where
  extended := h.extends hsettled
  settled := by
    constructor
    · intro name published hfound
      rcases h.published_cases (Entries.mem_keys_of_get? hfound) with hold | ⟨_, expression, hnew⟩
      · obtain ⟨held, hheld⟩ := Entries.exists_get?_of_mem_keys hold
        rw [(h.extends hsettled).published name held hheld] at hfound
        cases hfound
        exact hsettled.listed name _ hheld
      · rw [hnew] at hfound
        cases hfound
        exact ⟨names, hnames⟩
    · intro name hmem
      rw [h.mem_keys_iff]
      rcases h.published_cases hmem with hold | ⟨hfield, _⟩
      · exact Or.inl (hsettled.named name hold)
      · exact Or.inr hfield
  registered := by
    rintro key ⟨hafter, hbefore⟩
    have hmem := (h.mem_keys_iff.mp hafter).resolve_left hbefore
    exact ⟨prerequisite, names, h.get?_new hmem, hnames, howes⟩
  published := by
    rintro name ⟨hafter, hbefore⟩
    obtain ⟨_, expression, hfound⟩ := (h.published_cases hafter).resolve_left hbefore
    exact ⟨_, names, hfound, hnames, howes⟩

theorem owes_of_decoded {descriptor : Descriptor} {own names : List String}
    (hdecoded : Descriptor.decode turn.raw = .ok descriptor)
    (hown : descriptor.prerequisite.listed? = some own)
    (h : ∀ name, name ∈ names ↔ name ∈ own ∨ ∃ draft ∈ descriptor.shortcut.source?, ∃ read,
      draft.LooksUp turn.before.catalogue.takeReads.2 read ∧
        name ∈ turn.before.catalogue.takeReads.2.stored read) : turn.Owes names := by
  have hsource : turn.source? = descriptor.shortcut.source? := by
    rw [source?, hdecoded]
  have howned : turn.own = own := by
    rw [Turn.own, hdecoded]
    exact congrArg (Option.getD · []) hown
  intro name
  rw [h, howned]
  refine or_congr_right ⟨?_, ?_⟩
  · rintro ⟨draft, hdraft, read, hread, hstored⟩
    exact ⟨read, ⟨draft, hsource ▸ hdraft, Draft.looksUp_withReads.mp hread⟩, hstored⟩
  · rintro ⟨read, ⟨draft, hdraft, hread⟩, hstored⟩
    exact ⟨draft, hsource ▸ hdraft, read, Draft.looksUp_withReads.mpr hread, hstored⟩

end Turn

namespace Handlers

variable {handlers : Handlers} {raw : Draft} {raws : List Draft} {desk after last : Desk}

/-- One turn. -/
theorem accounts_translateOne (hordinary : handlers.Ordinary raw) (hsettled : desk.Settled)
    (h : handlers.translateOne raw desk = (.ok (), after)) :
    (Turn.mk raw desk after).Accounts := by
  rcases translateOne_ok_inv hordinary h with
    ⟨hregistry, hcatalogue⟩ | ⟨descriptor, left, hdecoded, htranslated, hregistry, hcatalogue⟩
  · apply Turn.accounts_of_same hsettled
    · exact congrArg Registry.prerequisites hregistry
    · exact congrArg Catalogue.published hcatalogue
  · obtain ⟨own, hown⟩ := hordinary.own descriptor hdecoded
    have hcleared : ({ desk with catalogue := desk.catalogue.takeReads.2 } : Desk).Cleared :=
      ⟨rfl, hsettled.listed⟩
    obtain ⟨keys, prerequisite, ⟨hregistered, hfresh, hpublished⟩, hgathers⟩ :=
      descriptor.accounts_translate hown (hordinary.source descriptor hdecoded) hcleared htranslated
    rw [← hregistry] at hregistered
    rw [← hcatalogue] at hpublished
    rcases hgathers with rfl | ⟨names, hnames, hmem⟩
    · apply Turn.accounts_of_same hsettled
      · rw [hregistered, List.map_nil, List.append_nil]
      · rcases hpublished with hsame | ⟨name, expression, hfield, _⟩
        · exact hsame
        · cases hfield
    · exact Turn.accounts_of_enlists hsettled ⟨hregistered, hfresh, hpublished⟩ hnames
        (Turn.owes_of_decoded hdecoded hown hmem)

/-- Every turn of a list that is translated to its end. -/
theorem accounts_translateEach (hordinary : ∀ raw ∈ raws, handlers.Ordinary raw)
    (hsettled : desk.Settled) (h : handlers.translateEach raws desk = (.ok (), last)) :
    desk.Extends last ∧
      ∀ turn ∈ handlers.turns raws desk, turn.Accounts ∧ turn.after.Extends last := by
  induction raws generalizing desk with
  | nil =>
      cases h
      exact ⟨.refl _, fun _ hmem => absurd hmem List.not_mem_nil⟩
  | cons raw rest ih =>
      rw [translateEach] at h
      obtain ⟨_, middle, hone, hrest⟩ := Action.bind_ok_inv h
      have haccounts := accounts_translateOne (hordinary raw List.mem_cons_self) hsettled hone
      obtain ⟨hextends, hturns⟩ :=
        ih (fun other hmem => hordinary other (List.mem_cons_of_mem _ hmem)) haccounts.settled hrest
      refine ⟨haccounts.extended.trans hextends, ?_⟩
      rw [turns, hone]
      intro turn hmem
      rcases List.mem_cons.mp hmem with rfl | hlater
      · exact ⟨haccounts, hextends⟩
      · exact hturns turn hlater

end Handlers

end QueryWeave

import QueryWeave.Proofs.Shortcut.Turn

/-!
Where the names of a prerequisite come from.  A descriptor draws on those that published what it
looks up and, through them, on those that they draw on.  Main statement:
`Building.useShortcuts_prerequisites`.
-/

namespace QueryWeave

namespace Turn

variable {turns : List Turn} {turn : Turn} {names : List String} {last : Desk}

theorem LooksUp.mem_keys {read : String} (h : turn.LooksUp read) :
    read ∈ Entries.keys turn.before.catalogue.published := by
  obtain ⟨draft, _, hread⟩ := h
  exact Entries.has_iff.mp hread.has

/-- Every expression that is published was published by a turn, and what is stored for it can be
traced. -/
def Sourced (turns : List Turn) (desk : Desk) : Prop :=
  ∀ read ∈ Entries.keys desk.catalogue.published, ∃ other ∈ turns, other.Publishes read ∧
    ∀ name ∈ desk.catalogue.stored read, Traces turns other name

theorem Owes.traces (howes : turn.Owes names) (hsourced : Sourced turns turn.before) {name : String}
    (hmem : name ∈ names) : Traces turns turn name := by
  rcases (howes name).mp hmem with hown | ⟨read, hread, hstored⟩
  · exact ⟨turn, .refl, hown⟩
  · obtain ⟨other, hother, hpublishes, htraced⟩ := hsourced read hread.mem_keys
    obtain ⟨source, hdraws, hown⟩ := htraced name hstored
    exact ⟨source, .head ⟨hother, read, hread, hpublishes⟩ hdraws, hown⟩

theorem Accounts.sourced (haccounts : turn.Accounts) (hturn : turn ∈ turns)
    (hsourced : Sourced turns turn.before) : Sourced turns turn.after := by
  intro read hread
  by_cases hbefore : read ∈ Entries.keys turn.before.catalogue.published
  · obtain ⟨other, hother, hpublishes, htraced⟩ := hsourced read hbefore
    refine ⟨other, hother, hpublishes, ?_⟩
    rw [haccounts.extended.stored_eq hbefore]
    exact htraced
  · obtain ⟨published, names, hfound, hnames, howes⟩ := haccounts.published read ⟨hread, hbefore⟩
    refine ⟨turn, hturn, ⟨hread, hbefore⟩, ?_⟩
    rw [Catalogue.stored_of_get? hfound hnames]
    exact fun name hmem => howes.traces hsourced hmem

/-- The names that are traced from a turn are names that it owes: what is stored for an expression
is still what was owed by the turn that published it. -/
theorem Owes.mem_of_traces (hturns : ∀ turn ∈ turns, turn.Accounts ∧ turn.after.Extends last)
    (hturn : turn ∈ turns) (howes : turn.Owes names) {name : String} (h : Traces turns turn name) :
    name ∈ names := by
  obtain ⟨source, hdraws, hown⟩ := h
  induction hdraws using Relation.ReflTransGen.head_induction_on generalizing names with
  | refl => exact (howes name).mpr (Or.inl hown)
  | @head turn other hdraws _ ih =>
      obtain ⟨hother, read, hread, hpublishes⟩ := hdraws
      obtain ⟨haccounts, hlast⟩ := hturns other hother
      obtain ⟨published, owed, hfound, howed, hotherOwes⟩ := haccounts.published read hpublishes
      have hstays : last.catalogue.stored read = turn.before.catalogue.stored read :=
        ((hturns turn hturn).1.extended.trans (hturns turn hturn).2).stored_eq hread.mem_keys
      have hstored : last.catalogue.stored read = owed := by
        rw [hlast.stored_eq (Entries.mem_keys_of_get? hfound), Catalogue.stored_of_get? hfound howed]
      refine (howes name).mpr (Or.inr ⟨read, hread, ?_⟩)
      rw [← hstays, hstored]
      exact ih hother hotherOwes

end Turn

namespace Handlers

variable {handlers : Handlers} {raws : List Draft} {desk last : Desk} {turns : List Turn}

/-- Turn after turn, what a turn owes can be traced. -/
theorem sourced_turns (hturns : ∀ turn ∈ handlers.turns raws desk, turn ∈ turns ∧ turn.Accounts)
    (hsourced : Turn.Sourced turns desk) {turn : Turn} (hmem : turn ∈ handlers.turns raws desk) :
    Turn.Sourced turns turn.before := by
  induction raws generalizing desk with
  | nil => cases hmem
  | cons raw rest ih =>
      rw [Handlers.turns] at hmem hturns
      obtain ⟨hfirst, haccounts⟩ := hturns _ List.mem_cons_self
      rcases List.mem_cons.mp hmem with rfl | hlater
      · exact hsourced
      · exact ih (fun other hother => hturns other (List.mem_cons_of_mem _ hother))
          (haccounts.sourced hfirst hsourced) hlater

/-- Every key at the end was there from the start or is registered by a turn. -/
theorem registered_of_turns (h : handlers.translateEach raws desk = (.ok (), last)) {key : String}
    (hmem : key ∈ Entries.keys last.registry) :
    key ∈ Entries.keys desk.registry ∨ ∃ turn ∈ handlers.turns raws desk, turn.Registers key := by
  induction raws generalizing desk with
  | nil =>
      cases h
      exact Or.inl hmem
  | cons raw rest ih =>
      rw [translateEach] at h
      obtain ⟨_, middle, hone, hrest⟩ := Action.bind_ok_inv h
      rw [Handlers.turns, hone]
      by_cases hbefore : key ∈ Entries.keys desk.registry
      · exact Or.inl hbefore
      · refine Or.inr ?_
        rcases ih hrest with hmiddle | ⟨turn, hturn, hregisters⟩
        · exact ⟨_, List.mem_cons_self, hmiddle, hbefore⟩
        · exact ⟨turn, List.mem_cons_of_mem _ hturn, hregisters⟩

theorem prerequisites_shareCatalogue (count : Nat) (desk : Desk) :
    (shareCatalogue count desk).registry.prerequisites = desk.registry.prerequisites := by
  rw [shareCatalogue, Registry.prerequisites, Registry.prerequisites, List.map_append, List.map_map]
  calc
    _ = ((desk.registry.take count) ++ (desk.registry.drop count)).map
        fun pair => (pair.1, pair.2.prerequisite) := by
      rw [List.map_append]
      rfl
    _ = _ := by rw [List.take_append_drop]

end Handlers

/-- The desk at which shortcuts are translated. -/
def Workbench.desk (bench : Workbench) (options : Entries Datum) : Desk where
  registry := bench.composer.registry
  options := options
  journal := bench.journal

theorem Workbench.settled_desk (bench : Workbench) (options : Entries Datum) :
    (bench.desk options).Settled where
  listed _ _ hfound := by cases hfound
  named _ hmem := absurd hmem List.not_mem_nil

theorem Workbench.sourced_desk (bench : Workbench) (options : Entries Datum) (turns : List Turn) :
    Turn.Sourced turns (bench.desk options) :=
  fun _ hmem => absurd hmem List.not_mem_nil

namespace Building

open Relation

variable {descriptors : Draft} {raws : List Draft} {options : Entries Datum}
  {bench left : Workbench}

theorem useShortcuts_ok_inv (hraws : Handlers.descriptors descriptors = .ok raws)
    (hdone : useShortcuts descriptors options bench = (.ok (), left)) :
    ∃ last, bench.composer.handlers.translateEach raws (bench.desk options) = (.ok (), last) ∧
      left.composer.registry.prerequisites = last.registry.prerequisites := by
  rw [useShortcuts, hraws, Action.liftExcept_ok_bind] at hdone
  dsimp only [Handlers.translateAll] at hdone
  obtain ⟨houtcome, rfl⟩ := Prod.mk.inj hdone
  refine ⟨_, Prod.ext houtcome rfl, ?_⟩
  exact Handlers.prerequisites_shareCatalogue _ _

/-- Every key that a list of shortcuts adds is registered by the turn of a descriptor.  The fragment
at such a key requires the descriptor's own names with those that are stored for what it looked up,
which are the own names of all that it draws on, and no other name. -/
theorem useShortcuts_prerequisites (hraws : Handlers.descriptors descriptors = .ok raws)
    (hordinary : ∀ raw ∈ raws, bench.composer.handlers.Ordinary raw)
    (hdone : useShortcuts descriptors options bench = (.ok (), left)) :
    let turns := bench.composer.handlers.turns raws (bench.desk options)
    (∀ key ∈ Entries.keys left.composer.registry, key ∈ Entries.keys bench.composer.registry ∨
      ∃ turn ∈ turns, turn.Registers key) ∧
    ∀ turn ∈ turns, ∀ key, turn.Registers key → ∃ fragment names,
      Entries.get? left.composer.registry key = some fragment ∧
        fragment.prerequisite.listed? = some names ∧ turn.Owes names ∧
          ∀ name, name ∈ names ↔ Turn.Traces turns turn name := by
  intro turns
  obtain ⟨last, htranslated, hprerequisites⟩ := useShortcuts_ok_inv hraws hdone
  obtain ⟨_, hturns⟩ :=
    Handlers.accounts_translateEach hordinary (bench.settled_desk options) htranslated
  constructor
  · intro key hmem
    rw [← Registry.keys_prerequisites, hprerequisites, Registry.keys_prerequisites] at hmem
    exact Handlers.registered_of_turns htranslated hmem
  · intro turn hturn key hregisters
    obtain ⟨haccounts, hlast⟩ := hturns turn hturn
    obtain ⟨prerequisite, names, hfound, hnames, howes⟩ := haccounts.registered key hregisters
    have hleft : (Entries.get? left.composer.registry key).map Fragment.prerequisite =
        some prerequisite := by
      rw [← Registry.get?_prerequisites, hprerequisites]
      exact hlast.registered key _ hfound
    obtain ⟨fragment, hfragment, rfl⟩ := Option.map_eq_some_iff.mp hleft
    have hsourced : Turn.Sourced turns turn.before :=
      Handlers.sourced_turns (fun other hother => ⟨hother, (hturns other hother).1⟩)
        (bench.sourced_desk options turns) hturn
    refine ⟨fragment, names, hfragment, hnames, howes, fun name => ⟨?_, ?_⟩⟩
    · exact howes.traces hsourced
    · exact howes.mem_of_traces hturns hturn

/-- A draft of a descriptor with the names that it requires itself. -/
def entitled (type name : String) (own : List String) (members : Entries Draft) : Draft :=
  .object ([("type", .plain (.text type)), ("name", .plain (.text name)),
    ("prerequisite", .plain (.list (own.map .text)))] ++ members)

/-- A function of the lookup that evaluates a script. -/
def reading (script : Script) : Draft :=
  .function false fun arguments => Script.eval (["registered"].zip arguments) script

/-- The order by price looks up the gross price, which looks up the net one.  The filter asks for
the net price and finds the gross one, and the group has no expression. -/
def pricing : List Draft := [
  entitled "field" "net" ["table:orders"]
    [("expression", .expression (.column none "net")), ("registered", .plain (.bool true))],
  entitled "field" "gross" ["table:rates"]
    [("expression", reading (.lookup "net")), ("registered", .plain (.bool true))],
  entitled "subquery" "priced" []
    [("expression", reading (.choice (.has "net") (.find "gross") (.raise "no price")))],
  entitled "groupBy" "void" ["table:void"] [],
  entitled "orderBy" "price" ["table:prices"] [("expression", reading (.lookup "gross"))]]

/-- A composer in which nothing is registered. -/
def bare : Workbench := { composer := {} }

def priced : Workbench := (useShortcuts (.list pricing) [] bare).2

def pricingTurns : List Turn :=
  bare.composer.handlers.turns pricing (bare.desk [])

theorem ordinary_pricing : ∀ raw ∈ pricing, bare.composer.handlers.Ordinary raw := by
  have hreading : ∀ script, ∀ draft ∈ some (reading script), draft.Inquires := by
    intro script draft hdraft
    cases hdraft
    exact Script.inquires_eval _ script
  have hcolumn : ∀ draft ∈ some (Draft.expression (.column none "net")), draft.Inquires := by
    intro draft hdraft
    cases hdraft
    exact Draft.inquires_of_not_function rfl
  have hnone : ∀ draft ∈ (none : Option Draft), draft.Inquires := by
    rintro draft ⟨⟩
  simp only [pricing, List.forall_mem_cons]
  refine ⟨?_, ?_, ?_, ?_, ?_, by simp⟩
  · exact Handlers.Ordinary.of_decode rfl rfl rfl hcolumn
  · exact Handlers.Ordinary.of_decode rfl rfl rfl (hreading _)
  · exact Handlers.Ordinary.of_decode rfl rfl rfl (hreading _)
  · exact Handlers.Ordinary.of_decode rfl rfl rfl hnone
  · exact Handlers.Ordinary.of_decode rfl rfl rfl (hreading _)

theorem pricing_done : useShortcuts (.list pricing) [] bare = (.ok (), priced) := by
  have hok : (useShortcuts (.list pricing) [] bare).1.isOk = true := by decide +kernel
  rw [priced]
  generalize useShortcuts (.list pricing) [] bare = run at hok ⊢
  obtain ⟨outcome, left⟩ := run
  cases outcome with
  | error failure => cases hok
  | ok done => rfl

/-- The order draws on both prices, and the filter on nothing. -/
theorem pricing_prerequisites :
    (∃ turn ∈ pricingTurns, turn.Registers "orderBy:price" ∧ ∀ name,
      name ∈ ["table:prices", "table:rates", "table:orders"] ↔ Turn.Traces pricingTurns turn name) ∧
    ∃ turn ∈ pricingTurns, turn.Registers "priced" ∧ ∀ name,
      name ∈ [] ↔ Turn.Traces pricingTurns turn name := by
  obtain ⟨hkeys, hnames⟩ := useShortcuts_prerequisites rfl ordinary_pricing pricing_done
  have hat : ∀ key listed, (Entries.get? priced.composer.registry key).map
      (fun fragment => fragment.prerequisite.listed?) = some (some listed) →
        ∃ turn ∈ pricingTurns, turn.Registers key ∧ ∀ name,
          name ∈ listed ↔ Turn.Traces pricingTurns turn name := by
    intro key listed hlisted
    obtain ⟨fragment, hfragment, hnamed⟩ := Option.map_eq_some_iff.mp hlisted
    obtain ⟨turn, hturn, hregisters⟩ :=
      (hkeys key (Entries.mem_keys_of_get? hfragment)).resolve_left List.not_mem_nil
    obtain ⟨same, names, hsame, hnames, _, htraced⟩ := hnames turn hturn key hregisters
    rw [hfragment] at hsame
    cases hsame
    rw [hnamed] at hnames
    cases hnames
    exact ⟨turn, hturn, hregisters, htraced⟩
  exact ⟨hat _ _ (by decide +kernel), hat _ _ (by decide +kernel)⟩

end Building

end QueryWeave

import QueryWeave.Composer
import QueryWeave.Proofs.Closure.Trail
import QueryWeave.Proofs.Composer.Parts

namespace QueryWeave

def Fragment.ofQuery (query : Query) (requirement : Requirement) : Fragment where
  recipe := .fixed query
  prerequisite := .settled requirement

/-- What is left to do once every clause is folded in. -/
def Context.complete (context : Context) (query : Query) : Query :=
  (context.addDistinct (context.addLimit query)).collapseHaving

namespace Composer

/-- What the clause steps of a composition work from. -/
def contextOf (composer : Composer) (options : Options) (working : Request) : Context where
  registry := composer.registry
  request := working
  options := options

/-- A composition without its finishers. -/
def unfinished (composer : Composer) (options : Options) (request : Request) :
    Journaled Query := do
  let working ← composer.prepare options request
  let base ← liftExcept (composer.base.query working)
  let context := composer.contextOf options working
  let query ← context.addClauses base.withoutWildcard
  return context.complete query

variable {composer : Composer} {options : Options} {request : Request} {journal : Journal}

/-- The state from which the closure of a request is searched. -/
def opening (request : Request) (journal : Journal) : Search :=
  { request, journal := journal ++ [.request .before request.masked] }

theorem prepare_outcome :
    (composer.prepare options request journal).1 =
      (Closure.search composer.registry (opening request journal)).1.map fun keys =>
        withDefaultFilter composer.registry options
          (Closure.writeBack composer.registry keys
            (Closure.search composer.registry (opening request journal)).2.request) := by
  rw [prepare, note, Action.bind_apply, Action.modify_apply]
  dsimp only
  rw [Action.bind_apply, close, ← opening]
  cases Closure.search composer.registry (opening request journal) with
  | mk outcome search =>
      cases outcome with
      | error failure => rfl
      | ok keys => rfl

theorem prepare_ok_inv {working : Request}
    (hprepare : (composer.prepare options request journal).1 = .ok working) :
    ∃ keys left,
      Closure.search composer.registry (opening request journal) = (.ok keys, left) ∧
      working = withDefaultFilter composer.registry options
        (Closure.writeBack composer.registry keys left.request) := by
  rw [prepare_outcome] at hprepare
  cases hsearch : Closure.search composer.registry (opening request journal) with
  | mk outcome left =>
      rw [hsearch] at hprepare
      cases outcome with
      | error failure => cases hprepare
      | ok keys =>
          cases hprepare
          exact ⟨keys, left, rfl, rfl⟩

theorem prepare_of_done (hstatic : composer.registry.Static)
    (hdone : (Closure.walk composer.registry request).failure = none) :
    (composer.prepare options request journal).1 =
      .ok (withDefaultFilter composer.registry options
        (Closure.writeBack composer.registry
          (Closure.final composer.registry (opening request journal)).closure
          (Closure.final composer.registry (opening request journal)).request)) := by
  rw [prepare_outcome, Closure.search_of_done hstatic (opening request journal) hdone]
  rfl

theorem prepare_of_walk (hstatic : composer.registry.Static) {visits : List Visit}
    (hwalk : Closure.walk composer.registry request = ⟨visits, none⟩) (keys : List String)
    (closed : Request)
    (hkeys : ∀ journal,
      (visits.foldl (Search.meet composer.registry) { request, journal }).closure = keys)
    (hclosed : ∀ journal,
      (visits.foldl (Search.meet composer.registry) { request, journal }).request = closed) :
    (composer.prepare options request journal).1 =
      .ok (withDefaultFilter composer.registry options
        (Closure.writeBack composer.registry keys closed)) := by
  rw [prepare_of_done hstatic (by rw [hwalk]), Closure.final, opening, hwalk, hkeys, hclosed]

theorem compose_eq_unfinished :
    composer.compose options request =
      composer.unfinished options request >>= fun tree =>
        liftExcept (Finisher.runAll composer.finishers tree) := by
  simp only [compose, unfinished, bind_assoc, pure_bind]
  rfl

theorem compose_outcome :
    (composer.compose options request journal).1 =
      (composer.unfinished options request journal).1 >>= Finisher.runAll composer.finishers := by
  rw [compose_eq_unfinished]
  exact Action.bind_fst fun tree _ => Action.yields_liftExcept _

def treeFrom (composer : Composer) (options : Options) (working : Request) (base : Query)
    (parts : Context.Parts) : Query :=
  let context := composer.contextOf options working
  context.complete (context.assemble base.withoutWildcard parts)

theorem unfinished_outcome :
    (composer.unfinished options request journal).1 = do
      let working ← (composer.prepare options request journal).1
      let base ← composer.base.query working
      let parts ← (composer.contextOf options working).parts
      return composer.treeFrom options working base parts := by
  apply Action.bind_fst
  intro working _
  apply (Action.yields_liftExcept _).bind
  intro base _
  have hclauses := ((composer.contextOf options working).addClauses_yields
    base.withoutWildcard).bind fun query _ =>
      Action.yields_pure ((composer.contextOf options working).complete query)
  intro state
  refine (hclauses state).trans ?_
  cases (composer.contextOf options working).parts with
  | error failure => rfl
  | ok parts => rfl

/-- A composition with a result, stage by stage. -/
structure Stages (composer : Composer) (options : Options) (request : Request)
    (journal : Journal) (result : Query) where
  working : Request
  base : Query
  parts : Context.Parts
  /-- The query before the finishers. -/
  tree : Query
  prepared : (composer.prepare options request journal).1 = .ok working
  based : composer.base.query working = .ok base
  parted : (composer.contextOf options working).parts = .ok parts
  unfinished : (composer.unfinished options request journal).1 = .ok tree
  finished : Finisher.runAll composer.finishers tree = .ok result

theorem exists_stages {result : Query}
    (h : (composer.compose options request journal).1 = .ok result) :
    Nonempty (Stages composer options request journal result) := by
  rw [compose_outcome, Action.bind_eq_ok_iff] at h
  obtain ⟨tree, hunfinished, hfinished⟩ := h
  have hstages := hunfinished
  rw [unfinished_outcome] at hstages
  obtain ⟨working, hprepared, hstages⟩ := Action.bind_eq_ok_iff.mp hstages
  obtain ⟨base, hbased, hstages⟩ := Action.bind_eq_ok_iff.mp hstages
  obtain ⟨parts, hparted, _⟩ := Action.bind_eq_ok_iff.mp hstages
  exact ⟨⟨working, base, parts, tree, hprepared, hbased, hparted, hunfinished, hfinished⟩⟩

theorem Stages.tree_eq {result : Query}
    (stages : Stages composer options request journal result) :
    stages.tree = composer.treeFrom options stages.working stages.base stages.parts := by
  have hunfinished := stages.unfinished
  rw [unfinished_outcome, stages.prepared, Action.ok_bind, stages.based, Action.ok_bind,
    stages.parted, Action.ok_bind] at hunfinished
  exact (Except.ok.inj hunfinished).symm

/-- Berths, with one fragment of every kind and the default filter. -/
def harbor : Composer where
  base := .fixed
    { Query.empty with
      select := .many [⟨.named "*", none⟩, ⟨.named "berth", none⟩]
      filter := .one (.named "open")
      group := .name "berth" }
  registry :=
    [("default", .ofQuery { Query.empty with filter := .one (.named "moored") } .none),
      ("table:ships",
        .ofQuery { Query.empty with
          tables := .name "ships"
          filter := .many [.named "afloat", .named "flagged"] } .none),
      ("field:weight",
        .ofQuery { Query.empty with
          distinct := true
          select := .many [⟨.named "gross", none⟩, ⟨.named "net", none⟩] }
          (.names ["table:ships"])),
      ("heavy",
        .ofQuery { Query.empty with
          select := .one ⟨.named "class", none⟩
          filter := .one (.conjunction [.named "laden"])
          group := .by ⟨.one (.named "class"), .one (.named "several")⟩
          order := .one ⟨.named "class", .descending⟩ } .none),
      ("groupBy:port",
        .ofQuery { Query.empty with
          group := .by ⟨.many [], .many [.named "busy"]⟩ } .none),
      ("orderBy:weight",
        .ofQuery { Query.empty with order := .one ⟨.named "gross", .descending⟩ } .none)]

def visit : Request where
  fields := some [.name "weight", .name "flag"]
  filters := [("heavy", .bool true)]
  grouping := some [.name "port", .name "flag"]
  sorting := .one (.key ⟨"weight", some .ascending⟩)
  condition := some (some (.named "listed"))

def visited : Request where
  fields := some [.name "weight", .name "flag"]
  tables := some ["ships"]
  filters := [("heavy", .bool true), ("default", .bool true)]
  grouping := some [.name "port", .name "flag"]
  sorting := .many [.key ⟨"weight", some .ascending⟩]
  condition := some (some (.named "listed"))

def berths : Query :=
  { Query.empty with
    distinct := true
    select := .many
      [⟨.named "berth", none⟩, ⟨.named "gross", none⟩, ⟨.named "net", none⟩,
        ⟨.named "flag", none⟩, ⟨.named "class", none⟩]
    tables := .many [.ofName "ships"]
    filter := .one (.conjunction
      [.named "open", .named "afloat", .named "flagged", .conjunction [.named "laden"],
        .named "moored", .named "listed"])
    group := .by
      ⟨.many [.named "berth", .named "class", .named "flag"],
        .one (.conjunction [.named "several", .named "busy"])⟩
    order := .many [⟨.named "class", .descending⟩, ⟨.named "gross", .ascending⟩] }

theorem walk_visit : Closure.walk harbor.registry visit =
    ⟨[⟨[], "field:weight"⟩, ⟨["field:weight"], "table:ships"⟩, ⟨[], "heavy"⟩,
      ⟨[], "groupBy:port"⟩, ⟨[], "orderBy:weight"⟩], none⟩ := by
  cbv

theorem harbor_static : harbor.registry.Static :=
  Registry.static_of_forall (by simp [harbor, Fragment.ofQuery, Prerequisite.Static])

theorem harbor_prepared : (harbor.prepare {} visit []).1 = .ok visited := by
  rw [prepare_of_walk harbor_static walk_visit
    ["table:ships", "field:weight", "heavy", "groupBy:port", "orderBy:weight"] visit
    (fun journal => by cbv) fun _ => rfl]
  rfl

theorem harbor_composed : (harbor.compose {} visit []).1 = .ok berths := by
  rw [compose_outcome, unfinished_outcome, harbor_prepared]
  rfl

end Composer

end QueryWeave

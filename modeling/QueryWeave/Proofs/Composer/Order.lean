import QueryWeave.Composer
import QueryWeave.Proofs.Closure.Order

/-!
The order of a closure in the request it is written back into, and in the tables folded from there.
-/

namespace QueryWeave

namespace Key

theorem parse_injective : Function.Injective parse :=
  Function.LeftInverse.injective render_parse

end Key

namespace Closure

variable {kind : Kind} {keys : List String} {first second : String}

theorem nodup_namesOf (hnodup : keys.Nodup) (kind : Kind) : (namesOf kind keys).Nodup := by
  rw [namesOf]
  apply List.Nodup.map_on _ ((hnodup.map Key.parse_injective).filter _)
  intro left hleft right hright hname
  have hkinds : left.kind = right.kind :=
    (eq_of_beq (List.mem_filter.mp hleft).2).trans (eq_of_beq (List.mem_filter.mp hright).2).symm
  cases left
  cases right
  exact congrArg₂ Key.mk hkinds hname

theorem precedes_namesOf (h : Precedes keys first second) {needed name : String}
    (hfirst : Key.parse first = ⟨kind, needed⟩) (hsecond : Key.parse second = ⟨kind, name⟩) :
    Precedes (namesOf kind keys) needed name := by
  have hparsed := h.map Key.parse
  rw [hfirst, hsecond] at hparsed
  exact (hparsed.filter (fun key => key.kind == kind) (beq_self_eq_true _)
    (beq_self_eq_true _)).map Key.name

section FrontOf

variable {α : Type} {names : List String}

/-- Names in front are there whatever the entries after them are. -/
theorem precedes_frontOf (name? : α → Option String) (ofName : String → α) (hnodup : names.Nodup)
    (h : Precedes names first second) (entries : List α) :
    Precedes (frontOf name? ofName names entries) (ofName first) (ofName second) := by
  have hnames : addEntries some [] names = names := addEntries_some_of_nodup hnodup
  rw [frontOf, hnames]
  exact (h.map ofName).mono (prefix_addEntries name? _ entries).sublist

theorem nodup_filterMap_frontOf (name? : α → Option String) {ofName : String → α}
    (hofName : ∀ name, name? (ofName name) = some name) (names : List String)
    (entries : List α) : ((frontOf name? ofName names entries).filterMap name?).Nodup := by
  rw [frontOf]
  apply nodup_filterMap_addEntries
  rw [filterMap_map_name name? hofName]
  exact nodup_addEntries_some List.nodup_nil names

end FrontOf

variable {request : Request}

theorem nodup_fields_writeBack (registry : Registry) (keys : List String) (request : Request) :
    ((writeBack registry keys request).fieldList.filterMap FieldEntry.name?).Nodup :=
  nodup_filterMap_frontOf FieldEntry.name? (fun _ => rfl) _ _

theorem nodup_tables_writeBack (registry : Registry) (keys : List String) (request : Request) :
    (writeBack registry keys request).tableList.Nodup := by
  have h := nodup_filterMap_frontOf some (fun name : String => rfl) (namesOf .table keys)
    request.tableList
  rw [List.filterMap_some] at h
  exact h

theorem precedes_fields_writeBack (registry : Registry) (request : Request) (hnodup : keys.Nodup)
    (h : Precedes keys first second) {needed name : String}
    (hfirst : Key.parse first = ⟨.field, needed⟩) (hsecond : Key.parse second = ⟨.field, name⟩) :
    Precedes (writeBack registry keys request).fieldList (.name needed) (.name name) :=
  precedes_frontOf FieldEntry.name? .name (nodup_namesOf hnodup _)
    (precedes_namesOf h hfirst hsecond) _

theorem precedes_tables_writeBack (registry : Registry) (request : Request) (hnodup : keys.Nodup)
    (h : Precedes keys first second) {needed name : String}
    (hfirst : Key.parse first = ⟨.table, needed⟩) (hsecond : Key.parse second = ⟨.table, name⟩) :
    Precedes (writeBack registry keys request).tableList needed name :=
  precedes_frontOf some id (nodup_namesOf hnodup _) (precedes_namesOf h hfirst hsecond) _

end Closure

namespace Context

/-- The tables of a request are folded in one after another, the first of two before the second. -/
def FoldsBefore (context : Context) (first second : String) : Prop :=
  ∃ front middle back,
    context.request.tableList = front ++ first :: (middle ++ second :: back) ∧
    ∀ base, context.addTables base = (do
      let query ← front.foldlM context.addTable base
      let query ← context.addTable query first
      let query ← middle.foldlM context.addTable query
      let query ← context.addTable query second
      back.foldlM context.addTable query : Journaled Query)

theorem foldsBefore_of_precedes {context : Context} {first second : String}
    (h : Precedes context.request.tableList first second) : context.FoldsBefore first second := by
  obtain ⟨front, middle, back, htables⟩ := h.split
  refine ⟨front, middle, back, htables, ?_⟩
  intro base
  rw [addTables, htables, List.foldlM_append]
  simp only [List.foldlM_cons, List.foldlM_append]

end Context

theorem Composer.tableList_withDefaultFilter (registry : Registry) (options : Options)
    (request : Request) :
    (withDefaultFilter registry options request).tableList = request.tableList := by
  rw [withDefaultFilter]
  split
  · rfl
  · rfl

namespace Closure

variable {registry : Registry} {request : Request}

/-- What a key depends on comes before it: in the closure, where keys of one weight stay in order of
first visit, among the fields and the tables that the closure is written back into, and when the
tables are folded in. -/
theorem closure_orders_requirements (hstatic : registry.Static) {journal : Journal}
    {keys : List String} {left : Search}
    (hdone : search registry { request, journal } = (.ok keys, left)) :
    keys.Nodup ∧
    (∀ key ∈ keys, ∀ other, registry.Depends key other → Precedes keys other key) ∧
    (∀ first second, left.weight first = left.weight second →
      Precedes (Trail.firstMet (walk registry request).visits) first second →
      Precedes keys first second) ∧
    ((writeBack registry keys left.request).fieldList.filterMap FieldEntry.name?).Nodup ∧
    (writeBack registry keys left.request).tableList.Nodup ∧
    (∀ key ∈ keys, ∀ other name needed, registry.Depends key other →
      Key.parse key = ⟨.field, name⟩ → Key.parse other = ⟨.field, needed⟩ →
      Precedes (writeBack registry keys left.request).fieldList (.name needed) (.name name)) ∧
    (∀ key ∈ keys, ∀ other name needed, registry.Depends key other →
      Key.parse key = ⟨.table, name⟩ → Key.parse other = ⟨.table, needed⟩ →
      Precedes (writeBack registry keys left.request).tableList needed name ∧
      ∀ options, Context.FoldsBefore
        { registry
          request :=
            Composer.withDefaultFilter registry options (writeBack registry keys left.request)
          options } needed name) := by
  obtain ⟨hwalk, rfl, rfl⟩ := search_eq_ok_inv hstatic hdone
  have hnodup : (final registry { request, journal }).closure.Nodup := closure_nodup _ rfl
  have horder : ∀ key ∈ (final registry { request, journal }).closure, ∀ other,
      registry.Depends key other →
      Precedes (final registry { request, journal }).closure other key := by
    intro key hkey other hdepends
    exact precedes_closure_of_depends _ rfl hwalk hkey hdepends
  refine ⟨hnodup, horder, ?_, nodup_fields_writeBack _ _ _, nodup_tables_writeBack _ _ _, ?_, ?_⟩
  · intro first second hweight hvisited
    rw [← keys_weights_final { request, journal } rfl] at hvisited
    exact Search.closure_stable (nodup_keys_weights_final _ rfl) hweight hvisited
  · intro key hkey other name needed hdepends hname hneeded
    exact precedes_fields_writeBack _ _ hnodup (horder key hkey other hdepends) hneeded hname
  · intro key hkey other name needed hdepends hname hneeded
    have htables := precedes_tables_writeBack registry
      (final registry { request, journal }).request hnodup (horder key hkey other hdepends)
      hneeded hname
    refine ⟨htables, ?_⟩
    intro options
    apply Context.foldsBefore_of_precedes
    rw [Composer.tableList_withDefaultFilter]
    exact htables

theorem stacked_closure_ordered :
    stacked.Static ∧ ∃ left,
      search stacked { request := totals } =
        (.ok ["table:orders", "orderBy:day", "table:items", "field:price", "field:total"], left) ∧
      Context.FoldsBefore
        { registry := stacked
          request := Composer.withDefaultFilter stacked {}
            (writeBack stacked
              ["table:orders", "orderBy:day", "table:items", "field:price", "field:total"]
              left.request)
          options := {} } "orders" "items" := by
  obtain ⟨left, hdone⟩ := search_stacked
  obtain ⟨_, _, _, _, _, _, htables⟩ := closure_orders_requirements static_stacked hdone
  have hrequires : stacked.Requires "table:items" "table:orders" :=
    Registry.mem_required.mp (by decide)
  obtain ⟨_, hfolds⟩ :=
    htables "table:items" (by simp) "table:orders" "items" "orders" (.single hrequires) (by decide)
      (by decide)
  exact ⟨static_stacked, left, hdone, hfolds {}⟩

end Closure

end QueryWeave

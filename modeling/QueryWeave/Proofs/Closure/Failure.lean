import QueryWeave.Proofs.Closure.Route

/-!
When the search for a closure fails, and what its failure tells.  It fails exactly on the requests
for a key from which the graph of requirements leads into a cycle or to a name without a fragment,
and the path it reports is the way there.
-/

namespace QueryWeave

namespace Registry

variable {registry : Registry} {starts path : List String} {key other : String}

namespace Route

theorem concat_inv (h : registry.Route starts (path ++ [key])) :
    registry.Route starts path ∧ registry.Leads starts path key ∧
      key ∈ Entries.keys registry ∧ key ∉ path := by
  generalize hwhole : path ++ [key] = whole at h
  cases h with
  | nil => simp at hwhole
  | concat route leads registered fresh =>
      obtain ⟨rfl, hkey⟩ := List.append_inj' hwhole rfl
      cases hkey
      exact ⟨route, leads, registered, fresh⟩

/-- Every key of a route is on the way to what may come next. -/
theorem depends_of_leads (h : registry.Route starts path)
    (hleads : registry.Leads starts path other) (hmem : key ∈ path) :
    registry.Depends key other := by
  induction h generalizing other with
  | nil => simp at hmem
  | concat _ leads _ _ ih =>
      rw [leads_concat] at hleads
      rcases List.mem_append.mp hmem with hold | hnew
      · exact (ih leads hold).tail hleads
      · rw [List.mem_singleton.mp hnew]
        exact .single hleads

/-- What may come next on a route that has begun is reached from a registered key to start from. -/
theorem exists_start (h : registry.Route starts path)
    (hleads : registry.Leads starts path other) (hbegun : path ≠ []) :
    ∃ start ∈ starts, start ∈ Entries.keys registry ∧ path.head? = some start ∧
      registry.Depends start other := by
  cases path with
  | nil => exact absurd rfl hbegun
  | cons first rest =>
      obtain ⟨start, hstart, hhead⟩ := h.head_mem_starts hleads
      rw [List.cons_append, List.head?_cons, Option.some_inj] at hhead
      subst hhead
      exact ⟨first, hstart, h.registered_of_mem List.mem_cons_self, rfl,
        h.depends_of_leads hleads List.mem_cons_self⟩

end Route

/-- A path from a requested key along the edges, of distinct keys up to the last, which repeats an
earlier one. -/
structure ClosesCycle (registry : Registry) (requested path : List String) : Prop where
  start : ∃ key ∈ requested, path.head? = some key
  steps : path.IsChain registry.Requires
  distinct : path.dropLast.Nodup
  closes : ∃ key ∈ path.dropLast, path.getLast? = some key

/-- A path from a requested key along the edges, of distinct registered keys, the last of which
names a key that is not registered. -/
structure EndsBeforeMissing (registry : Registry) (requested path : List String)
    (missing : String) : Prop where
  start : ∃ key ∈ requested, path.head? = some key
  steps : path.IsChain registry.Requires
  distinct : path.Nodup
  registered : ∀ key ∈ path, key ∈ Entries.keys registry
  names : ∃ last, path.getLast? = some last ∧ registry.Names last missing
  missing : missing ∉ Entries.keys registry

end Registry

/-- What the failure of a search reports is so. -/
def Failure.Reports (registry : Registry) (requested : List String) : Failure → Prop
  | .cycle path => registry.ClosesCycle requested path
  | .prerequisiteNotFound missing path => registry.EndsBeforeMissing requested path missing
  | _ => False

namespace Failure.Routed

variable {registry : Registry} {starts : List String} {failure : Failure}

theorem reports (h : failure.Routed registry starts) : failure.Reports registry starts := by
  cases h with
  | @cycle path key route leads repeated =>
      refine ⟨route.head_mem_starts leads, Registry.Route.isChain_concat route.isChain leads, ?_, ?_⟩
      · rw [List.dropLast_concat]
        exact route.nodup
      · rw [List.dropLast_concat, List.getLast?_concat]
        exact ⟨key, repeated, rfl⟩
  | @missing path key route leads unregistered below =>
      obtain ⟨start, hstart, _, hhead, _⟩ := route.exists_start leads below
      obtain ⟨last, hlast⟩ := List.getLast?_isSome.mpr below |> Option.isSome_iff_exists.mp
      rw [Registry.Leads, hlast] at leads
      exact ⟨⟨start, hstart, hhead⟩, route.isChain, route.nodup,
        fun _ hmem => route.registered_of_mem hmem,
        ⟨last, hlast, leads.names_of_not_mem unregistered⟩, unregistered⟩

/-- A failure is the fault of a registered key to start from. -/
theorem exists_doomed (h : failure.Routed registry starts) :
    ∃ start ∈ starts, start ∈ Entries.keys registry ∧ registry.Doomed start := by
  cases h with
  | @cycle path key route leads repeated =>
      obtain ⟨start, hstart, hregistered, _, hdepends⟩ :=
        route.exists_start leads (List.ne_nil_of_mem repeated)
      exact ⟨start, hstart, hregistered, key, hdepends.to_reflTransGen,
        Or.inl (route.depends_of_leads leads repeated)⟩
  | @missing path key route leads unregistered below =>
      obtain ⟨start, hstart, hregistered, _, hdepends⟩ := route.exists_start leads below
      obtain ⟨last, hreaches, hrequires⟩ := Relation.TransGen.tail'_iff.mp hdepends
      exact ⟨start, hstart, hregistered, last, hreaches,
        Or.inr ⟨key, hrequires.names_of_not_mem unregistered, unregistered⟩⟩

end Failure.Routed

namespace Closure

variable {registry : Registry}

theorem walk_sound (registry : Registry) (request : Request) :
    (walk registry request).Sound registry request.keys :=
  trail_sound .nil fun _ hkey => hkey

theorem walk_broken_iff_doomed {request : Request} :
    (∃ failure, (walk registry request).failure = some failure) ↔
      ∃ key ∈ request.keys, key ∈ Entries.keys registry ∧ registry.Doomed key := by
  constructor
  · rintro ⟨failure, hbroken⟩
    exact ((walk_sound registry request).failure failure hbroken).exists_doomed
  · rintro ⟨key, hrequested, hregistered, hdoomed⟩
    cases hdone : (walk registry request).failure with
    | some failure => exact ⟨failure, rfl⟩
    | none =>
        obtain ⟨hsaturated, hgiven⟩ := trail_complete hdone
        obtain ⟨_, _, hvisited⟩ := hgiven key hrequested
        exact absurd hdoomed (hsaturated.not_doomed (hvisited hregistered))

theorem search_eq_error_iff (hstatic : registry.Static) (start : Search) {failure : Failure} :
    (search registry start).1 = .error failure ↔
      (walk registry start.request).failure = some failure := by
  cases houtcome : (walk registry start.request).failure with
  | some other =>
      rw [search_of_broken hstatic start houtcome]
      simp
  | none =>
      rw [search_of_done hstatic start houtcome]
      simp

/-- The search fails exactly on the requests for a key that is doomed, and reports why. -/
theorem search_error_iff_doomed (hstatic : registry.Static) (request : Request)
    (journal : Journal) :
    ((∃ failure, (search registry { request, journal }).1 = .error failure) ↔
      ∃ key ∈ request.keys, key ∈ Entries.keys registry ∧ registry.Doomed key) ∧
    ∀ failure, (search registry { request, journal }).1 = .error failure →
      failure.Reports registry request.keys := by
  simp only [search_eq_error_iff hstatic]
  refine ⟨walk_broken_iff_doomed, ?_⟩
  intro failure hbroken
  exact ((walk_sound registry request).failure failure hbroken).reports

/-- Three filters, two of which require each other. -/
def entangled : Registry :=
  [("a", .bare (.names ["b"])), ("b", .bare (.names ["c"])), ("c", .bare (.names ["b"]))]

theorem search_entangled_fails :
    entangled.Static ∧
      ∃ failure, (search entangled { request := { filters := [("a", .bool true)] } }).1 =
        .error failure ∧ failure.Reports entangled ["a"] := by
  have hstatic : entangled.Static :=
    Registry.static_of_forall (by simp [entangled, Fragment.bare, Prerequisite.Static])
  have hab : entangled.Requires "a" "b" := Registry.mem_required.mp (by decide)
  have hbc : entangled.Requires "b" "c" := Registry.mem_required.mp (by decide)
  have hcb : entangled.Requires "c" "b" := Registry.mem_required.mp (by decide)
  have hdoomed : entangled.Doomed "a" :=
    ⟨"b", .single hab, Or.inl ((Relation.TransGen.single hbc).tail hcb)⟩
  obtain ⟨hfails, hreports⟩ :=
    search_error_iff_doomed hstatic { filters := [("a", .bool true)] } []
  obtain ⟨failure, hfailure⟩ := hfails.mpr ⟨"a", by decide, by decide, hdoomed⟩
  exact ⟨hstatic, failure, hfailure, hreports failure hfailure⟩

end Closure

end QueryWeave

import QueryWeave.Registry

/-!
The closure of a request: every fragment it asks for, and every fragment those require.  The search
follows requirements depth first.  A key weighs the sum of the depths it is met at, and the closure
lists heavier keys first, so that what is required comes before what requires it.
-/

namespace QueryWeave

structure Search where
  request : Request
  /-- The keys met so far in order of first visit, with their weights. -/
  weights : Entries Nat := []
  /-- The keys whose patches are in the request. -/
  patched : List String := []
  journal : Journal := []

namespace Search

def visit (search : Search) (key : String) (depth : Nat) : Search :=
  let weight := (Entries.get? search.weights key).getD 0
  { search with weights := Entries.put search.weights key (weight + depth) }

/-- Puts a patch into the request, unless the key has already put its own. -/
def applyPatch (search : Search) (key : String) (patch : Request) : Search :=
  if search.patched.contains key then search
  else
    { search with
      patched := search.patched ++ [key]
      request := search.request.update patch }

def note (search : Search) (entry : Entry) : Search :=
  { search with journal := search.journal ++ [entry] }

/-- The keys, the heaviest first; keys of one weight stay in order of first visit. -/
def closure (search : Search) : List String :=
  (search.weights.mergeSort fun left right => right.2 ≤ left.2).map Prod.fst

end Search

abbrev Searching := Action Search

namespace Closure

/-- The keys of a registry that are not on a path. -/
def ahead (registry : Registry) (path : List String) : List String :=
  (Entries.keys registry).filter fun key => !path.contains key

theorem length_ahead_lt {registry : Registry} {path : List String} {key : String}
    (hregistered : key ∈ Entries.keys registry) (hfresh : key ∉ path) :
    (ahead registry (path ++ [key])).length < (ahead registry path).length := by
  have hsub : ahead registry (path ++ [key]) =
      (ahead registry path).filter fun other => other != key := by
    simp only [ahead, List.filter_filter]
    apply List.filter_congr
    intro other _
    by_cases h : other = key <;> simp [h]
  rw [hsub]
  apply List.length_filter_lt_length_iff_exists.mpr
  exact ⟨key, by simp [ahead, hregistered, hfresh], by simp⟩

/-- The keys that a settled requirement asks for.  Names that are not texts are refused, and a
patch asks for those of its keys that are registered. -/
def required (registry : Registry) (key : String) (requirement : Requirement) :
    Searching (List String) :=
  match requirement with
  | .none => pure []
  | .names names => pure names
  | .mixed _ => throw .wrongType
  | .patch patch => do
      modify fun search => search.applyPatch key patch
      return patch.keys.filter (Entries.has registry)

def requirements (registry : Registry) (key : String) (fragment : Fragment) :
    Searching (List String) := do
  let request := (← get).request
  let requirement ← Action.onJournal Search.journal
    (fun search journal => { search with journal }) (fragment.prerequisite.resolve request)
  let names ← required registry key requirement
  if !names.isEmpty then
    modify fun search => search.note (.prerequisites key names)
  return names

/-- Visits keys in order, each with everything it requires.  `path` leads from a requested key to
the one that requires these; a key on its own path closes a cycle. -/
def visitAll (registry : Registry) (path : List String) : List String → Searching Unit
  | [] => pure ()
  | key :: rest =>
      if _hfresh : key ∈ path then throw (.cycle (path ++ [key]))
      else
        match _hfound : Entries.get? registry key with
        | none =>
            if path.isEmpty then visitAll registry path rest
            else throw (.prerequisiteNotFound key path)
        | some fragment => do
            modify fun search => search.visit key path.length
            let names ← requirements registry key fragment
            visitAll registry (path ++ [key]) names
            visitAll registry path rest
termination_by keys => ((ahead registry path).length, keys.length)
decreasing_by
  · exact Prod.Lex.right _ (by simp)
  · exact Prod.Lex.left _ _ (length_ahead_lt (Entries.mem_keys_of_get? _hfound) _hfresh)
  · exact Prod.Lex.right _ (by simp)

def search (registry : Registry) : Searching (List String) := do
  visitAll registry [] (← get).request.keys
  return (← get).closure

section WriteBack

universe u

variable {α : Type u}

/-- Names in front of entries, without those entries that are bare names of the same. -/
def frontOf (name? : α → Option String) (ofName : String → α) (names : List String)
    (entries : List α) : List α :=
  addEntries name? ((addEntries some [] names).map ofName) entries

end WriteBack

def namesOf (kind : Kind) (keys : List String) : List String :=
  ((keys.map Key.parse).filter fun key => key.kind == kind).map Key.name

def addFilter (registry : Registry) (filters : Entries Datum) (name : String) : Entries Datum :=
  if Entries.has filters name then filters
  else
    match Entries.get? registry name with
    | some fragment => Entries.put filters name fragment.default
    | none => filters

/-- Sort entries after the names that no entry asks for yet. -/
def addSorting (entries : List SortEntry) (names : List String) : List SortEntry :=
  let present := entries.filterMap SortEntry.sortName?
  entries ++ ((addEntries some [] names).filter fun name => !present.contains name).map .name

/-- Writes a closure back into a request.  Fields and tables come before what the request lists
itself, groupings and sort entries after it, and missing filters get their defaults. -/
def writeBack (registry : Registry) (keys : List String) (request : Request) : Request :=
  { request with
    fields := some (frontOf FieldEntry.name? .name (namesOf .field keys) request.fieldList)
    tables := some (frontOf some id (namesOf .table keys) request.tableList)
    filters := (namesOf .filter keys).foldl (addFilter registry) request.filters
    grouping := some
      (addEntries GroupEntry.name? request.groupList ((namesOf .group keys).map .name))
    sorting := .many (addSorting request.sortList (namesOf .order keys)) }

end Closure

end QueryWeave

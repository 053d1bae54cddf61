import QueryWeave.Datum.Text
import QueryWeave.Failure

namespace QueryWeave

inductive Level where
  | debug
  | warning
  deriving DecidableEq

inductive Stage where
  | before
  | after
  deriving DecidableEq

inductive Entry where
  | registered (key : String)
  | overwritten (key : String)
  | applied (key : String)
  | prerequisites (key : String) (names : List String)
  | filterApplied (name : String) (bindings : List (String × Datum))
  | noColumns (key : String)
  | noGrouping (key : String)
  | unreadablePrerequisite (shown : String)
  | unknownShortcut (type name : String)
  | builtInShortcut (type : String)
  | shortcutApplied (type name : String)
  /-- The masked form of the working request before or after its closure. -/
  | request (stage : Stage) (masked : Datum)

namespace Entry

def level : Entry → Level
  | overwritten _ | noColumns _ | noGrouping _ | unreadablePrerequisite _
  | unknownShortcut _ _ | builtInShortcut _ => .warning
  | _ => .debug

private def binding (pair : String × Datum) : String := s!"{pair.1}={pair.2.quoted}"

/-- The wording; requests are shown as data. -/
def text? : Entry → Option String
  | registered key => some s!"Register {key}"
  | overwritten key => some s!"Overwrite fragment '{key}'"
  | applied key => some s!"Apply {key}"
  | prerequisites key names =>
      let listed := ", ".intercalate names
      some s!"Apply prerequisites of {key} = [{listed}]"
  | filterApplied name bindings =>
      let listed := ", ".intercalate (bindings.map binding)
      some s!"Apply subquery '{name}' with ({listed})"
  | noColumns key => some s!"No result columns returned from '{key}'"
  | noGrouping key => some s!"No GROUP BY returned from '{key}'"
  | unreadablePrerequisite shown => some s!"Ignoring unparsable prerequisite result {shown}"
  | unknownShortcut type name => some s!"Invalid {type}:{name}"
  | builtInShortcut type => some s!"Shortcut '{type}' cannot be overwritten"
  | shortcutApplied type name => some s!"Apply shortcut {type}:{name}"
  | request _ _ => none

end Entry

abbrev Journal := List Entry

/-- An action that may fail and keeps its state when it does. -/
abbrev Action (σ : Type) := ExceptT Failure (StateM σ)

abbrev Journaled := Action Journal

def note (entry : Entry) : Journaled Unit :=
  modify (· ++ [entry])

/-- Runs a journaled action on the journal inside a larger state. -/
def Action.onJournal {σ α : Type} (journal : σ → Journal) (put : σ → Journal → σ)
    (action : Journaled α) : Action σ α :=
  fun state =>
    let (outcome, entries) := action (journal state)
    (outcome, put state entries)

end QueryWeave

import QueryWeave.Datum.Text

namespace QueryWeave

inductive Failure where
  /-- A fragment name that is empty, holds a colon or is no text. -/
  | invalidName (shown : String)
  | alreadyRegistered (key : String)
  | cycle (path : List String)
  | prerequisiteNotFound (key : String) (path : List String)
  | emptyFragment (key clause : String)
  | notPublished (name : String)
  | shortcut (cause : Failure) (type name : String)
  /-- A failure raised by a function of the caller, or an unfit value. -/
  | raised (text : String)
  | missingKey (key : String)
  | unsupportedPrerequisite (shown : String)
  | unknownOptions (names : List String)
  /-- A value that does not have the form of what it should become. -/
  | malformed
  /-- A template that could not be rendered, for a reason of the renderer. -/
  | unrendered (reason : String)
  /-- A value that has no members where members are asked for. -/
  | noMembers
  /-- A value of the wrong type where its items or text are asked for. -/
  | wrongType

namespace Failure

private def route (path : List String) : String := " -> ".intercalate path

/-- The wording, for the failures that have one of their own. -/
def message? : Failure → Option String
  | invalidName shown => some s!"Invalid name '{shown}'"
  | alreadyRegistered key => some s!"Fragment '{key}' already registered"
  | cycle path => some s!"Recursive dependency: {route path}"
  | prerequisiteNotFound key path =>
      some s!"Prerequisite '{key}' not found (required by {route path})"
  | emptyFragment key clause => some s!"No {clause} returned from '{key}'"
  | notPublished name => some s!"expression '{name}' not registered"
  | shortcut cause type name =>
      cause.message?.map fun text => s!"{text}. Fail to register {type}:{name}"
  | raised text => some text
  | missingKey key => some (Text.quoted key)
  | unsupportedPrerequisite shown => some s!"Unsupported prerequisite: {shown}"
  | unknownOptions names => some ("Unknown apply option(s): " ++ ", ".intercalate names)
  | _ => none

end Failure

end QueryWeave

import QueryWeave.Shortcut.Translate

namespace QueryWeave

abbrev Handler := Entries Draft → Translating Unit

structure Handlers where
  custom : Entries Handler := []

namespace Handlers

instance : Inhabited Handlers := ⟨{}⟩

def types (handlers : Handlers) : List String :=
  Shortcut.builtIn ++ Entries.keys handlers.custom

/-- The handlers with one more; a built-in type keeps its own. -/
def add (handlers : Handlers) (type : String) (handler : Handler) : Journaled Handlers := do
  if Shortcut.builtIn.contains type then
    note (.builtInShortcut type)
    return handlers
  else return { handlers with custom := Entries.put handlers.custom type handler }

def addAll (handlers : Handlers) (added : List (String × Handler)) : Journaled Handlers :=
  added.foldlM (fun handlers pair => handlers.add pair.1 pair.2) handlers

def textOf (draft : Draft) : String := draft.datum.display

/-- What translates the descriptors of a type, if anything does. -/
def find? (handlers : Handlers) (type : String) (raw : Draft) (members : Entries Draft) :
    Option (Translating Unit) :=
  if Shortcut.builtIn.contains type then
    some do
      let descriptor ← liftExcept (Descriptor.decode raw)
      descriptor.translate
  else (Entries.get? handlers.custom type).map fun handler => handler members

/-- Runs a translation; a failure names the descriptor it comes from. -/
def explaining (type name : String) (action : Translating Unit) : Translating Unit :=
  tryCatch action fun cause => throw (.shortcut cause type name)

/-- The translation of the descriptors of a type, for a type that is a text. -/
def finder? (handlers : Handlers) (raw : Draft) (members : Entries Draft) :
    Datum → Except Failure (Option (Translating Unit))
  | .text type => .ok (handlers.find? type raw members)
  | .list _ | .object _ | .record _ _ => .error .wrongType
  | _ => .ok none

/-- Translates one descriptor; an unknown type is skipped.  A finished part is of no type, whatever it
is named. -/
def translateOne (handlers : Handlers) (raw : Draft) : Translating Unit := do
  match raw.members?, raw.datum with
  | none, .record _ members =>
      Translating.note (.unknownShortcut "None" (Datum.member members "name").display)
  | none, _ => throw .noMembers
  | some members, _ =>
      let type := (Entries.get? members "type").getD default
      let name := textOf ((Entries.get? members "name").getD default)
      match ← liftExcept (finder? handlers raw members type.datum) with
      | none => Translating.note (.unknownShortcut (textOf type) name)
      | some action =>
          modify fun desk => { desk with catalogue := desk.catalogue.takeReads.2 }
          explaining (textOf type) name action
          Translating.note (.shortcutApplied (textOf type) name)

def translateEach (handlers : Handlers) : List Draft → Translating Unit
  | [] => pure ()
  | raw :: rest => do
      translateOne handlers raw
      translateEach handlers rest

/-- Lets the fragments after the first `count` look up everything that is published. -/
def shareCatalogue (count : Nat) (desk : Desk) : Desk :=
  { desk with
    registry := desk.registry.take count ++ (desk.registry.drop count).map fun pair =>
      (pair.1, { pair.2 with catalogue := desk.catalogue }) }

/-- Translates descriptors in order.  What was registered before a failure stays. -/
def translateAll (handlers : Handlers) (raws : List Draft) : Translating Unit :=
  fun desk =>
    let (outcome, after) := translateEach handlers raws desk
    (outcome, shareCatalogue desk.registry.length after)

/-- The descriptors of a draft that should be a list of them.  What runs through other things, such as
characters and keys, comes upon no descriptor. -/
def descriptors (draft : Draft) : Except Failure (List Draft) :=
  match draft.items?, draft.datum with
  | some items, _ => .ok items
  | none, .text "" | none, .object [] => .ok []
  | none, .text _ | none, .object _ | none, .pair _ _ | none, .record _ _ => .error .noMembers
  | none, _ => .error .wrongType

end Handlers

end QueryWeave

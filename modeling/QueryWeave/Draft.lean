import QueryWeave.Request.Decode
import QueryWeave.Request.Encode
import QueryWeave.Shortcut.Catalogue
import QueryWeave.Tree.Decode
import QueryWeave.Tree.Encode

namespace QueryWeave

inductive Argument where
  | request (request : Request)
  | bound (value : Datum)
  /-- The lookup of published expressions. -/
  | catalogue

/-- A step that may look published expressions up. -/
abbrev Lookup (α : Type) := StateT Catalogue (Except Failure) α

/-- The loose values that callers register: data in which finished parts and functions may stand. -/
inductive Draft where
  | plain (value : Datum)
  | list (items : List Draft)
  | object (members : List (String × Draft))
  | expression (expression : Expr)
  | query (query : Query)
  | request (request : Request)
  /-- `takesRequest` tells whether a filter passes the request beside the bound value. -/
  | function (takesRequest : Bool)
      (call : List Argument → Catalogue → Except Failure (Draft × Catalogue))

namespace Draft

instance : Inhabited Draft := ⟨plain .null⟩

def isFunction : Draft → Bool
  | function _ _ => true
  | _ => false

def members? : Draft → Option (Entries Draft)
  | plain (.object members) => some (members.map fun pair => (pair.1, plain pair.2))
  | object members => some members
  | _ => none

def items? : Draft → Option (List Draft)
  | plain (.list items) => some (items.map plain)
  | list items => some items
  | _ => none

mutual

/-- A draft as data, finished parts as records. -/
def datum : Draft → Datum
  | plain value => value
  | list items => .list (data items)
  | object members => .object (memberData members)
  | expression given => given.encode .record
  | query given => given.encode .record
  | request given => given.encode .record
  | function _ _ => .function

def data : List Draft → List Datum
  | [] => []
  | item :: rest => datum item :: data rest

def memberData : List (String × Draft) → List (String × Datum)
  | [] => []
  | (key, item) :: rest => (key, datum item) :: memberData rest

end

def holds : Draft → Bool
  | plain value => value.holds
  | list items => !items.isEmpty
  | object members => !members.isEmpty
  | _ => true

def orMalformed {α : Type} : Option α → Except Failure α
  | some value => .ok value
  | none => .error .malformed

/-- A query, the empty one for null. -/
def toQuery : Draft → Except Failure Query
  | plain .null => .ok .empty
  | query given => .ok given
  | draft => orMalformed (Query.decode draft.datum)

def toExpr : Draft → Except Failure Expr
  | expression given => .ok given
  | draft => orMalformed (Expr.decode draft.datum)

/-- A request, the empty one for null. -/
def toRequest : Draft → Except Failure Request
  | plain .null => .ok {}
  | request given => .ok given
  | draft => orMalformed (Request.decode draft.datum)

private def requirementOfList (names : List Datum) : Requirement :=
  match names, Datum.toTexts? names with
  | [], _ => .none
  | _, some texts => .names texts
  | names, none => .mixed names

private def requirementOf (value : Datum) : Except Failure Requirement :=
  match value with
  | .null => .ok .none
  | .text name => .ok (.names [name])
  | .list names => .ok (requirementOfList names)
  | .object _ => (orMalformed (Request.decode value)).map .patch
  | value => .error (.unsupportedPrerequisite value.quoted)

mutual

/-- Null, a key, a list of keys, a patch, or a function of the working request. -/
def toPrerequisite : Draft → Except Failure Prerequisite
  | request given => .ok (.settled (.patch given))
  | function _ call => .ok (.dynamic fun given => answer (call [.request given] {}))
  | draft => (requirementOf draft.datum).map .settled

def answer : Except Failure (Draft × Catalogue) → Answer
  | .error failure => .failed failure
  | .ok (draft, _) =>
      match toPrerequisite draft with
      | .ok prerequisite => .accepted prerequisite
      | .error (.unsupportedPrerequisite shown) => .unreadable shown
      | .error failure => .failed failure

end

/-- Calls a draft that is a function; any other draft stands for itself. -/
def evaluate (draft : Draft) (arguments : List Argument) : Lookup Draft :=
  match draft with
  | function _ call => fun catalogue => call arguments catalogue
  | draft => pure draft

def resolveExpr (draft : Draft) (argument : Argument) : Lookup Expr := do
  let value ← draft.evaluate [argument]
  liftExcept value.toExpr

end Draft

end QueryWeave

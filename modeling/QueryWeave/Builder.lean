import QueryWeave.Draft
import QueryWeave.Shortcut.Operator

namespace QueryWeave

namespace Expr

/-- `IF`; the last part is a null literal when it is left out. -/
def ifThenElse (condition yes : Expr) (no : Option Expr) : Expr :=
  .call "IF" [condition, yes, no.getD (.value .null)]

def ifNull (tested otherwise : Expr) : Expr :=
  .call "IFNULL" [tested, otherwise]

def anyValue (inner : Expr) : Expr :=
  .call "ANY_VALUE" [inner]

/-- Membership for a list, equality for anything else. -/
def matching (left : Expr) (bound : Datum) : Query :=
  let sought := match bound with
    | .object members => Datum.member members "value"
    | given => given
  let condition := match sought with
    | .list _ => Expr.inList left false (.value sought)
    | _ => Expr.compare left .equal (.value sought)
  { Query.empty with filter := .many [condition] }

end Expr

/-- An argument as data, a request as a record. -/
def Argument.datum : Argument → Datum
  | request given => given.encode .record
  | bound value => value
  | catalogue => .null

namespace Draft

/-- The filter function of one argument that matches an expression with the bound value. -/
def matching (left : Expr) : Draft :=
  function false fun arguments catalogue =>
    match arguments with
    | [bound] => .ok (query (left.matching bound.datum), catalogue)
    | _ => .error .wrongType

def compareQuery (left : Draft) (bound : Datum) (given : Argument) : Lookup Query := do
  let resolved ← left.resolveExpr given
  liftExcept (Combo.query resolved bound)

/-- The filter function of two arguments that compares an expression with the bound value. -/
def comparing (left : Draft) : Draft :=
  function true fun arguments =>
    (match arguments with
      | [bound, given] => do return query (← left.compareQuery bound.datum given)
      | _ => throw Failure.wrongType : Lookup Draft)

def anyValue (inner : Draft) : Draft :=
  function false fun arguments =>
    (match arguments with
      | [given] => do return expression (Expr.anyValue (← inner.resolveExpr given))
      | _ => throw Failure.wrongType : Lookup Draft)

end Draft

end QueryWeave

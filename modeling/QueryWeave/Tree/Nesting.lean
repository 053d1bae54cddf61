import QueryWeave.Datum

/-!
How deeply a tree is nested.  Forms have ranks, and a walk down a tree keeps the lowest rank it has
met.  A part weighs one, and one more when its own rank is a new lowest.  Forms that stand in only
one place weigh nothing unless their rank is as low as any met before.  The depth of a tree is the
weight of its heaviest path.
-/

namespace QueryWeave.Nesting

def forms : List String :=
  ["BinaryExpression", "MathExpression", "BetweenExpression", "InExpression", "LikeExpression",
    "RegexpExpression", "IsNullExpression", "Case", "CaseExpression", "FunctionExpression",
    "AndExpressions", "OrExpressions", "ParameterExpression", "ExistsExpression",
    "QueryExpression", "ResultColumn", "JoinClause", "FromTable", "GroupBy", "OrderBy",
    "LimitOffset", "Query"]

def leaves : List String := ["ColumnExpression", "Value", "Unknown"]

def single : List String := ["Case", "GroupBy", "LimitOffset"]

def weight (form : String) (rank lowest : Nat) : Nat :=
  if single.contains form then if rank ≤ lowest then 1 else 0
  else if rank < lowest then 2 else 1

mutual

/-- The depth of a datum in record style, below parts of which `lowest` is the lowest rank. -/
def depth (lowest : Nat) : Datum → Nat
  | .list items => depthAll lowest items
  | .record form members =>
      match forms.idxOf? form with
      | some rank => weight form rank lowest + depthMembers (min lowest rank) members
      | none => if leaves.contains form then 1 else depthMembers lowest members
  | _ => 0

def depthAll (lowest : Nat) : List Datum → Nat
  | [] => 0
  | item :: rest => max (depth lowest item) (depthAll lowest rest)

def depthMembers (lowest : Nat) : List (String × Datum) → Nat
  | [] => 0
  | (_, value) :: rest => max (depth lowest value) (depthMembers lowest rest)

end

inductive Root where
  | query
  | table
  /-- An expression, or a part that belongs to no tree. -/
  | other

def Root.rank : Root → Nat
  | query => 21
  | table => 17
  | other => forms.length

def limit : Nat := 255

/-- Whether a datum in record style is not nested too deeply to be read. -/
def fits (root : Root) (value : Datum) : Bool := depth root.rank value ≤ limit

end QueryWeave.Nesting

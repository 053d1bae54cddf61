import QueryWeave.Prerequisite

namespace QueryWeave

structure Published where
  expression : Expr
  prerequisite : Prerequisite

/-- Expressions published by shortcuts, and the names that were looked up. -/
structure Catalogue where
  published : Entries Published := []
  reads : List String := []

namespace Catalogue

instance : Inhabited Catalogue := ⟨{}⟩

def add (catalogue : Catalogue) (name : String) (expression : Expr)
    (prerequisite : Prerequisite) : Catalogue :=
  { catalogue with published := Entries.put catalogue.published name ⟨expression, prerequisite⟩ }

def find? (catalogue : Catalogue) (name : String) : Option Expr :=
  (Entries.get? catalogue.published name).map Published.expression

def has (catalogue : Catalogue) (name : String) : Bool :=
  Entries.has catalogue.published name

/-- Looks an expression up and records the read. -/
def lookup (catalogue : Catalogue) (name : String) : Except Failure (Expr × Catalogue) :=
  match catalogue.find? name with
  | none => .error (.notPublished name)
  | some expression => .ok (expression, { catalogue with reads := catalogue.reads ++ [name] })

/-- The names read since they were last taken, and the catalogue that has forgotten them. -/
def takeReads (catalogue : Catalogue) : List String × Catalogue :=
  (catalogue.reads, { catalogue with reads := [] })

def prerequisiteOf (catalogue : Catalogue) (name : String) : Prerequisite :=
  ((Entries.get? catalogue.published name).map Published.prerequisite).getD default

/-- A prerequisite together with those of the expressions that were read. -/
def withReads (catalogue : Catalogue) (own : Prerequisite) :
    Except Failure (Prerequisite × Catalogue) := do
  let (names, catalogue) := catalogue.takeReads
  let merged ← names.foldlM (fun prerequisite name =>
    prerequisite.merge (catalogue.prerequisiteOf name)) own
  return (merged, catalogue)

end Catalogue

end QueryWeave

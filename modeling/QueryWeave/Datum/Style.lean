import QueryWeave.Datum

/-!
How finished parts are written as data.  In the compact style an absent member is left out and
`from` and `else` have their usual names; in the full style it is null and they are written `from_`
and `else_`.  In the record style members are as in the full style, and every part keeps the name of
its form.
-/

namespace QueryWeave

inductive Style where
  | compact
  | full
  | record
  deriving DecidableEq

namespace Style

def members (style : Style) (fields : List (String × Option Datum)) : Entries Datum :=
  match style with
  | compact => fields.filterMap fun field => field.2.map (field.1, ·)
  | full | record => fields.map fun field => (field.1, Datum.ofOption field.2)

def object (style : Style) (form : String) (fields : List (String × Option Datum)) : Datum :=
  match style with
  | record => .record form (style.members fields)
  | _ => .object (style.members fields)

/-- A part whose form is also its first member. -/
def node (style : Style) (form : String) (fields : List (String × Option Datum)) : Datum :=
  style.object form (("classname", some (.text form)) :: fields)

def pair (style : Style) (first second : String) : Datum :=
  match style with
  | record => .pair first second
  | _ => .list [.text first, .text second]

def fromKey : Style → String
  | compact => "from"
  | full | record => "from_"

def elseKey : Style → String
  | compact => "else"
  | full | record => "else_"

/-- The key of a member, given its key in a record. -/
def key (style : Style) (recorded : String) : String :=
  if recorded = "from_" then style.fromKey
  else if recorded = "else_" then style.elseKey
  else recorded

end Style

namespace Datum

mutual

def restyle (style : Style) : Datum → Datum
  | list items => list (restyleAll style items)
  | object members => object (restyleMembers style members)
  | pair first second => style.pair first second
  | record form members =>
      style.object form ((restyleMembers style members).map fun field =>
        (style.key field.1, field.2.present?))
  | value => value

def restyleAll (style : Style) : List Datum → List Datum
  | [] => []
  | item :: rest => restyle style item :: restyleAll style rest

def restyleMembers (style : Style) : List (String × Datum) → List (String × Datum)
  | [] => []
  | (key, value) :: rest => (key, restyle style value) :: restyleMembers style rest

end

end Datum

end QueryWeave

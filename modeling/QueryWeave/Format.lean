import QueryWeave.Format.Member
import QueryWeave.Text.Letter

/-!
A renderer of templates to run the program with: literal text with holes that show parts of one value,
and choices between texts.  A part that the value does not have shows nothing, but no step leads on
from it.  Fragments take a template with any renderer, and nothing proved of them is about this one.
-/

namespace QueryWeave.Format

inductive Problem where
  /-- An unfinished or unknown construct. -/
  | broken
  /-- A decimal that cannot be read. -/
  | unreadableNumber
  /-- A filter that there is not. -/
  | unknownFilter
  /-- A choice led to a filter that there is not. -/
  | missingFilter
  /-- A step from a part that the value does not have. -/
  | undefined
  /-- A value of the wrong type where its items are asked for. -/
  | wrongType

def Problem.reason : Problem → String
  | broken => "TemplateSyntaxError"
  | unreadableNumber => "SyntaxError"
  | unknownFilter => "TemplateAssertionError"
  | missingFilter => "TemplateRuntimeError"
  | undefined => "UndefinedError"
  | wrongType => "TypeError"

inductive Step where
  | member (name : String)
  | item (index : Datum)
  | upper
  | lower
  | default (other : Datum)
  | join (separator : Datum)
  | unknown (name : String)
  /-- A filter with an argument that it does not take. -/
  | misused

inductive Start where
  | name (name : String)
  | literal (value : Datum)

structure Operand where
  start : Start
  steps : List Step

/-- Operands whose texts are joined; a single one keeps its value. -/
structure Hole where
  first : Operand
  others : List Operand

inductive Node where
  | text (text : String)
  | hole (hole : Hole)
  | choice (test : Hole) (yes no : List Node)

private def itemAt {α : Type} (items : List α) (index : Int) : Option α :=
  let place := if index < 0 then index + items.length else index
  if place < 0 then none else items[place.toNat]?

private def place? : Datum → Option Int
  | .int place => some place
  | .bool given => some (if given then 1 else 0)
  | _ => none

def part? (value index : Datum) : Option Datum :=
  match value, index with
  | .object members, .text name | .record _ members, .text name => Entries.get? members name
  | .list items, index => (place? index).bind (itemAt items)
  | .pair first second, index => (place? index).bind (itemAt [.text first, .text second])
  | .text text, index =>
      (place? index).bind (itemAt (text.toList.map fun c => .text (String.singleton c)))
  | _, _ => none

/-- What an index in brackets leads to, what things have of their own left aside. -/
private def subscript? (shown : Shown) (index : Datum) : Option Shown :=
  match shown with
  | .datum value => (part? value index).map .datum
  | .kind sort => Shown.bracketed? sort index
  | .kinds names => ((place? index).bind (itemAt names)).map .kind
  | _ => none

/-- A member by name: what things have of their own comes before their parts. -/
def memberOf (shown : Shown) (name : String) : Except Problem Shown :=
  match shown.own? name, shown with
  | some own, _ => .ok own
  | none, .missing => .error .undefined
  | none, shown => .ok ((subscript? shown (.text name)).getD .missing)

/-- A part by index: the parts of things come before what they have of their own. -/
def itemOf (shown : Shown) (index : Datum) : Except Problem Shown :=
  match subscript? shown index, shown, index with
  | some part, _, _ => .ok part
  | none, .missing, _ => .error .undefined
  | none, shown, .text name => .ok ((shown.own? name).getD .missing)
  | none, _, _ => .ok .missing

private def joinedTexts : Datum → Except Problem (List String)
  | .list items => .ok (items.map Datum.display)
  | .object members => .ok (Entries.keys members)
  | .text text => .ok (text.toList.map String.singleton)
  | .pair first second => .ok [first, second]
  | .record _ members =>
      .ok (members.map fun pair => "(" ++ Text.quoted pair.1 ++ ", " ++ pair.2.quoted ++ ")")
  | _ => .error .wrongType

private def joined : Shown → Except Problem (List String)
  | .missing => .ok []
  | .datum value => joinedTexts value
  | .kinds names => .ok (names.map fun name => (Shown.kind name).text)
  | _ => .error .wrongType

def Step.run (shown : Shown) : Step → Except Problem Shown
  | member name => memberOf shown name
  | item index => itemOf shown index
  | upper => .ok (.datum (.text (Text.upper shown.text)))
  | lower => .ok (.datum (.text (Text.lower shown.text)))
  | default other =>
      match shown with
      | .missing => .ok (.datum other)
      | shown => .ok shown
  | join separator => do
      let texts ← joined shown
      return .datum (.text (separator.display.intercalate texts))
  | unknown _ => .error .missingFilter
  | misused => .error .wrongType

def Start.run (value : Datum) : Start → Shown
  | name given =>
      if given = "value" then .datum value else (Shown.named? given).getD .missing
  | literal given => .datum given

def Operand.run (value : Datum) (operand : Operand) : Except Problem Shown :=
  operand.steps.foldlM Step.run (operand.start.run value)

def Hole.run (value : Datum) (hole : Hole) : Except Problem Shown := do
  match hole.others with
  | [] => hole.first.run value
  | others =>
      let shown ← (hole.first :: others).mapM (Operand.run value)
      return .datum (.text (String.join (shown.map Shown.text)))

mutual

def Node.render (value : Datum) : Node → Except Problem String
  | .text given => .ok given
  | .hole given => (given.run value).map Shown.text
  | .choice test yes no => do
      let shown ← test.run value
      if shown.holds then Node.renderAll value yes
      else Node.renderAll value no

def Node.renderAll (value : Datum) : List Node → Except Problem String
  | [] => .ok ""
  | node :: rest => do
      let first ← Node.render value node
      let others ← Node.renderAll value rest
      return first ++ others

end

def Step.isUnknown : Step → Bool
  | unknown _ => true
  | _ => false

def Hole.hasUnknown (hole : Hole) : Bool :=
  (hole.first :: hole.others).any fun operand => operand.steps.any Step.isUnknown

/-- Whether a node applies a filter that there is not.  A choice is taken as it is: such a filter
matters only once the choice leads to it. -/
def Node.hasUnknown : Node → Bool
  | .text _ => false
  | .hole given => given.hasUnknown
  | .choice _ _ _ => false

end QueryWeave.Format

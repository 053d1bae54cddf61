import QueryWeave.Format
import QueryWeave.Format.Token
import QueryWeave.Fragment

namespace QueryWeave.Format

/-- A stretch of a format: literal text, or the inside of a pair of marks, which are double braces for a
hole, a brace and a percent sign for a tag, and a brace and a hash for a remark. -/
inductive Segment where
  | text (chars : List Char)
  | hole (chars : List Char)
  | tag (chars : List Char)
  | remark (chars : List Char)

/-- What the scanner is inside of, with the characters seen so far in reverse, and for marks the
quote of the literal it is in. -/
inductive Inside where
  | text (seen : List Char)
  | hole (seen : List Char) (quote : Option Char)
  | tag (seen : List Char) (quote : Option Char)
  | remark (seen : List Char)

private def flush (seen : List Char) (segments : List Segment) : List Segment :=
  if seen.isEmpty then segments else .text seen.reverse :: segments

private def quoteAfter (quote : Option Char) (c : Char) : Option Char :=
  match quote with
  | some open_ => if c = open_ then none else some open_
  | none => if c = '\'' ∨ c = '"' then some c else none

/-- Cuts a format into segments, collected in reverse. -/
def scan (inside : Inside) (segments : List Segment) :
    List Char → Except Problem (List Segment)
  | [] =>
      match inside with
      | .text seen => .ok (flush seen segments).reverse
      | _ => .error .broken
  | [c] =>
      match inside with
      | .text seen => .ok (flush (c :: seen) segments).reverse
      | _ => .error .broken
  | c :: d :: rest =>
      match inside with
      | .text seen =>
          if c = '\x7b' ∧ d = '\x7b' then scan (.hole [] none) (flush seen segments) rest
          else if c = '\x7b' ∧ d = '%' then scan (.tag [] none) (flush seen segments) rest
          else if c = '\x7b' ∧ d = '#' then scan (.remark []) (flush seen segments) rest
          else scan (.text (c :: seen)) segments (d :: rest)
      | .hole seen quote =>
          if quote.isNone ∧ c = '\x7d' ∧ d = '\x7d' then
            scan (.text []) (.hole seen.reverse :: segments) rest
          else if quote.isSome ∧ c = '\\' then scan (.hole (d :: c :: seen) quote) segments rest
          else scan (.hole (c :: seen) (quoteAfter quote c)) segments (d :: rest)
      | .tag seen quote =>
          if quote.isNone ∧ c = '%' ∧ d = '\x7d' then
            scan (.text []) (.tag seen.reverse :: segments) rest
          else if quote.isSome ∧ c = '\\' then scan (.tag (d :: c :: seen) quote) segments rest
          else scan (.tag (c :: seen) (quoteAfter quote c)) segments (d :: rest)
      | .remark seen =>
          if c = '#' ∧ d = '\x7d' then scan (.text []) (.remark seen.reverse :: segments) rest
          else scan (.remark (c :: seen)) segments (d :: rest)

/-- What a sign next to a mark says: a minus drops the blanks on the other side of the mark. -/
private def dropSign (signs : List Char) (chars : List Char) : Bool × List Char :=
  match chars with
  | c :: rest => if signs.contains c then (c == '-', rest) else (false, chars)
  | [] => (false, [])

/-- The inside of a pair of marks without the signs next to them; `closing` lists the signs that can
stand before the second mark. -/
private def unsigned (closing chars : List Char) : Bool × List Char × Bool :=
  let (before, chars) := dropSign ['-', '+'] chars
  let (after, chars) := dropSign closing chars.reverse
  (before, chars.reverse, after)

/-- A segment without signs, and whether blanks before and after it are dropped. -/
def Segment.unsigned : Segment → Bool × Segment × Bool
  | text chars => (false, text chars, false)
  | hole chars =>
      let (before, chars, after) := Format.unsigned ['-'] chars
      (before, hole chars, after)
  | tag chars =>
      let (before, chars, after) := Format.unsigned ['-', '+'] chars
      (before, tag chars, after)
  | remark chars =>
      let (before, chars, after) := Format.unsigned ['-', '+'] chars
      (before, remark chars, after)

private def dropBlanks (front back : Bool) (chars : List Char) : List Char :=
  let chars := if front then chars.dropWhile Text.isBlank else chars
  if back then (chars.reverse.dropWhile Text.isBlank).reverse else chars

/-- Drops signs, and the blanks that they drop; `front` tells whether the segment before does so. -/
def dropSigns (front : Bool) : List Segment → List Segment
  | [] => []
  | .text chars :: rest =>
      let back := (rest.head?.map fun next => next.unsigned.1).getD false
      .text (dropBlanks front back chars) :: dropSigns false rest
  | segment :: rest =>
      let (_, plain, after) := segment.unsigned
      plain :: dropSigns after rest

private def literal? : Token → Option Datum
  | .text given => some (.text given)
  | .number value => some (.int value)
  | .decimal value => some (.decimal value)
  | .name "true" | .name "True" => some (.bool true)
  | .name "false" | .name "False" => some (.bool false)
  | .name "none" | .name "None" => some .null
  | _ => none

private def startOf (token : Token) : Option Start :=
  match literal? token, token with
  | some given, _ => some (.literal given)
  | none, .name "not" => none
  | none, .name given => some (.name given)
  | none, _ => none

private def filterOf (name : String) (argument : Option Datum) : Step :=
  match name, argument with
  | "upper", none => .upper
  | "lower", none => .lower
  | "upper", some _ | "lower", some _ => .misused
  | "default", other | "d", other => .default (other.getD (.text ""))
  | "join", separator => .join (separator.getD (.text ""))
  | _, _ => .unknown name

/-- What a reader of steps is in: a path, the name of a filter, or what comes after one. -/
inductive Reading where
  | path
  | filter (name : String)
  | filtered

/-- The steps, in reverse, once a filter whose name is complete is one of them. -/
private def settle (steps : List Step) : Reading → List Step
  | .filter name => filterOf name none :: steps
  | _ => steps

/-- Reads steps and further operands; those read so far are in reverse. -/
def operands (done : List Operand) (start : Start) (steps : List Step) (reading : Reading)
    (tokens : List Token) : Option (List Operand) :=
  match reading, tokens with
  | reading, [] => some (⟨start, (settle steps reading).reverse⟩ :: done).reverse
  | reading, .sign '|' :: .name filter :: rest =>
      operands done start (settle steps reading) (.filter filter) rest
  | reading, .sign '~' :: token :: rest =>
      match startOf token with
      | some next =>
          operands (⟨start, (settle steps reading).reverse⟩ :: done) next [] .path rest
      | none => none
  | .path, .sign '.' :: .name member :: rest =>
      operands done start (.member member :: steps) .path rest
  | .path, .sign '.' :: .number index :: rest =>
      operands done start (.item (.int index) :: steps) .path rest
  | .path, .sign '[' :: .sign '-' :: .number index :: .sign ']' :: rest =>
      operands done start (.item (.int (-(index : Int))) :: steps) .path rest
  | .path, .sign '[' :: token :: .sign ']' :: rest =>
      match literal? token with
      | some index => operands done start (.item index :: steps) .path rest
      | none => none
  | .filter name, .sign '.' :: .name more :: rest =>
      operands done start steps (.filter (name ++ "." ++ more)) rest
  | .filter name, .sign '(' :: .sign ')' :: rest =>
      operands done start (filterOf name none :: steps) .filtered rest
  | .filter name, .sign '(' :: token :: .sign ')' :: rest =>
      match literal? token with
      | some argument =>
          operands done start (filterOf name (some argument) :: steps) .filtered rest
      | none => none
  | _, _ => none

def holeOf (found : List Token) : Option Hole :=
  match found with
  | [] => none
  | token :: rest => do
      let start ← startOf token
      match ← operands [] start [] .path rest with
      | [] => none
      | first :: others => return ⟨first, others⟩

/-- A choice that is still open: its test, what came before it, and its first text once the second
has begun.  Nodes are in reverse. -/
structure OpenChoice where
  test : Hole
  before : List Node
  yes : Option (List Node)

/-- What a reader of tokens makes of the inside of a pair of marks. -/
private def within {α : Type} (read : List Token → Option α) (chars : List Char) :
    Except Problem α :=
  match Token.parse? chars with
  | none => .error .broken
  | some found =>
      if found.contains .unreadable then .error .unreadableNumber
      else (read found).elim (.error .broken) .ok

/-- What stands in a tag: the start of a choice, of its second text, or its end. -/
inductive Tag where
  | choose (test : Hole)
  | otherwise
  | done

def tagOf (found : List Token) : Option Tag :=
  match found with
  | .name "if" :: test => (holeOf test).map .choose
  | [.name "else"] => some .otherwise
  | [.name "endif"] => some .done
  | _ => none

def nest (openChoices : List OpenChoice) (nodes : List Node) :
    List Segment → Except Problem (List Node)
  | [] => if openChoices.isEmpty then .ok nodes.reverse else .error .broken
  | .text chars :: rest => nest openChoices (.text (String.ofList chars) :: nodes) rest
  | .remark _ :: rest => nest openChoices nodes rest
  | .hole chars :: rest => do
      let hole ← within holeOf chars
      nest openChoices (.hole hole :: nodes) rest
  | .tag chars :: rest => do
      match ← within tagOf chars, openChoices with
      | .choose hole, outer => nest (⟨hole, nodes, none⟩ :: outer) [] rest
      | .otherwise, ⟨test, before, none⟩ :: outer =>
          nest (⟨test, before, some nodes⟩ :: outer) [] rest
      | .done, ⟨test, before, none⟩ :: outer =>
          nest outer (.choice test nodes.reverse [] :: before) rest
      | .done, ⟨test, before, some yes⟩ :: outer =>
          nest outer (.choice test yes.reverse nodes.reverse :: before) rest
      | _, _ => .error .broken

/-- Every line end as a line feed. -/
def unifyLineEnds : List Char → List Char
  | [] => []
  | '\r' :: '\n' :: rest => '\n' :: unifyLineEnds rest
  | '\r' :: rest => '\n' :: unifyLineEnds rest
  | c :: rest => c :: unifyLineEnds rest

private def dropLastLineEnd (text : List Char) : List Char :=
  match text.reverse with
  | '\n' :: rest => rest.reverse
  | _ => text

def parse (format : String) : Except Problem (List Node) := do
  let segments ← scan (.text []) [] (dropLastLineEnd (unifyLineEnds format.toList))
  let nodes ← nest [] [] (dropSigns false segments)
  if nodes.any Node.hasUnknown then .error .unknownFilter else .ok nodes

def render (format : String) (value : Datum) : Except Problem String := do
  Node.renderAll value (← parse format)

/-- A text as a template of this renderer, parsed anew for every value. -/
def template (text : String) : Template where
  text := text
  render value := (render text value).mapError Problem.reason

end QueryWeave.Format

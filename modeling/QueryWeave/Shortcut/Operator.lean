import QueryWeave.Datum.Text
import QueryWeave.Text.Letter
import QueryWeave.Tree
import QueryWeave.Failure

namespace QueryWeave

/-- The operators that are words and have a negated form. -/
inductive OperatorWord where
  | between
  | inList
  | isNull
  | regexp
  | like
  | startWith
  | endWith
  deriving DecidableEq

namespace OperatorWord

def chars : OperatorWord → List Char
  | between => ['b', 'e', 't', 'w', 'e', 'e', 'n']
  | inList => ['i', 'n']
  | isNull => ['i', 's', ' ', 'n', 'u', 'l', 'l']
  | regexp => ['r', 'e', 'g', 'e', 'x', 'p']
  | like => ['l', 'i', 'k', 'e']
  | startWith => ['s', 't', 'a', 'r', 't', ' ', 'w', 'i', 't', 'h']
  | endWith => ['e', 'n', 'd', ' ', 'w', 'i', 't', 'h']

def all : List OperatorWord := [between, inList, isNull, regexp, like, startWith, endWith]

def ofChars? (text : List Char) : Option OperatorWord := all.find? (·.chars == text)

end OperatorWord

inductive Operator where
  | comparison (operator : Comparison)
  | word (word : OperatorWord) (negated : Bool)
  deriving DecidableEq

namespace Operator

def dropLeadingNot : List Char → List Char
  | 'n' :: 'o' :: 't' :: ' ' :: rest => rest
  | text => text

def startsWithNot : List Char → Bool
  | 'n' :: 'o' :: 't' :: ' ' :: _ => true
  | _ => false

/-- Makes one space of every `not` between two spaces. -/
def dropInnerNots : List Char → List Char
  | [] => []
  | ' ' :: 'n' :: 'o' :: 't' :: ' ' :: rest => ' ' :: dropInnerNots rest
  | c :: rest => c :: dropInnerNots rest

/-- Whether a text has a `not` between two spaces. -/
def hasInnerNot : List Char → Bool
  | [] => false
  | ' ' :: 'n' :: 'o' :: 't' :: ' ' :: _ => true
  | _ :: rest => hasInnerNot rest

/-- The operator that a normalised text denotes. -/
def ofChars? (text : List Char) : Option Operator :=
  match Comparison.ofWord? (String.ofList text) with
  | some operator => some (.comparison operator)
  | none =>
      (OperatorWord.ofChars? (dropInnerNots (dropLeadingNot text))).map fun word =>
        .word word (startsWithNot text || hasInnerNot text)

/-- Letter case and surrounding blanks do not matter. -/
def parse? (text : String) : Option Operator :=
  ofChars? (Text.trimBlank (Text.lower text)).toList

def text : Operator → String
  | comparison operator => operator.word
  | word given false => String.ofList given.chars
  | word given true => "not " ++ String.ofList given.chars

end Operator

namespace Combo

def impliedOperator (entry : Entries Datum) : Operator :=
  if (Datum.member entry "from").isNull || (Datum.member entry "to").isNull then
    match Datum.member entry "value" with
    | .list _ => .word .inList false
    | .null => .word .isNull false
    | _ => .comparison .equal
  else .word .between false

/-- The operator of an entry; one that does not hold is as good as none. -/
def operatorOf (entry : Entries Datum) : Except Failure Operator :=
  let given := Datum.member entry "operator"
  if given.holds then
    match given with
    | .text text =>
        match Operator.parse? text with
        | some operator => .ok operator
        | none => .error (.raised s!"Unsupported operator '{text}'")
    | _ => .error .noMembers
  else .ok (impliedOperator entry)

private def pattern (before : String) (value : Datum) (after : String) : Expr :=
  .value (.text (before ++ value.display ++ after))

/-- The condition that an operator makes of an expression and the members of an entry. -/
def conditionWith (operator : Operator) (left : Expr) (entry : Entries Datum) : Expr :=
  let value := Datum.member entry "value"
  match operator with
  | .comparison comparison => .compare left comparison (.value value)
  | .word .between negated =>
      .between left negated (.value (Datum.member entry "from"))
        (.value (Datum.member entry "to"))
  | .word .inList negated => .inList left negated (.value value)
  | .word .isNull negated => .isNull left negated
  | .word .regexp negated => .regexp left negated (.value value)
  | .word .like negated => .like left negated (pattern "%" value "%")
  | .word .startWith negated => .like left negated (pattern "" value "%")
  | .word .endWith negated => .like left negated (pattern "%" value "")

def condition (left : Expr) (entry : Entries Datum) : Except Failure Expr := do
  return conditionWith (← operatorOf entry) left entry

private def conditionOfDatum (left : Expr) : Datum → Except Failure Expr
  | .object entry => condition left entry
  | _ => .error .noMembers

/-- One condition for every entry under `multiple`; it has to be a list of objects. -/
private def conditionsOf (left : Expr) : Datum → Except Failure (List Expr)
  | .list entries => entries.mapM (conditionOfDatum left)
  | .text _ | .object _ | .record _ _ => .error .noMembers
  | _ => .error .wrongType

def conditions (left : Expr) (bound : Datum) : Except Failure (List Expr) :=
  let entry := match bound with
    | .object members => members
    | value => [("value", value)]
  let multiple := Datum.member entry "multiple"
  if multiple.holds then conditionsOf left multiple
  else (condition left entry).map ([·])

def query (left : Expr) (bound : Datum) : Except Failure Query := do
  return { Query.empty with filter := .many (← conditions left bound) }

end Combo

end QueryWeave

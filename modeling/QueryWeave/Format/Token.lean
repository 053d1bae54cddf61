import QueryWeave.Datum.Decimal
import QueryWeave.Text.Escape
import QueryWeave.Text.Identifier

namespace QueryWeave.Format

inductive Token where
  | name (name : String)
  | text (text : String)
  | number (value : Nat)
  | decimal (value : Decimal)
  /-- A decimal with digits outside of ASCII, which no number is read from. -/
  | unreadable
  | sign (c : Char)
  deriving DecidableEq

namespace Token

def signs : List Char := ['.', '[', ']', '|', '(', ')', '~', '-']

/-- Splits off further digits of a class, single underscores allowed before each. -/
def moreDigits (isDigit : Char → Bool) : List Char → List Char × List Char
  | '_' :: c :: rest =>
      if isDigit c then
        let (digits, after) := moreDigits isDigit rest
        (c :: digits, after)
      else ([], '_' :: c :: rest)
  | c :: rest =>
      if isDigit c then
        let (digits, after) := moreDigits isDigit rest
        (c :: digits, after)
      else ([], c :: rest)
  | [] => ([], [])

def digitRun (isDigit : Char → Bool) : List Char → List Char × List Char
  | c :: rest => if isDigit c then moreDigits isDigit (c :: rest) else ([], c :: rest)
  | [] => ([], [])

private def value (digits : List Char) : Nat :=
  (Text.number? Text.digitValue? 10 digits).getD 0

/-- A point and the digits after it, if there are any. -/
private def fraction (text : List Char) : List Char × List Char :=
  match text with
  | '.' :: rest =>
      match digitRun Text.isDigit rest with
      | ([], _) => ([], text)
      | (digits, after) => (digits, after)
  | _ => ([], text)

/-- An exponent with its letter, if there is one: whether it is negative, and its digits. -/
private def exponent? (text : List Char) : Option ((Bool × List Char) × List Char) :=
  let signed := fun (negative : Bool) (rest : List Char) =>
    match digitRun Text.isDigit rest with
    | ([], _) => none
    | (digits, after) => some ((negative, digits), after)
  match text with
  | e :: '-' :: rest => if e = 'e' ∨ e = 'E' then signed true rest else none
  | e :: '+' :: rest => if e = 'e' ∨ e = 'E' then signed false rest else none
  | e :: rest => if e = 'e' ∨ e = 'E' then signed false rest else none
  | [] => none

/-- The decimal of the digits before its point, those after it, and those of its exponent. -/
private def decimalOf (whole part : List Char) (negative : Bool) (power : List Char) : Token :=
  if (whole ++ part ++ power).all Char.isDigit then
    let exponent : Int := if negative then -(value power : Int) else value power
    .decimal (Decimal.normal false (value (whole ++ part)) (exponent - part.length))
  else .unreadable

def decimal? (text : List Char) : Option (Token × List Char) :=
  match digitRun Text.isDigit text with
  | ([], _) => none
  | (whole, rest) =>
      let (part, rest) := fraction rest
      match exponent? rest, part with
      | some ((negative, power), after), _ => some (decimalOf whole part negative power, after)
      | none, [] => none
      | none, _ => some (decimalOf whole part false [], rest)

/-- Digits of a base after the letter that announces it. -/
private def based (value? : Char → Option Nat) (base : Nat) (rest : List Char) :
    Option (Token × List Char) :=
  match moreDigits (fun c => (value? c).isSome) rest with
  | ([], _) => none
  | (digits, after) => (Text.number? value? base digits).map fun value => (.number value, after)

private def below (base : Nat) (c : Char) : Option Nat :=
  (Text.hexValue? c).filter (· < base)

private def sixteen (c : Char) : Option Nat := Text.digitValue? c <|> Text.hexValue? c

/-- A whole number: in base two, eight or sixteen, in base ten without a zero in front, or zeros. -/
def whole? (text : List Char) : Option (Token × List Char) :=
  let ten := match text with
    | c :: rest =>
        if '1' ≤ c ∧ c ≤ '9' then
          let (digits, after) := moreDigits Text.isDigit rest
          some (.number (value (c :: digits)), after)
        else if c = '0' then some (.number 0, (moreDigits (· == '0') rest).2)
        else none
    | [] => none
  match text with
  | '0' :: mark :: rest =>
      if mark = 'b' ∨ mark = 'B' then based (below 2) 2 rest <|> ten
      else if mark = 'o' ∨ mark = 'O' then based (below 8) 8 rest <|> ten
      else if mark = 'x' ∨ mark = 'X' then based sixteen 16 rest <|> ten
      else ten
  | _ => ten

/-- The inside of a literal up to its closing quote, and what comes after. -/
def untilQuote (quote : Char) : List Char → Option (List Char × List Char)
  | [] => none
  | '\\' :: c :: rest => (untilQuote quote rest).map fun (inside, after) => ('\\' :: c :: inside, after)
  | c :: rest =>
      if c = quote then some ([], rest)
      else (untilQuote quote rest).map fun (inside, after) => (c :: inside, after)

/-- The token at the front of a text that does not start with a blank; after a point, a number has
neither fraction nor exponent. -/
def next? (afterPoint : Bool) (text : List Char) : Option (Token × List Char) :=
  match text with
  | [] => none
  | c :: rest =>
      if Text.isIdentifierStart c then
        let name := c :: rest.takeWhile Text.isIdentifierPart
        some (.name (String.ofList name), rest.dropWhile Text.isIdentifierPart)
      else if c = '\'' ∨ c = '"' then do
        let (inside, after) ← untilQuote c rest
        return (.text (← Text.Escape.read? inside), after)
      else if Text.isDigit c then
        if afterPoint then whole? text else decimal? text <|> whole? text
      else if signs.contains c then some (.sign c, rest)
      else none

/-- The tokens of a text after `previous`, which still waits for literals that go on; `touching` tells
whether no blank has come since. -/
def all (previous : Option Token) (touching : Bool) (text : List Char) : Option (List Token) :=
  match text with
  | [] => some previous.toList
  | c :: rest =>
      if Text.isBlank c then all previous false rest
      else
        match next? (touching && previous == some (.sign '.')) (c :: rest) with
        | none => none
        | some (token, after) =>
            if _h : after.length < (c :: rest).length then
              match previous, token with
              | some (.text first), .text second =>
                  all (some (.text (first ++ second))) true after
              | previous, token => (all (some token) true after).map (previous.toList ++ ·)
            else none
termination_by text.length
decreasing_by all_goals (first | exact _h | simp)

/-- The tokens of a text; literals in a row make one. -/
def parse? (text : List Char) : Option (List Token) := all none true text

end Token

end QueryWeave.Format

import QueryWeave.Text.Character

namespace QueryWeave.Numeral

private def isNonzero (c : Char) : Bool := '1' ≤ c && c ≤ '9'

/-- A numeral without a plus sign; a minus sign after one is refused. -/
def dropPlus : List Char → Option (List Char)
  | '+' :: '-' :: _ => none
  | '+' :: rest => some rest
  | text => some text

/-- What follows a first zero: further zeros and underscores are passed, `last` being the one passed
last.  It stays when nothing or a fraction follows. -/
def passZeros (last : Char) : List Char → Option (List Char)
  | [] => some [last]
  | c :: rest =>
      if c = '0' ∨ c = '_' then passZeros c rest
      else if c = '-' ∨ isNonzero c then some (c :: rest)
      else if c = '.' then some (last :: c :: rest)
      else none

def dropZeros : List Char → Option (List Char)
  | [] => none
  | c :: rest =>
      if c = '0' then passZeros c rest
      else if c = '-' ∨ isNonzero c then some (c :: rest)
      else none

/-- A fraction part of zeros only is no fraction. -/
def dropFraction (text : List Char) : List Char :=
  match text.dropWhile (· != '.') with
  | '.' :: zero :: zeros =>
      if (zero :: zeros).all (· == '0') then text.takeWhile (· != '.') else text
  | _ => text

private def hasDoubleUnderscore : List Char → Bool
  | [] => false
  | '_' :: '_' :: _ => true
  | _ :: rest => hasDoubleUnderscore rest

/-- Underscores stand one at a time, and neither first nor last. -/
def dropUnderscores (text : List Char) : Option (List Char) :=
  if text.head? == some '_' || text.getLast? == some '_' || hasDoubleUnderscore text then none
  else some (text.filter (· != '_'))

/-- Digits without a zero in front. -/
def magnitude? : List Char → Option Nat
  | ['0'] => some 0
  | c :: rest =>
      if isNonzero c && rest.all Char.isDigit then
        some ((c :: rest).foldl (fun value digit => value * 10 + (digit.toNat - 48)) 0)
      else none
  | [] => none

def signed? : List Char → Option Int
  | '-' :: rest => (magnitude? rest).map fun value => -(value : Int)
  | text => (magnitude? text).map fun value => (value : Int)

def maxLength : Nat := 4300

/-- The whole number that a text writes out.  Blanks around it, a plus sign, zeros in front, a fraction of
zeros and single underscores between digits do not count. -/
def parse? (text : String) : Option Int := do
  let trimmed := Text.trimWhile Text.isWhiteSpace text.toList
  if maxLength < trimmed.length then none
  else
    let plain ← dropZeros (← dropPlus trimmed)
    signed? (← dropUnderscores (dropFraction plain))

end QueryWeave.Numeral

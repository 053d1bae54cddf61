import QueryWeave.Text.Character

namespace QueryWeave.Text.Escape

def ofLetter? (c : Char) : Option Nat :=
  match c with
  | 'a' => some 7
  | 'b' => some 8
  | 't' => some 9
  | 'n' => some 10
  | 'v' => some 11
  | 'f' => some 12
  | 'r' => some 13
  | '\\' | '\'' | '"' => some c.toNat
  | _ => none

/-- How many hexadecimal digits follow a letter that announces a code point. -/
def width? (c : Char) : Option Nat :=
  match c with
  | 'x' => some 2
  | 'u' => some 4
  | 'U' => some 8
  | _ => none

def maxCode : Nat := 0x10FFFF

def ofHex? (width : Nat) (digits : List Char) : Option Nat :=
  if digits.length < width then none
  else (number? hexValue? 16 digits).filter (· ≤ maxCode)

private def isOctal (c : Char) : Bool := '0' ≤ c && c ≤ '7'

private def octalDigits (text : List Char) : List Char := (text.take 3).takeWhile isOctal

private def padded (width code : Nat) : List Char :=
  let digits := Nat.toDigits 16 code
  List.replicate (width - digits.length) '0' ++ digits

/-- A character outside of ASCII after a backslash: the backslash and its code point in digits. -/
def spelled (c : Char) : List Char :=
  if c.toNat < 0x100 then 'x' :: padded 2 c.toNat
  else if c.toNat < 0x10000 then 'u' :: padded 4 c.toNat
  else 'U' :: padded 8 c.toNat

/-- The code points of a literal.  Digits that announce no code point make the literal unreadable, and
so do character names. -/
def codes? : List Char → Option (List Nat)
  | [] => some []
  | '\\' :: c :: rest =>
      if c = '\n' then codes? rest
      else if c = 'N' then none
      else
        match ofLetter? c, width? c with
        | some code, _ => (codes? rest).map (code :: ·)
        | none, some width => do
            let code ← ofHex? width (rest.take width)
            let codes ← codes? (rest.drop width)
            return code :: codes
        | none, none =>
            if isOctal c then do
              let digits := octalDigits (c :: rest)
              let code ← number? digitValue? 8 digits
              let codes ← codes? (rest.drop (digits.length - 1))
              return code :: codes
            else
              let shown := if c.toNat < 0x80 then [c] else spelled c
              (codes? rest).map fun codes => '\\'.toNat :: shown.map Char.toNat ++ codes
  | c :: rest => (codes? rest).map (c.toNat :: ·)
termination_by text => text.length
decreasing_by all_goals (simp only [List.length_cons, List.length_drop]; omega)

/-- Makes one code point of every pair of surrogates. -/
def joinSurrogates : List Nat → List Nat
  | [] => []
  | high :: low :: rest =>
      if 0xD800 ≤ high ∧ high < 0xDC00 ∧ 0xDC00 ≤ low ∧ low < 0xE000 then
        (0x10000 + (high - 0xD800) * 0x400 + (low - 0xDC00)) :: joinSurrogates rest
      else high :: joinSurrogates (low :: rest)
  | [code] => [code]

/-- The character of a code point; a surrogate on its own is replaced. -/
private def charOf (code : Nat) : Char :=
  if 0xD800 ≤ code ∧ code < 0xE000 then '\uFFFD' else Char.ofNat code

def read? (literal : List Char) : Option String :=
  (codes? literal).map fun codes => String.ofList ((joinSurrogates codes).map charOf)

end QueryWeave.Text.Escape

namespace QueryWeave

/-- The number ± digits · 10 ^ exponent. -/
structure Decimal where
  negative : Bool
  digits : Nat
  exponent : Int
  deriving DecidableEq

namespace Decimal

/-- Removes factors of ten from a significand; the fuel bounds their number. -/
def strip : Nat → Nat → Int → Nat × Int
  | 0, digits, exponent => (digits, exponent)
  | fuel + 1, digits, exponent =>
      if digits % 10 = 0 then strip fuel (digits / 10) (exponent + 1) else (digits, exponent)

/-- The form without trailing zeros; zero has exponent zero. -/
def normal (negative : Bool) (digits : Nat) (exponent : Int) : Decimal :=
  if digits = 0 then ⟨negative, 0, 0⟩
  else
    let reduced := strip digits.log2 digits exponent
    ⟨negative, reduced.1, reduced.2⟩

def isZero (x : Decimal) : Bool := x.digits == 0

def toInt? (x : Decimal) : Option Int :=
  let x := normal x.negative x.digits x.exponent
  if 0 ≤ x.exponent then
    let magnitude := Int.ofNat (x.digits * Nat.pow 10 x.exponent.toNat)
    some (if x.negative then -magnitude else magnitude)
  else none

/-- The nearest number of at most 53 binary digits, a tie going to the even one. -/
def nearestBinary (magnitude : Nat) : Nat :=
  let step := Nat.pow 2 (magnitude.log2 - 52)
  let whole := magnitude / step
  let rest := magnitude % step
  if 2 * rest < step ∨ (2 * rest = step ∧ whole % 2 = 0) then whole * step
  else (whole + 1) * step

/-- The integer that a decimal denotes in binary floating point, when it denotes one of at most 63
binary digits. -/
def toInt63? (x : Decimal) : Option Int := do
  let exact ← x.toInt?
  let magnitude := nearestBinary exact.natAbs
  if magnitude < Nat.pow 2 63 then return (if exact < 0 then -(magnitude : Int) else magnitude)
  else none

private def zeros (count : Nat) : List Char := List.replicate count '0'

private def positional (digits : List Char) (point : Int) : List Char :=
  if point ≤ 0 then '0' :: '.' :: zeros (-point).toNat ++ digits
  else
    let whole := point.toNat
    if digits.length ≤ whole then digits ++ zeros (whole - digits.length) ++ ['.', '0']
    else digits.take whole ++ '.' :: digits.drop whole

private def power (n : Int) : List Char :=
  let digits := Nat.toDigits 10 n.natAbs
  (if n < 0 then '-' else '+') :: (if digits.length < 2 then '0' :: digits else digits)

private def scientific (digits : List Char) (point : Int) : List Char :=
  let mantissa := match digits with
    | [] => []
    | [d] => [d]
    | d :: rest => d :: '.' :: rest
  mantissa ++ 'e' :: power (point - 1)

/-- The written form, positional for leading digits from 10⁻⁴ up to 10¹⁵ and scientific outside.  A
fraction digit or an exponent is always shown. -/
def render (x : Decimal) : String :=
  let x := normal x.negative x.digits x.exponent
  let digits := Nat.toDigits 10 x.digits
  let point := if x.digits = 0 then 1 else x.exponent + digits.length
  let body := if -4 < point ∧ point ≤ 16 then positional digits point else scientific digits point
  String.ofList (if x.negative then '-' :: body else body)

end Decimal

end QueryWeave

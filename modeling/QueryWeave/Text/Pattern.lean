/-!
Literal text inside regular-expression patterns.  Main statement: `read_escapeChars`, an escaped text
denotes exactly the text it was made from.
-/

namespace QueryWeave.Text.Pattern

/-- The characters with a meaning of their own in a pattern. -/
def specials : List Char :=
  ['-', '/', '\\', '^', '$', '*', '+', '?', '.', '(', ')', '|', '[', ']', '\x7b', '\x7d']

def isSpecial (c : Char) : Bool := specials.contains c

def escapeChars : List Char → List Char
  | [] => []
  | c :: rest => if isSpecial c then '\\' :: c :: escapeChars rest else c :: escapeChars rest

def escape (text : String) : String :=
  String.ofList (escapeChars text.toList)

/-- The literal text a pattern denotes: a backslash makes the next character literal, and a
bare special character or a trailing backslash denotes none. -/
def read : List Char → Option (List Char)
  | [] => some []
  | '\\' :: c :: rest => (read rest).map (c :: ·)
  | c :: rest => if isSpecial c then none else (read rest).map (c :: ·)

theorem isSpecial_backslash : isSpecial '\\' = true := rfl

theorem read_cons_of_plain {c : Char} (h : isSpecial c = false) (rest : List Char) :
    read (c :: rest) = (read rest).map (c :: ·) := by
  have hne : c ≠ '\\' := by
    intro heq
    rw [heq, isSpecial_backslash] at h
    contradiction
  rw [read]
  · simp [h]
  · intro d tail hc
    exact absurd hc hne

theorem read_escapeChars (text : List Char) : read (escapeChars text) = some text := by
  induction text with
  | nil => rfl
  | cons c rest ih =>
      cases h : isSpecial c with
      | true => simp [escapeChars, h, read, ih]
      | false => simp [escapeChars, h, read_cons_of_plain h, ih]

end QueryWeave.Text.Pattern

import QueryWeave.Datum
import QueryWeave.Text.Printable

namespace QueryWeave

namespace Text

private def hexDigits (width code : Nat) : List Char :=
  let digits := Nat.toDigits 16 code
  List.replicate (width - digits.length) '0' ++ digits

private def quotedChar (quote c : Char) : List Char :=
  if c = quote ∨ c = '\\' then ['\\', c]
  else if c = '\n' then ['\\', 'n']
  else if c = '\r' then ['\\', 'r']
  else if c = '\t' then ['\\', 't']
  else if isPrintable c then [c]
  else if c.toNat < 0x100 then '\\' :: 'x' :: hexDigits 2 c.toNat
  else if c.toNat < 0x10000 then '\\' :: 'u' :: hexDigits 4 c.toNat
  else '\\' :: 'U' :: hexDigits 8 c.toNat

/-- Single quotes, unless the text has some and no double quotes. -/
def quoteFor (text : List Char) : Char :=
  if text.contains '\'' && !text.contains '"' then '"' else '\''

def quoted (text : String) : String :=
  let chars := text.toList
  let quote := quoteFor chars
  String.ofList (quote :: chars.flatMap (quotedChar quote) ++ [quote])

end Text

namespace Datum

mutual

def quoted : Datum → String
  | null => "None"
  | bool true => "True"
  | bool false => "False"
  | int value => toString value
  | decimal value => value.render
  | text value => Text.quoted value
  | list items => "[" ++ ", ".intercalate (quotedItems items) ++ "]"
  | object members => "\x7b" ++ ", ".intercalate (quotedMembers members) ++ "\x7d"
  | pair first second => "(" ++ Text.quoted first ++ ", " ++ Text.quoted second ++ ")"
  | record form members => form ++ "(" ++ ", ".intercalate (quotedFields members) ++ ")"
  | function => "<function>"

def quotedItems : List Datum → List String
  | [] => []
  | item :: rest => quoted item :: quotedItems rest

def quotedMembers : List (String × Datum) → List String
  | [] => []
  | (key, value) :: rest => (Text.quoted key ++ ": " ++ quoted value) :: quotedMembers rest

def quotedFields : List (String × Datum) → List String
  | [] => []
  | (key, value) :: rest => (key ++ "=" ++ quoted value) :: quotedFields rest

end

/-- The text of a datum on its own. -/
def display : Datum → String
  | text value => value
  | record _ members => " ".intercalate (quotedFields members)
  | value => quoted value

end Datum

end QueryWeave

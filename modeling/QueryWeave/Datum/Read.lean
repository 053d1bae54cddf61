import QueryWeave.Datum
import QueryWeave.Datum.Numeral
import QueryWeave.Tree.Clause

namespace QueryWeave

universe u

variable {α : Type u}

theorem Entries.sizeOf_get? {members : Entries Datum} {key : String} {value : Datum}
    (h : Entries.get? members key = some value) : sizeOf value < sizeOf members := by
  induction members with
  | nil => contradiction
  | cons pair rest ih =>
      obtain ⟨old, held⟩ := pair
      rw [Entries.get?] at h
      split at h
      · cases h
        simp only [List.cons.sizeOf_spec, Prod.mk.sizeOf_spec]
        omega
      · have := ih h
        simp only [List.cons.sizeOf_spec, Prod.mk.sizeOf_spec]
        omega

namespace Datum

private def lowerLetters (text : String) : String :=
  String.ofList (text.toList.map Char.toLower)

/-- Truth values, the numbers zero and one, and the usual words in any letter case. -/
def toBool? : Datum → Option Bool
  | bool value => some value
  | int value => if value = 0 then some false else if value = 1 then some true else none
  | decimal value =>
      if value.toInt? = some 0 then some false
      else if value.toInt? = some 1 then some true else none
  | text value =>
      let word := lowerLetters value
      if ["true", "t", "yes", "y", "on", "1"].contains word then some true
      else if ["false", "f", "no", "n", "off", "0"].contains word then some false else none
  | _ => none

/-- Integers, truth values as zero and one, decimals that denote an integer, and numerals. -/
def toInt? : Datum → Option Int
  | bool value => some (if value then 1 else 0)
  | int value => some value
  | decimal value => value.toInt63?
  | text value => Numeral.parse? value
  | _ => none

def toText? : Datum → Option String
  | text value => some value
  | _ => none

def toObject? : Datum → Option (Entries Datum)
  | object members => some members
  | _ => none

/-- The members of an object, or of a record of a form, with the evidence that they are smaller. -/
def membersOf? (form : String) (value : Datum) :
    Option { members : Entries Datum // sizeOf members < sizeOf value } :=
  match value with
  | object members => some ⟨members, by simp only [object.sizeOf_spec]; omega⟩
  | record given members =>
      if given = form then some ⟨members, by simp only [record.sizeOf_spec]; omega⟩ else none
  | _ => none

/-- The members of an object, or of a record whose form is its `classname`. -/
def nodeMembers? (value : Datum) :
    Option { members : Entries Datum // sizeOf members < sizeOf value } :=
  match value with
  | object members => some ⟨members, by simp only [object.sizeOf_spec]; omega⟩
  | record form members =>
      if (member members "classname").toText? = some form then
        some ⟨members, by simp only [record.sizeOf_spec]; omega⟩
      else none
  | _ => none

def toTexts? : List Datum → Option (List String)
  | [] => some []
  | text value :: rest => (toTexts? rest).map (value :: ·)
  | _ :: _ => none

def toPair? : Datum → Option (String × String)
  | list [text first, text second] => some (first, second)
  | pair first second => some (first, second)
  | _ => none

end Datum

namespace Read

variable (members : Entries Datum)

/-- Whether an object has no members but the given ones. -/
def only (keys : List String) : Option Unit :=
  if (Entries.keys members).all keys.contains then some () else none

def required (key : String)
    (read : (value : Datum) → sizeOf value < sizeOf members → Option α) : Option α :=
  match h : Entries.get? members key with
  | none => none
  | some value => read value (Entries.sizeOf_get? h)

def withDefault (key : String) (default : α)
    (read : (value : Datum) → sizeOf value < sizeOf members → Option α) : Option α :=
  match h : Entries.get? members key with
  | none => some default
  | some value => read value (Entries.sizeOf_get? h)

/-- A member that may be left out or null. -/
def optional (key : String)
    (read : (value : Datum) → sizeOf value < sizeOf members → Option α) : Option (Option α) :=
  match h : Entries.get? members key with
  | none => some none
  | some value => if value.isNull then some none else (read value (Entries.sizeOf_get? h)).map some

def text (key : String) : Option String :=
  required members key fun value _ => value.toText?

def optionalText (key : String) : Option (Option String) :=
  optional members key fun value _ => value.toText?

/-- A truth value, false when left out. -/
def flag (key : String) : Option Bool :=
  withDefault members key false fun value _ => value.toBool?

def word (key : String) (ofWord? : String → Option α) : Option α :=
  required members key fun value _ => value.toText?.bind ofWord?

def wordWithDefault (key : String) (default : α) (ofWord? : String → Option α) : Option α :=
  withDefault members key default fun value _ => value.toText?.bind ofWord?

/-- The first of two spellings of a key that an object has. -/
def spelling (first second : String) : String :=
  if Entries.has members first then first else second

end Read

namespace Datum

def readAll : (items : List Datum) →
    ((item : Datum) → sizeOf item < sizeOf items → Option α) → Option (List α)
  | [], _ => some []
  | item :: rest, read => do
      let first ← read item (by simp only [List.cons.sizeOf_spec]; omega)
      let others ← readAll rest fun other h => read other (by
        simp only [List.cons.sizeOf_spec]; omega)
      return first :: others

def readList (value : Datum)
    (read : (item : Datum) → sizeOf item < sizeOf value → Option α) : Option (List α) :=
  match value with
  | list items => readAll items fun item h => read item (by simp only [list.sizeOf_spec]; omega)
  | _ => none

def readItems (value : Datum)
    (read : (item : Datum) → sizeOf item ≤ sizeOf value → Option α) : Option (Items α) :=
  match value with
  | list items =>
      (readAll items fun item h => read item (by
        simp only [list.sizeOf_spec]; omega)).map Items.many
  | value => (read value (Nat.le_refl _)).map Items.one

def readClause (value : Datum)
    (read : (item : Datum) → sizeOf item ≤ sizeOf value → Option α) : Option (Clause α) :=
  match value with
  | null => some .absent
  | list items =>
      (readAll items fun item h => read item (by
        simp only [list.sizeOf_spec]; omega)).map Clause.many
  | value => (read value (Nat.le_refl _)).map Clause.one

def readNamedClause (value : Datum)
    (read : (item : Datum) → sizeOf item ≤ sizeOf value → Option α) :
    Option (NamedClause α) :=
  match value with
  | null => some .absent
  | text given => some (.name given)
  | list items =>
      (readAll items fun item h => read item (by
        simp only [list.sizeOf_spec]; omega)).map NamedClause.many
  | value => (read value (Nat.le_refl _)).map NamedClause.one

end Datum

end QueryWeave

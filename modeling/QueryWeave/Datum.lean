import QueryWeave.Datum.Decimal
import QueryWeave.Entries

namespace QueryWeave

/-- The values that requests carry and that query trees hold as literals.  Where any value is allowed,
finished parts of trees and functions are allowed too; they are held and not looked into. -/
inductive Datum where
  | null
  | bool (value : Bool)
  | int (value : Int)
  | decimal (value : Decimal)
  | text (value : String)
  | list (items : List Datum)
  | object (members : List (String × Datum))
  /-- Two texts that belong together. -/
  | pair (first second : String)
  /-- A finished part of a tree, or a request, by the name of its form. -/
  | record (form : String) (members : List (String × Datum))
  | function

namespace Datum

instance : Inhabited Datum := ⟨null⟩

/-- Null, false, zero and what is empty do not hold; a finished part is never empty. -/
def holds : Datum → Bool
  | null => false
  | bool value => value
  | int value => value != 0
  | decimal value => !value.isZero
  | text value => value != ""
  | list items => !items.isEmpty
  | object members => !members.isEmpty
  | pair _ _ | record _ _ | function => true

def isNull : Datum → Bool
  | null => true
  | _ => false

def present? : Datum → Option Datum
  | null => none
  | value => some value

/-- The member of an object, null where there is none. -/
def member (members : Entries Datum) (key : String) : Datum :=
  (Entries.get? members key).getD null

def ofOption : Option Datum → Datum
  | none => null
  | some value => value

mutual

/-- What becomes of `left` when a datum is merged onto it: two objects merge member by member,
anything else is replaced. -/
def mergeOnto : Datum → Option Datum → Datum
  | object members, some (object left) => object (mergeMembers members left)
  | value, _ => value

def mergeMembers : List (String × Datum) → Entries Datum → Entries Datum
  | [], left => left
  | (key, value) :: rest, left =>
      mergeMembers rest (Entries.put left key (mergeOnto value (Entries.get? left key)))

end

/-- `right` merged onto `left` at every depth; `right` wins where they conflict. -/
def deepMerge (left right : Entries Datum) : Entries Datum :=
  mergeMembers right left

@[simp] theorem deepMerge_nil (left : Entries Datum) : deepMerge left [] = left := rfl

@[simp] theorem deepMerge_cons (left : Entries Datum) (key : String) (value : Datum)
    (rest : Entries Datum) :
    deepMerge left ((key, value) :: rest) =
      deepMerge (Entries.put left key (value.mergeOnto (Entries.get? left key))) rest := rfl

/-- The number a datum counts as: truth values count as zero and one. -/
def toNumber? : Datum → Option Decimal
  | bool value => some (Decimal.normal false value.toNat 0)
  | int value => some (Decimal.normal (value < 0) value.natAbs 0)
  | decimal value =>
      some (Decimal.normal (value.negative && !value.isZero) value.digits value.exponent)
  | _ => none

mutual

/-- Equality of data: numbers by value whatever their form, objects whatever their order.  No two
functions are the same. -/
def same : Datum → Datum → Bool
  | null, null => true
  | text a, text b => a == b
  | list xs, list ys => sameItems xs ys
  | object xs, object ys => xs.length == ys.length && sameMembers xs ys
  | pair a b, pair c d => a == c && b == d
  | record form xs, record other ys =>
      form == other && xs.length == ys.length && sameMembers xs ys
  | null, _ | text _, _ | list _, _ | object _, _ | pair _ _, _ | record _ _, _ => false
  | a, b =>
      match a.toNumber?, b.toNumber? with
      | some x, some y => x == y
      | _, _ => false

def sameItems : List Datum → List Datum → Bool
  | [], [] => true
  | x :: xs, y :: ys => same x y && sameItems xs ys
  | _, _ => false

def sameMembers : List (String × Datum) → Entries Datum → Bool
  | [], _ => true
  | (key, x) :: xs, ys =>
      (match Entries.get? ys key with
        | some y => same x y
        | none => false) && sameMembers xs ys

end

/-- The sort of a datum, truth values and the two sorts of numbers kept apart. -/
def sort : Datum → Nat
  | null => 0
  | bool _ => 1
  | int _ => 2
  | decimal _ => 3
  | text _ => 4
  | list _ => 5
  | object _ => 6
  | pair _ _ => 7
  | record _ _ => 8
  | function => 9

/-- Same sort and equal. -/
def identical (a b : Datum) : Bool :=
  a.sort == b.sort && a.same b

end Datum

end QueryWeave

import QueryWeave.Datum.Read
import QueryWeave.Failure

namespace QueryWeave

/-- Options of one composition, each given as any datum; it counts by whether it holds. -/
structure Options where
  /-- Whether the filter named `default` is applied on every call. -/
  withDefault : Datum := .bool true
  /-- Whether unregistered field names are dropped rather than taken for columns. -/
  skipUnregistered : Datum := .bool false

namespace Options

instance : Inhabited Options := ⟨{}⟩

def known : List String := ["with_default", "skip_def_fields"]

/-- The names that a datum lists as options. -/
private def names? : Datum → Option (List String)
  | .object members => some (Entries.keys members)
  | .list items => Datum.toTexts? items
  | .text text => some (text.toList.map String.singleton)
  | _ => none

private def sorted (names : List String) : List String :=
  names.eraseDups.mergeSort fun left right => left ≤ right

def decode (value : Datum) : Except Failure Options :=
  match value with
  | .null => .ok {}
  | value =>
      match names? value with
      | none => .error .wrongType
      | some names =>
          match sorted (names.filter fun name => !known.contains name), value with
          | [], .object members => .ok {
              withDefault := (Entries.get? members "with_default").getD (.bool true)
              skipUnregistered := (Entries.get? members "skip_def_fields").getD (.bool false) }
          | [], _ => .error .wrongType
          | unknown, _ => .error (.unknownOptions unknown)

end Options

end QueryWeave

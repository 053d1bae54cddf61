import QueryWeave.Datum.Text

namespace QueryWeave.Format

/-- What a format can come upon: data, and what data have of their own beside their parts, such as the
operations of a list, which are named and never called. -/
inductive Shown where
  /-- Where a name or a step leads nowhere. -/
  | missing
  | datum (value : Datum)
  /-- An operation of a sort of values, and the value it belongs to. -/
  | operation (sort name : String) (owner : Datum)
  /-- A sort of values. -/
  | kind (name : String)
  | kinds (names : List String)
  /-- Something that only has a text. -/
  | fixed (text : String)

namespace Shown

def sortOf : Datum → String
  | .null => "NoneType"
  | .bool _ => "bool"
  | .int _ => "int"
  | .decimal _ => "float"
  | .text _ => "str"
  | .list _ => "list"
  | .object _ => "dict"
  | .pair _ _ => "tuple"
  | .record form _ => form
  | .function => "function"

/-- The operations that every value has. -/
def general : List String :=
  ["__delattr__", "__dir__", "__eq__", "__format__", "__ge__", "__getattribute__", "__getstate__",
    "__gt__", "__hash__", "__init__", "__init_subclass__", "__le__", "__lt__", "__ne__", "__new__",
    "__reduce__", "__reduce_ex__", "__repr__", "__setattr__", "__sizeof__", "__str__",
    "__subclasshook__"]

private def ofNumbers : List String :=
  ["__abs__", "__add__", "__bool__", "__ceil__", "__divmod__", "__float__", "__floor__",
    "__floordiv__", "__getnewargs__", "__int__", "__mod__", "__mul__", "__neg__", "__pos__",
    "__pow__", "__radd__", "__rdivmod__", "__rfloordiv__", "__rmod__", "__rmul__", "__round__",
    "__rpow__", "__rsub__", "__rtruediv__", "__sub__", "__truediv__", "__trunc__",
    "as_integer_ratio", "conjugate"]

private def ofIntegers : List String :=
  ofNumbers ++
    ["__and__", "__index__", "__invert__", "__lshift__", "__or__", "__rand__", "__rlshift__",
      "__ror__", "__rrshift__", "__rshift__", "__rxor__", "__xor__", "bit_count", "bit_length",
      "from_bytes", "to_bytes"]

private def ofSequences : List String :=
  ["__add__", "__contains__", "__getitem__", "__iter__", "__len__", "__mul__", "__rmul__", "count",
    "index"]

def operations (sort : String) : List String :=
  match sort with
  | "NoneType" => ["__bool__"]
  | "bool" | "int" => ofIntegers
  | "float" => ofNumbers ++ ["__getformat__", "fromhex", "hex", "is_integer"]
  | "str" =>
      ofSequences ++
        ["__getnewargs__", "__mod__", "__rmod__", "capitalize", "casefold", "center", "encode",
          "endswith", "expandtabs", "find", "format", "format_map", "isalnum", "isalpha", "isascii",
          "isdecimal", "isdigit", "isidentifier", "islower", "isnumeric", "isprintable", "isspace",
          "istitle", "isupper", "join", "ljust", "lower", "lstrip", "maketrans", "partition",
          "removeprefix", "removesuffix", "replace", "rfind", "rindex", "rjust", "rpartition",
          "rsplit", "rstrip", "split", "splitlines", "startswith", "strip", "swapcase", "title",
          "translate", "upper", "zfill"]
  | "list" =>
      ofSequences ++
        ["__class_getitem__", "__delitem__", "__iadd__", "__imul__", "__reversed__", "__setitem__",
          "append", "clear", "copy", "extend", "insert", "pop", "remove", "reverse", "sort"]
  | "tuple" => ofSequences ++ ["__class_getitem__", "__getnewargs__"]
  | "dict" =>
      ["__class_getitem__", "__contains__", "__delitem__", "__getitem__", "__ior__", "__iter__",
        "__len__", "__or__", "__reversed__", "__ror__", "__setitem__", "clear", "copy", "fromkeys",
        "get", "items", "keys", "pop", "popitem", "setdefault", "update", "values"]
  | "range" =>
      ["__bool__", "__contains__", "__getitem__", "__iter__", "__len__", "__reversed__", "count",
        "index"]
  | _ => []

private def hasOperation (sort name : String) : Bool :=
  general.contains name || (operations sort).contains name

/-- Lists and objects have no hash. -/
private def hashless (sort name : String) : Bool :=
  name == "__hash__" && (sort == "list" || sort == "dict")

private def numberPart? (value : Datum) (name : String) : Option Datum :=
  match value, name with
  | .bool given, "real" | .bool given, "numerator" => some (.int (if given then 1 else 0))
  | .int given, "real" | .int given, "numerator" => some (.int given)
  | .bool _, "imag" | .int _, "imag" => some (.int 0)
  | .bool _, "denominator" | .int _, "denominator" => some (.int 1)
  | .decimal given, "real" => some (.decimal given)
  | .decimal _, "imag" => some (.decimal ⟨false, 0, 0⟩)
  | _, _ => none

def ownOfDatum? (value : Datum) (name : String) : Option Shown :=
  let sort := sortOf value
  if name = "__class__" then some (.kind sort)
  else if name = "__doc__" then some (.fixed "")
  else if hashless sort name then some (.datum .null)
  else
    match numberPart? value name with
    | some part => some (.datum part)
    | none =>
        if hasOperation sort name then
          some (.operation (if sort = "bool" then "int" else sort) name value)
        else none

/-- The sort of an operation: one that belongs to no value, one behind a sign or a construct, or any
other. -/
private def kindOfOperation (sort name : String) : String :=
  if sort = "function" then sort
  else if name.startsWith "__" then "method-wrapper"
  else "builtin_function_or_method"

def ownOfOperation? (sort name : String) (owner : Datum) (wanted : String) : Option Shown :=
  match wanted with
  | "__name__" => some (.datum (.text name))
  | "__qualname__" =>
      some (.datum (.text (if sort = "function" then name else sort ++ "." ++ name)))
  | "__self__" => if sort = "function" then none else some (.datum owner)
  | "__class__" => some (.kind (kindOfOperation sort name))
  | "__module__" => if name.startsWith "__" then none else some (.datum .null)
  | "__doc__" | "__text_signature__" | "__call__" => some (.fixed "")
  | _ => if general.contains wanted then some (.operation "object" wanted .null) else none

/-- A sort and the sorts it belongs to, the nearest first. -/
def lineage (sort : String) : List String :=
  match sort with
  | "object" => ["object"]
  | "bool" => ["bool", "int", "object"]
  | sort => [sort, "object"]

/-- The part of a name after its last point, and the part before it. -/
private def splitName (name : String) : String × String :=
  let chars := name.toList.reverse
  (String.ofList (chars.takeWhile (· != '.')).reverse,
    String.ofList ((chars.dropWhile (· != '.')).drop 1).reverse)

/-- A sort with something in brackets; only sorts that hold others take it. -/
def bracketed? (sort : String) (index : Datum) : Option Shown :=
  if ["dict", "list", "tuple", "type"].contains sort then
    some (.fixed (sort ++ "[" ++ index.quoted ++ "]"))
  else none

private def numberParts (sort : String) : List String :=
  match sort with
  | "bool" | "int" => ["real", "imag", "numerator", "denominator"]
  | "float" => ["real", "imag"]
  | _ => []

/-- How a sort shows what its values have under a name. -/
private def described? (sort wanted : String) : Option String :=
  let sort := if sort = "bool" then "int" else sort
  let shown := fun (what owner : String) => s!"<{what} '{wanted}' of '{owner}' objects>"
  if general.contains wanted then some (shown "slot wrapper" "object")
  else if (operations sort).contains wanted then
    some (shown (if wanted.startsWith "__" then "slot wrapper" else "method") sort)
  else if (numberParts sort).contains wanted then some (shown "attribute" sort)
  else if sort = "range" ∧ ["start", "stop", "step"].contains wanted then
    some (shown "member" sort)
  else none

def ownOfKind? (sort wanted : String) : Option Shown :=
  let (name, before) := splitName sort
  match wanted with
  | "__name__" | "__qualname__" => some (.datum (.text name))
  | "__module__" => some (.datum (.text (if before = "" then "builtins" else before)))
  | "__class__" => some (.kind "type")
  | "__mro__" => some (.kinds (lineage sort))
  | "__base__" => (lineage sort)[1]?.map .kind
  | "__bases__" => some (.kinds ((lineage sort).drop 1 |>.take 1))
  | "__doc__" => some (.fixed "")
  | _ =>
      if hashless sort wanted then some (.datum .null)
      else (described? sort wanted).map .fixed

def own? (shown : Shown) (name : String) : Option Shown :=
  match shown with
  | missing => if name = "__class__" then some (.kind "jinja2.runtime.Undefined") else none
  | datum value => ownOfDatum? value name
  | operation sort own owner => ownOfOperation? sort own owner name
  | kind given => ownOfKind? given name
  | kinds _ => if name = "__class__" then some (.kind "tuple") else none
  | fixed _ => none

/-- What a format knows by name beside its value. -/
def named? (name : String) : Option Shown :=
  match name with
  | "range" | "dict" => some (.kind name)
  | "cycler" => some (.kind "jinja2.utils.Cycler")
  | "joiner" => some (.kind "jinja2.utils.Joiner")
  | "namespace" => some (.kind "jinja2.utils.Namespace")
  | "lipsum" => some (.operation "function" "generate_lorem_ipsum" .null)
  | "self" => some (.fixed "<TemplateReference None>")
  | _ => none

def holds : Shown → Bool
  | missing => false
  | datum value => value.holds
  | _ => true

private def kindText (name : String) : String := s!"<class '{name}'>"

def text : Shown → String
  | missing => ""
  | datum value => value.display
  | operation sort name _ => s!"<{sort} operation {name}>"
  | kind name => kindText name
  | kinds [name] => "(" ++ kindText name ++ ",)"
  | kinds names => "(" ++ ", ".intercalate (names.map kindText) ++ ")"
  | fixed text => text

end Shown

end QueryWeave.Format

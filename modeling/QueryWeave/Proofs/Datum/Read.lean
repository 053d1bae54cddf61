import QueryWeave.Datum.Read
import QueryWeave.Datum.Style
import QueryWeave.Proofs.Tree.Clause

namespace QueryWeave

universe u

variable {α : Type u}

namespace Read

variable (members : Entries Datum) (key : String)

@[simp] theorem required_eq (read : Datum → Option α) :
    required members key (fun value _ => read value) =
      (Entries.get? members key).bind read := by
  rw [required]
  split
  next h => rw [h, Option.bind_none]
  next value h => rw [h, Option.bind_some]

@[simp] theorem withDefault_eq (default : α) (read : Datum → Option α) :
    withDefault members key default (fun value _ => read value) =
      (Entries.get? members key).elim (some default) read := by
  rw [withDefault]
  split
  next h => rw [h, Option.elim_none]
  next value h => rw [h, Option.elim_some]

@[simp] theorem optional_eq (read : Datum → Option α) :
    optional members key (fun value _ => read value) =
      (Entries.get? members key).elim (some none) fun value =>
        if value.isNull then some none else (read value).map some := by
  rw [optional]
  split
  next h => rw [h, Option.elim_none]
  next value h => rw [h, Option.elim_some]

@[simp] theorem text_eq : text members key = (Entries.get? members key).bind Datum.toText? :=
  required_eq members key Datum.toText?

@[simp] theorem optionalText_eq :
    optionalText members key =
      (Entries.get? members key).elim (some none) fun value =>
        if value.isNull then some none else value.toText?.map some :=
  optional_eq members key Datum.toText?

@[simp] theorem flag_eq :
    flag members key = (Entries.get? members key).elim (some false) Datum.toBool? :=
  withDefault_eq members key false Datum.toBool?

@[simp] theorem word_eq (ofWord? : String → Option α) :
    word members key ofWord? =
      (Entries.get? members key).bind fun value => value.toText?.bind ofWord? :=
  required_eq members key fun value => value.toText?.bind ofWord?

@[simp] theorem wordWithDefault_eq (default : α) (ofWord? : String → Option α) :
    wordWithDefault members key default ofWord? =
      (Entries.get? members key).elim (some default) fun value => value.toText?.bind ofWord? :=
  withDefault_eq members key default fun value => value.toText?.bind ofWord?

/-- Readers in sequence. -/
theorem andThen {β : Type u} {first : Option α} {next : α → Option β} {item : α} {result : β}
    (hfirst : first = some item) (hnext : next item = some result) :
    first.bind next = some result := by
  rw [hfirst, Option.bind_some, hnext]

variable {members key}

theorem withDefault_of_none {default : α}
    {read : (value : Datum) → sizeOf value < sizeOf members → Option α}
    (h : Entries.get? members key = none) :
    withDefault members key default read = some default := by
  rw [withDefault]
  split
  next => rfl
  next other hother => rw [h] at hother; cases hother

theorem withDefault_of_some {default : α} {value : Datum}
    {read : (value : Datum) → sizeOf value < sizeOf members → Option α}
    (h : Entries.get? members key = some value) :
    withDefault members key default read = read value (Entries.sizeOf_get? h) := by
  rw [withDefault]
  split
  next hother => rw [h] at hother; cases hother
  next other hother => cases h.symm.trans hother; rfl

theorem spelling_of_isSome {first second : String} (h : (Entries.get? members first).isSome) :
    spelling members first second = first :=
  if_pos h

/-- Which spelling was looked for does not matter when an object has only the first. -/
theorem get?_spelling {first second : String} (h : Entries.get? members second = none) :
    Entries.get? members (spelling members first second) = Entries.get? members first := by
  rw [spelling]
  split
  next => rfl
  next hfirst => rw [h, Option.not_isSome_iff_eq_none.mp hfirst]

end Read

section Members

variable {fields : List (String × Option Datum)}

@[simp] theorem Style.get?_members_nil (wanted : String) :
    Entries.get? (compact.members []) wanted = none := rfl

@[simp] theorem Style.get?_members_cons (key wanted : String) (value : Option Datum) :
    Entries.get? (compact.members ((key, value) :: fields)) wanted =
      if key = wanted then value.or (Entries.get? (compact.members fields) wanted)
      else Entries.get? (compact.members fields) wanted := by
  cases value with
  | none => simp [members]
  | some value => simp [members, Entries.get?]

theorem Style.compact_object (form : String) (fields : List (String × Option Datum)) :
    compact.object form fields = .object (compact.members fields) := rfl

theorem Read.only_members {keys : List String}
    (h : ∀ field ∈ fields, field.2.isSome → field.1 ∈ keys) :
    only (Style.compact.members fields) keys = some () := by
  rw [only, if_pos (List.all_eq_true.mpr _)]
  intro key hkey
  obtain ⟨pair, hpair, rfl⟩ := List.mem_map.mp hkey
  obtain ⟨field, hfield, hshown⟩ := List.mem_filterMap.mp hpair
  obtain ⟨value, hvalue, rfl⟩ := Option.map_eq_some_iff.mp hshown
  exact List.contains_iff_mem.mpr (h field hfield (Option.isSome_of_eq_some hvalue))

end Members

namespace Datum

@[simp] theorem isNull_text (value : String) : (text value).isNull = false := rfl

@[simp] theorem isNull_int (value : Int) : (int value).isNull = false := rfl

@[simp] theorem toText?_text (value : String) : (text value).toText? = some value := rfl

@[simp] theorem toObject?_object (members : Entries Datum) :
    (object members).toObject? = some members := rfl

@[simp] theorem toBool?_bool (value : Bool) : (bool value).toBool? = some value := rfl

@[simp] theorem toInt?_int (value : Int) : (int value).toInt? = some value := rfl

/-- A datum is the value of the member it was written as, and null is not written. -/
@[simp] theorem getD_present? (value : Datum) : value.present?.getD null = value := by
  cases value <;> rfl

end Datum

/-- An optional text is read back from the member that it was written as. -/
@[simp] theorem Datum.read_map_text (label : Option String) :
    ((label.map text).elim (some none) fun value =>
      if value.isNull then some none else value.toText?.map some) = some label := by
  cases label with
  | none => rfl
  | some label => rfl

/-- Neither null nor a list. -/
def Datum.single : Datum → Bool
  | null | list _ => false
  | _ => true

/-- Neither null nor a list nor a text. -/
def Datum.unnamed : Datum → Bool
  | null | text _ | list _ => false
  | _ => true

def Items.write (put : α → Datum) : Items α → Datum
  | one item => put item
  | many items => .list (items.map put)

def Clause.write (put : α → Datum) : Clause α → Option Datum
  | absent => none
  | one item => some (put item)
  | many items => some (.list (items.map put))

def NamedClause.write (put : α → Datum) : NamedClause α → Option Datum
  | absent => none
  | .name given => some (.text given)
  | one item => some (put item)
  | many items => some (.list (items.map put))

section Clauses

variable {read : Datum → Option α} {put : α → Datum}

theorem Datum.readAll_map {items : List α} (h : ∀ item ∈ items, read (put item) = some item) :
    readAll (items.map put) (fun value _ => read value) = some items := by
  induction items with
  | nil => rfl
  | cons item rest ih =>
      rw [List.forall_mem_cons] at h
      rw [List.map_cons, readAll, h.1, ih h.2]
      rfl

theorem Datum.readList_map {items : List α} (h : ∀ item ∈ items, read (put item) = some item) :
    (list (items.map put)).readList (fun value _ => read value) = some items :=
  readAll_map h

theorem Items.read_write {items : Items α} (hsingle : ∀ item, (put item).single)
    (h : ∀ item ∈ items.toList, read (put item) = some item) :
    (items.write put).readItems (fun value _ => read value) = some items := by
  cases items with
  | one item =>
      have hone (value : Datum) (hvalue : value.single) :
          value.readItems (fun value _ => read value) = (read value).map Items.one := by
        cases value <;> first | rfl | cases hvalue
      rw [write, hone _ (hsingle item), h item (List.mem_singleton_self item), Option.map_some]
  | many items => exact congrArg (Option.map Items.many) (Datum.readAll_map h)

theorem Clause.read_write {clause : Clause α} (hsingle : ∀ item, (put item).single)
    (h : ∀ item ∈ clause.toList, read (put item) = some item) :
    ((clause.write put).elim (some .absent) fun value =>
      value.readClause fun value _ => read value) = some clause := by
  cases clause with
  | absent => rfl
  | one item =>
      have hone (value : Datum) (hvalue : value.single) :
          value.readClause (fun value _ => read value) = (read value).map Clause.one := by
        cases value <;> first | rfl | cases hvalue
      rw [write, Option.elim_some, hone _ (hsingle item), h item (List.mem_singleton_self item),
        Option.map_some]
  | many items => exact congrArg (Option.map Clause.many) (Datum.readAll_map h)

theorem NamedClause.read_write {clause : NamedClause α} (hunnamed : ∀ item, (put item).unnamed)
    (h : ∀ item ∈ clause.given, read (put item) = some item) :
    ((clause.write put).elim (some .absent) fun value =>
      value.readNamedClause fun value _ => read value) = some clause := by
  cases clause with
  | absent => rfl
  | name given => rfl
  | one item =>
      have hone (value : Datum) (hvalue : value.unnamed) :
          value.readNamedClause (fun value _ => read value) =
            (read value).map NamedClause.one := by
        cases value <;> first | rfl | cases hvalue
      rw [write, Option.elim_some, hone _ (hunnamed item), h item (List.mem_singleton_self item),
        Option.map_some]
  | many items => exact congrArg (Option.map NamedClause.many) (Datum.readAll_map h)

end Clauses

end QueryWeave

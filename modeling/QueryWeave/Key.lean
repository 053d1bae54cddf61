/-!
Registry keys: the kind of a fragment and its name in one text.  Filters go by their bare name.
Main statement: `render_parse`, every text is the key of exactly what it is read as.
-/

namespace QueryWeave

inductive Kind where
  | field
  | table
  | filter
  | group
  | order
  deriving DecidableEq

/-- The word before the colon of a key, for the kinds that are marked by one. -/
def Kind.word? : Kind → Option (List Char)
  | field => some ['f', 'i', 'e', 'l', 'd']
  | table => some ['t', 'a', 'b', 'l', 'e']
  | filter => none
  | group => some ['g', 'r', 'o', 'u', 'p', 'B', 'y']
  | order => some ['o', 'r', 'd', 'e', 'r', 'B', 'y']

def Kind.ofWord? (word : List Char) : Option Kind :=
  [field, table, group, order].find? (·.word? == some word)

theorem Kind.word?_of_ofWord? {word : List Char} {kind : Kind} (h : ofWord? word = some kind) :
    kind.word? = some word := by
  simpa using List.find?_some h

structure Key where
  kind : Kind
  name : String
  deriving DecidableEq

namespace Key

def render (key : Key) : String :=
  match key.kind.word? with
  | none => key.name
  | some word => String.ofList (word ++ ':' :: key.name.toList)

/-- Splits at the first colon; a text without a known kind before it is a filter name. -/
def parse (text : String) : Key :=
  match text.toList.dropWhile (· != ':') with
  | [] => ⟨.filter, text⟩
  | _ :: name =>
      match Kind.ofWord? (text.toList.takeWhile (· != ':')) with
      | some kind => ⟨kind, String.ofList name⟩
      | none => ⟨.filter, text⟩

@[simp] theorem render_filter (name : String) : render ⟨.filter, name⟩ = name := rfl

theorem render_parse (text : String) : (parse text).render = text := by
  rw [parse]
  split
  · exact render_filter text
  · rename_i separator name hrest
    split
    · rename_i kind hkind
      have hcolon : separator = ':' := by
        have hhead := List.head?_dropWhile_not (· != ':') text.toList
        rw [hrest] at hhead
        simpa using hhead
      have hsplit := List.takeWhile_append_dropWhile (p := (· != ':')) (l := text.toList)
      rw [hrest, hcolon] at hsplit
      rw [render, Kind.word?_of_ofWord? hkind]
      simp only [String.toList_ofList]
      rw [hsplit, String.ofList_toList]
    · exact render_filter text

end Key

end QueryWeave

namespace QueryWeave

universe u v

/-- Ordered association lists.  A key stays where it was first put. -/
abbrev Entries (α : Type u) := List (String × α)

namespace Entries

variable {α : Type u} {β : Type v}

def get? : Entries α → String → Option α
  | [], _ => none
  | (key, value) :: rest, wanted =>
      if key = wanted then some value else get? rest wanted

/-- Replaces the value of a key in place, or appends a new key. -/
def put : Entries α → String → α → Entries α
  | [], key, value => [(key, value)]
  | (old, held) :: rest, key, value =>
      if old = key then (old, value) :: rest else (old, held) :: put rest key value

def keys (entries : Entries α) : List String :=
  entries.map Prod.fst

def has (entries : Entries α) (key : String) : Bool :=
  (get? entries key).isSome

/-- Later pairs win, in the place of the earlier ones. -/
def ofPairs (pairs : List (String × α)) : Entries α :=
  pairs.foldl (fun entries pair => put entries pair.1 pair.2) []

/-- `right` put onto `left`, key by key. -/
def overlay (left right : Entries α) : Entries α :=
  right.foldl (fun entries pair => put entries pair.1 pair.2) left

@[simp] theorem get?_nil (key : String) : get? ([] : Entries α) key = none := rfl

@[simp] theorem keys_nil : keys ([] : Entries α) = [] := rfl

@[simp] theorem keys_cons (pair : String × α) (rest : Entries α) :
    keys (pair :: rest) = pair.1 :: keys rest := rfl

@[simp] theorem keys_append (left right : Entries α) :
    keys (left ++ right) = keys left ++ keys right :=
  List.map_append

theorem get?_put_self (entries : Entries α) (key : String) (value : α) :
    get? (put entries key value) key = some value := by
  induction entries with
  | nil => simp [put, get?]
  | cons pair rest ih =>
      obtain ⟨old, held⟩ := pair
      by_cases h : old = key <;> simp [put, get?, h, ih]

theorem get?_put_of_ne (entries : Entries α) {key other : String} (value : α)
    (hne : key ≠ other) :
    get? (put entries key value) other = get? entries other := by
  induction entries with
  | nil => simp [put, get?, hne]
  | cons pair rest ih =>
      obtain ⟨old, held⟩ := pair
      by_cases h : old = key
      · subst h; simp [put, get?, hne]
      · by_cases h' : old = other
        · subst h'; simp [put, get?, h]
        · simp [put, get?, h, h', ih]

theorem get?_eq_none_iff {entries : Entries α} {key : String} :
    get? entries key = none ↔ key ∉ keys entries := by
  induction entries with
  | nil => simp
  | cons pair rest ih =>
      obtain ⟨old, held⟩ := pair
      by_cases h : old = key
      · simp [get?, h]
      · simp [get?, h, ih, Ne.symm h]

theorem mem_keys_of_get? {entries : Entries α} {key : String} {value : α}
    (h : get? entries key = some value) : key ∈ keys entries := by
  apply Classical.byContradiction
  intro hnot
  rw [get?_eq_none_iff.mpr hnot] at h
  contradiction

theorem keys_put (entries : Entries α) (key : String) (value : α) :
    keys (put entries key value) =
      if key ∈ keys entries then keys entries else keys entries ++ [key] := by
  induction entries with
  | nil => simp [put]
  | cons pair rest ih =>
      obtain ⟨old, held⟩ := pair
      by_cases h : old = key
      · simp [put, h]
      · by_cases h' : key ∈ keys rest <;> simp [put, h, h', ih, Ne.symm h]

theorem nodup_keys_put {entries : Entries α} (hnodup : (keys entries).Nodup)
    (key : String) (value : α) : (keys (put entries key value)).Nodup := by
  rw [keys_put]
  split
  · exact hnodup
  · rename_i h
    rw [List.nodup_append]
    refine ⟨hnodup, by simp, ?_⟩
    intro a ha b hb
    simp only [List.mem_singleton] at hb
    subst hb
    exact fun heq => h (heq ▸ ha)

end Entries

end QueryWeave

import QueryWeave.Text.Pattern
import Mathlib.Algebra.Ring.Parity

/-!
Escaped texts as patterns.  A character is literal behind an odd number of backslashes, so that what a
backslash does depends on the whole run it stands in.  Main statement: `escape_denotes`, an escaped
text denotes exactly the text it was made from, and nothing in it is active, whatever backslashes that
text holds.
-/

namespace QueryWeave.Text.Pattern

/-- The number of backslashes that a text ends with. -/
def backslashes (front : List Char) : Nat :=
  (front.reverse.takeWhile (· == '\\')).length

/-- The character behind a text is literal. -/
def Shields (front : List Char) : Prop := Odd (backslashes front)

/-- A special character means something at some place of a pattern: it is not literal there, nor a
backslash that does no more than make a special character literal. -/
def Active (pattern : List Char) (c : Char) : Prop :=
  ∃ front back, pattern = front ++ c :: back ∧ isSpecial c = true ∧ ¬Shields front ∧
    ∀ d rest, c = '\\' → back = d :: rest → isSpecial d = false

theorem backslashes_le_length (front : List Char) : backslashes front ≤ front.length := by
  rw [backslashes, ← @List.length_reverse _ front]
  exact (List.takeWhile_sublist _).length_le

theorem backslashes_cons (c : Char) (front : List Char) :
    backslashes (c :: front) =
      backslashes front + if backslashes front = front.length ∧ c = '\\' then 1 else 0 := by
  have hrun : backslashes front = front.length ↔
      (front.reverse.takeWhile (· == '\\')).length = front.reverse.length := by
    rw [List.length_reverse, backslashes]
  simp only [hrun]
  rw [backslashes, List.reverse_cons, List.takeWhile_append]
  split
  next hall =>
    rw [List.length_append, backslashes, hall]
    by_cases hc : c = '\\' <;> simp [hc]
  next hsome => rw [backslashes, if_neg fun h => hsome h.1, Nat.add_zero]

/-- A plain character in front of a text changes nothing for what comes behind it. -/
theorem shields_cons_of_plain {c : Char} (h : isSpecial c = false) (front : List Char) :
    Shields (c :: front) ↔ Shields front := by
  have hne : c ≠ '\\' := by
    rintro rfl
    cases h
  rw [Shields, backslashes_cons, if_neg fun hrun => hne hrun.2, Nat.add_zero, Shields]

/-- Nor does a character with its backslash, another backslash included: they come in twos. -/
theorem shields_cons_cons (c : Char) (front : List Char) :
    Shields ('\\' :: c :: front) ↔ Shields front := by
  have hle := backslashes_le_length front
  simp only [Shields, backslashes_cons, List.length_cons, Nat.odd_iff, and_true]
  by_cases hc : c = '\\'
  · by_cases hrun : backslashes front = front.length
    · simp only [hc, hrun, and_self, if_true]
      omega
    · have hlonger : backslashes front ≠ front.length + 1 := by omega
      simp only [hc, hrun, hlonger, false_and, if_false, Nat.add_zero]
  · have hlonger : backslashes front ≠ front.length + 1 := by omega
    simp only [hc, and_false, if_false, Nat.add_zero, hlonger]

theorem escapeChars_of_plain {c : Char} (h : isSpecial c = false) (rest : List Char) :
    escapeChars (c :: rest) = c :: escapeChars rest := by
  rw [escapeChars, h, if_neg Bool.false_ne_true]

theorem escapeChars_of_special {c : Char} (h : isSpecial c = true) (rest : List Char) :
    escapeChars (c :: rest) = '\\' :: c :: escapeChars rest := by
  rw [escapeChars, if_pos h]

theorem escapeChars_append (first second : List Char) :
    escapeChars (first ++ second) = escapeChars first ++ escapeChars second := by
  induction first with
  | nil => rfl
  | cons c rest ih =>
      cases h : isSpecial c with
      | false =>
          rw [List.cons_append, escapeChars_of_plain h, escapeChars_of_plain h, ih,
            List.cons_append]
      | true =>
          rw [List.cons_append, escapeChars_of_special h, escapeChars_of_special h, ih,
            List.cons_append, List.cons_append]

theorem inert_escapeChars (text : List Char) (c : Char) : ¬Active (escapeChars text) c := by
  rintro ⟨front, back, hsplit, hspecial, hopen, hback⟩
  -- The place of `c` is counted off from the front, a character of the text at a time.
  induction text generalizing front with
  | nil => exact List.append_ne_nil_of_right_ne_nil front (List.cons_ne_nil c back) hsplit.symm
  | cons d rest ih =>
      cases hd : isSpecial d with
      | false =>
          rw [escapeChars_of_plain hd] at hsplit
          cases front with
          | nil =>
              cases hsplit
              rw [hd] at hspecial
              cases hspecial
          | cons e front =>
              obtain ⟨rfl, hrest⟩ := List.cons.inj hsplit
              exact ih front hrest fun h => hopen ((shields_cons_of_plain hd front).mpr h)
      | true =>
          rw [escapeChars_of_special hd] at hsplit
          match front with
          | [] =>
              obtain ⟨rfl, rfl⟩ := List.cons.inj hsplit
              rw [hback d _ rfl rfl] at hd
              cases hd
          | [e] =>
              obtain ⟨rfl, _⟩ := List.cons.inj hsplit
              exact hopen odd_one
          | e :: f :: front =>
              obtain ⟨rfl, htail⟩ := List.cons.inj hsplit
              obtain ⟨rfl, hrest⟩ := List.cons.inj htail
              exact ih front hrest fun h => hopen ((shields_cons_cons d front).mpr h)

theorem read_escape (text : String) : read (escape text).toList = some text.toList := by
  rw [escape, String.toList_ofList, read_escapeChars]

/-- An escaped text is read as the text it was made from.  So no two texts are escaped alike, parts can
be escaped one by one, and no special character is left that means something. -/
theorem escape_denotes :
    (∀ text : String, read (escape text).toList = some text.toList) ∧
      Function.Injective escape ∧
      (∀ first second : String, escape (first ++ second) = escape first ++ escape second) ∧
      ∀ (text : String) (c : Char), ¬Active (escape text).toList c := by
  refine ⟨read_escape, ?_, ?_, ?_⟩
  · intro first second heq
    have hread : some first.toList = some second.toList := by
      rw [← read_escape, heq, read_escape]
    exact String.toList_inj.mp (Option.some.inj hread)
  · intro first second
    rw [escape, String.toList_append, escapeChars_append, String.ofList_append, escape, escape]
  · intro text c
    rw [escape, String.toList_ofList]
    exact inert_escapeChars text.toList c

/-- Two backslashes in front of a dot are four, and the dot has one of its own. -/
example : escapeChars ['\\', '\\', '.'] = ['\\', '\\', '\\', '\\', '\\', '.'] := rfl

end QueryWeave.Text.Pattern

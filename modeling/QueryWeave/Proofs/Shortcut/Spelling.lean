import QueryWeave.Proofs.Entries
import QueryWeave.Shortcut.Operator

/-!
The texts that name operators.  A word may be negated by `not` in front of it or between its two
parts, and the reading takes both at once for one negation.  Main statement:
`Combo.condition_iff_spelled`, an entry has a condition exactly for the spellings of operators and six
more texts, and the negated form of a word differs in nothing but being negated.
-/

namespace QueryWeave

namespace OperatorWord

theorem mem_all (word : OperatorWord) : word ∈ all := by
  cases word <;> decide

theorem ofChars?_eq_some_iff {text : List Char} {word : OperatorWord} :
    ofChars? text = some word ↔ text = word.chars := by
  constructor
  · intro h
    have hfound := List.find?_some h
    exact (eq_of_beq hfound).symm
  · rintro rfl
    cases word <;> decide

/-- The texts beside its spelling that are read as the negation of a word. -/
def strays : OperatorWord → List String
  | isNull => ["not is null", "not is not null"]
  | startWith => ["start not with", "not start not with"]
  | endWith => ["end not with", "not end not with"]
  | _ => []

end OperatorWord

theorem Comparison.ofWord?_eq_some_iff {word : String} {operator : Comparison} :
    ofWord? word = some operator ↔ word = operator.word := by
  constructor
  · intro h
    have hfound := List.find?_some h
    exact (eq_of_beq hfound).symm
  · rintro rfl
    exact ofWord?_word operator

namespace Operator

/-- The text that an operator is known by. -/
def spelling : Operator → String
  | comparison operator => operator.word
  | word given false => String.ofList given.chars
  | word .isNull true => "is not null"
  | word given true => "not " ++ String.ofList given.chars

/-- The texts that are read as operators although they are the spelling of none. -/
def strays : List String := OperatorWord.all.flatMap OperatorWord.strays

theorem spelling_not_mem_strays (operator : Operator) : operator.spelling ∉ strays := by
  match operator with
  | comparison given => cases given <;> decide
  | word given false => cases given <;> decide
  | word given true => cases given <;> decide

/-- All ways to put a `not` into spaces of a text. -/
def innerNots : List Char → List (List Char)
  | [] => [[]]
  | ' ' :: rest =>
      (innerNots rest).flatMap fun text =>
        [' ' :: text, ' ' :: 'n' :: 'o' :: 't' :: ' ' :: text]
  | c :: rest => (innerNots rest).map (c :: ·)

theorem cons_mem_innerNots {text rest : List Char} (h : text ∈ innerNots rest) (c : Char) :
    c :: text ∈ innerNots (c :: rest) := by
  by_cases hspace : c = ' '
  · subst hspace
    exact List.mem_flatMap.mpr ⟨text, h, List.mem_cons_self⟩
  · rw [innerNots]
    · exact List.mem_map_of_mem h
    · exact hspace

/-- Nothing but inner `not`s is lost when they are dropped. -/
theorem mem_innerNots (text : List Char) : text ∈ innerNots (dropInnerNots text) := by
  fun_induction dropInnerNots text with
  | case1 => exact List.mem_singleton.mpr rfl
  | case2 rest ih => exact List.mem_flatMap.mpr ⟨rest, ih, by simp⟩
  | case3 c rest _ ih => exact cons_mem_innerNots ih c

theorem eq_or_of_dropLeadingNot (text : List Char) :
    text = dropLeadingNot text ∨ text = 'n' :: 'o' :: 't' :: ' ' :: dropLeadingNot text := by
  fun_cases dropLeadingNot text with
  | case1 rest => exact Or.inr rfl
  | case2 => exact Or.inl rfl

/-- The texts that become a word when all that negates them is dropped. -/
def readings (word : OperatorWord) : List (List Char) :=
  innerNots word.chars ++ (innerNots word.chars).map fun text => 'n' :: 'o' :: 't' :: ' ' :: text

theorem mem_readings {text : List Char} {word : OperatorWord}
    (h : dropInnerNots (dropLeadingNot text) = word.chars) : text ∈ readings word := by
  have hinner := mem_innerNots (dropLeadingNot text)
  rw [h] at hinner
  rcases eq_or_of_dropLeadingNot text with heq | heq
  · rw [heq]
    exact List.mem_append_left _ hinner
  · rw [heq]
    exact List.mem_append_right _ (List.mem_map_of_mem hinner)

/-- The readings of a word are its two spellings and its strays. -/
theorem readings_spelled (word : OperatorWord) : ∀ text ∈ readings word,
    (String.ofList text = (Operator.word word false).spelling ∧
      (startsWithNot text || hasInnerNot text) = false) ∨
    ((String.ofList text = (Operator.word word true).spelling ∨
        String.ofList text ∈ word.strays) ∧
      (startsWithNot text || hasInnerNot text) = true) := by
  cases word <;> decide

theorem ofChars?_spelling (operator : Operator) :
    ofChars? operator.spelling.toList = some operator := by
  match operator with
  | comparison given => cases given <;> decide
  | word given false => cases given <;> decide
  | word given true => cases given <;> decide

theorem ofChars?_stray (given : OperatorWord) :
    ∀ text ∈ given.strays, ofChars? text.toList = some (word given true) := by
  cases given <;> decide

theorem ofChars?_eq_some_iff {text : List Char} {operator : Operator} :
    ofChars? text = some operator ↔
      String.ofList text = operator.spelling ∨
        ∃ given, operator = word given true ∧ String.ofList text ∈ given.strays := by
  constructor
  · intro h
    unfold ofChars? at h
    split at h
    next comparison hcomparison =>
      cases h
      exact Or.inl (Comparison.ofWord?_eq_some_iff.mp hcomparison)
    next =>
      obtain ⟨given, hgiven, rfl⟩ := Option.map_eq_some_iff.mp h
      have hread := mem_readings (OperatorWord.ofChars?_eq_some_iff.mp hgiven)
      rcases readings_spelled given text hread with
        ⟨hplain, hnegated⟩ | ⟨hspelled | hstray, hnegated⟩
      · exact Or.inl (hnegated ▸ hplain)
      · exact Or.inl (hnegated ▸ hspelled)
      · exact Or.inr ⟨given, hnegated ▸ rfl, hstray⟩
  · rw [← String.toList_ofList (l := text)]
    generalize String.ofList text = spelled
    rw [String.ofList_toList]
    rintro (rfl | ⟨given, rfl, hstray⟩)
    · exact ofChars?_spelling operator
    · exact ofChars?_stray given spelled hstray

/-- A text without regard to letter case and surrounding blanks. -/
def normalised (text : String) : String := Text.trimBlank (Text.lower text)

theorem parse?_eq_some_iff {text : String} {operator : Operator} :
    parse? text = some operator ↔
      normalised text = operator.spelling ∨
        ∃ given, operator = word given true ∧ normalised text ∈ given.strays := by
  rw [parse?, ofChars?_eq_some_iff, String.ofList_toList, normalised]

/-- The texts that are read as some operator. -/
theorem exists_parse?_iff {text : String} :
    (∃ operator, parse? text = some operator) ↔
      (∃ operator : Operator, normalised text = operator.spelling) ∨ normalised text ∈ strays := by
  simp only [parse?_eq_some_iff, strays, List.mem_flatMap]
  constructor
  · rintro ⟨operator, hspelled | ⟨given, _, hstray⟩⟩
    · exact Or.inl ⟨operator, hspelled⟩
    · exact Or.inr ⟨given, given.mem_all, hstray⟩
  · rintro (⟨operator, hspelled⟩ | ⟨given, _, hstray⟩)
    · exact ⟨operator, Or.inl hspelled⟩
    · exact ⟨_, Or.inr ⟨given, rfl, hstray⟩⟩

end Operator

/-- The negated form of a condition that has one; other expressions are left alone. -/
def Expr.negate : Expr → Expr
  | .between left _ low high => .between left true low high
  | .inList left _ right => .inList left true right
  | .like left _ right => .like left true right
  | .regexp left _ right => .regexp left true right
  | .isNull left _ => .isNull left true
  | expression => expression

namespace Combo

variable {entry : Entries Datum} {text : String}

theorem condition_of_given (left : Expr) (htext : text ≠ "")
    (hgiven : Datum.member entry "operator" = .text text) :
    condition left entry =
      match Operator.parse? text with
      | some operator => .ok (conditionWith operator left entry)
      | none => .error (.raised s!"Unsupported operator '{text}'") := by
  have hholds : (Datum.text text).holds = true := bne_iff_ne.mpr htext
  simp only [condition, operatorOf, hgiven, hholds, if_true]
  cases Operator.parse? text <;> rfl

theorem condition_of_parse? {operator : Operator} (left : Expr)
    (hgiven : Datum.member entry "operator" = .text text)
    (hparse : Operator.parse? text = some operator) :
    condition left entry = .ok (conditionWith operator left entry) := by
  have htext : text ≠ "" := by
    rintro rfl
    have hblank : Operator.parse? "" = none := by decide
    rw [hblank] at hparse
    cases hparse
  rw [condition_of_given left htext hgiven, hparse]

theorem member_put_of_ne {key : String} (hne : "operator" ≠ key) (value : Datum) :
    Datum.member (Entries.put entry "operator" value) key = Datum.member entry key := by
  rw [Datum.member, Entries.get?_put_of_ne _ _ hne, Datum.member]

/-- The operator word makes the condition; what an entry says of its operator does not show. -/
theorem conditionWith_put (operator : Operator) (left : Expr) (value : Datum) :
    conditionWith operator left (Entries.put entry "operator" value) =
      conditionWith operator left entry := by
  simp only [conditionWith, member_put_of_ne (show "operator" ≠ "value" by decide),
    member_put_of_ne (show "operator" ≠ "from" by decide),
    member_put_of_ne (show "operator" ≠ "to" by decide)]

theorem conditionWith_negated (given : OperatorWord) (left : Expr) (entry : Entries Datum) :
    conditionWith (.word given true) left entry =
      (conditionWith (.word given false) left entry).negate := by
  cases given <;> simp only [conditionWith, Expr.negate]

/-- An operator text makes a condition if it is the spelling of an operator or one of the strays, and
is unsupported otherwise.  Whatever negates a word negates its condition and changes nothing else. -/
theorem condition_iff_spelled (left : Expr) (htext : text ≠ "")
    (hgiven : Datum.member entry "operator" = .text text) :
    ((∃ result, condition left entry = .ok result) ↔
        (∃ operator : Operator, Operator.normalised text = operator.spelling) ∨
          Operator.normalised text ∈ Operator.strays) ∧
      (condition left entry = .error (.raised s!"Unsupported operator '{text}'") ↔
        ¬((∃ operator : Operator, Operator.normalised text = operator.spelling) ∨
          Operator.normalised text ∈ Operator.strays)) ∧
      ∀ (word : OperatorWord) (other : String),
        Operator.normalised text = (Operator.word word false).spelling →
          (Operator.normalised other = (Operator.word word true).spelling ∨
            Operator.normalised other ∈ word.strays) →
            ∃ plain, condition left entry = .ok plain ∧
              condition left (Entries.put entry "operator" (.text other)) = .ok plain.negate := by
  refine ⟨?_, ?_, ?_⟩
  · rw [← Operator.exists_parse?_iff, condition_of_given left htext hgiven]
    cases Operator.parse? text <;> simp
  · rw [← Operator.exists_parse?_iff, condition_of_given left htext hgiven]
    cases Operator.parse? text <;> simp
  · intro word other hplain hnegated
    have hword : Operator.parse? text = some (.word word false) :=
      Operator.parse?_eq_some_iff.mpr (Or.inl hplain)
    have hother : Operator.parse? other = some (.word word true) :=
      Operator.parse?_eq_some_iff.mpr (hnegated.imp_right fun hstray => ⟨word, rfl, hstray⟩)
    have hput : Datum.member (Entries.put entry "operator" (.text other)) "operator" =
        .text other := by
      rw [Datum.member, Entries.get?_put_self, Option.getD_some]
    refine ⟨_, condition_of_parse? left hgiven hword, ?_⟩
    rw [condition_of_parse? left hput hother, conditionWith_put, conditionWith_negated]

/-- An entry that looks for codes by their start. -/
def byStart : Entries Datum := [("operator", .text " Start With"), ("value", .text "a")]

theorem byStart_negated :
    " Start With" ≠ "" ∧ Datum.member byStart "operator" = .text " Start With" ∧
      condition (.named "code") byStart =
        .ok (.like (.named "code") false (.value (.text "a%"))) ∧
      condition (.named "code") (Entries.put byStart "operator" (.text "NOT start with")) =
        .ok (.like (.named "code") true (.value (.text "a%"))) := by
  have htext : " Start With" ≠ "" := by decide
  have hgiven : Datum.member byStart "operator" = .text " Start With" := rfl
  have hread : Operator.normalised " Start With" = "start with" := by decide +kernel
  have hnegated : Operator.normalised "NOT start with" = "not start with" := by decide +kernel
  have hparse : Operator.parse? " Start With" = some (.word .startWith false) :=
    Operator.parse?_eq_some_iff.mpr (Or.inl hread)
  have hcondition : condition (.named "code") byStart =
      .ok (.like (.named "code") false (.value (.text "a%"))) :=
    condition_of_parse? _ hgiven hparse
  obtain ⟨_, _, hwords⟩ := condition_iff_spelled (.named "code") htext hgiven
  obtain ⟨plain, hplain, hnegate⟩ :=
    hwords .startWith "NOT start with" hread (Or.inl hnegated)
  rw [hcondition] at hplain
  cases hplain
  exact ⟨htext, hgiven, hcondition, hnegate⟩

/-- A double negation is taken for a single one, though no operator is spelled so. -/
theorem doubleNegation_negates :
    condition (.named "code") [("operator", .text "not is not null")] =
        .ok (.isNull (.named "code") true) ∧
      ¬∃ operator : Operator, Operator.normalised "not is not null" = operator.spelling := by
  have hread : Operator.normalised "not is not null" = "not is not null" := by decide
  refine ⟨?_, ?_⟩
  · have hgiven : Datum.member [("operator", .text "not is not null")] "operator" =
        .text "not is not null" := rfl
    have hparse : Operator.parse? "not is not null" = some (.word .isNull true) := by decide
    exact condition_of_parse? _ hgiven hparse
  · rintro ⟨operator, hspelled⟩
    apply operator.spelling_not_mem_strays
    rw [← hspelled, hread]
    decide

end Combo

end QueryWeave

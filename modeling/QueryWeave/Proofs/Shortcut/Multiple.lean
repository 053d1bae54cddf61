import QueryWeave.Builder
import QueryWeave.Proofs.Action.Outcome
import QueryWeave.Proofs.Shortcut.Spelling

/-!
The conditions that a bound value asks for, entry by entry.  Main statement:
`Draft.compared_eq_listed_iff`, a filter makes exactly the conditions of the entries it is given,
unless it is given an empty list of them: then it makes the condition of the object that holds the
list.
-/

namespace QueryWeave

namespace Operator

/-- A text that is taken for an operator. -/
def Known (text : String) : Prop :=
  (∃ operator : Operator, normalised text = operator.spelling) ∨ normalised text ∈ strays

end Operator

namespace Combo

/-- The entries that a bound value gives: those listed under `multiple`, an object that lists none, or
the entry that has what is no object for its value. -/
inductive Gives : Datum → List (Entries Datum) → Prop
  | listed {members : Entries Datum} {entries : List (Entries Datum)}
      (h : Entries.get? members "multiple" = some (.list (entries.map .object))) :
      Gives (.object members) entries
  | single {members : Entries Datum} (h : Entries.get? members "multiple" = none) :
      Gives (.object members) [members]
  | plain {value : Datum} (h : ∀ members, value ≠ .object members) :
      Gives value [[("value", value)]]

/-- The entries that a bound value is taken for: an object with an empty list is taken for an entry
itself. -/
def taken (bound : Datum) (entries : List (Entries Datum)) : List (Entries Datum) :=
  match bound, entries with
  | .object members, [] => [members]
  | _, entries => entries

/-- An entry whose operator, if it has one, is a text. -/
def Named (entry : Entries Datum) : Prop :=
  ∀ given, Entries.get? entry "operator" = some given → ∃ text, given = .text text

/-- An entry whose operator is a text that is not taken for one.  An empty text is as good as none. -/
def Refused (entry : Entries Datum) (text : String) : Prop :=
  Entries.get? entry "operator" = some (.text text) ∧ text ≠ "" ∧ ¬Operator.Known text

/-- An entry that is refused for its operator. -/
def Unsupported (entry : Entries Datum) : Prop := ∃ text, Refused entry text

variable {left : Expr} {bound : Datum} {entry members : Entries Datum}
  {entries : List (Entries Datum)}

theorem condition_of_implied (h : (Datum.member entry "operator").holds = false) (left : Expr) :
    condition left entry = .ok (conditionWith (impliedOperator entry) left entry) := by
  rw [condition, operatorOf, h, if_neg Bool.false_ne_true]
  rfl

/-- An entry has its condition, or its operator is refused by name. -/
theorem condition_cases (left : Expr) (hnamed : Named entry) :
    (¬Unsupported entry ∧ ∃ made, condition left entry = .ok made) ∨
      ∃ text, Refused entry text ∧
        condition left entry = .error (.raised s!"Unsupported operator '{text}'") := by
  cases hgiven : Entries.get? entry "operator" with
  | none =>
      have hholds : (Datum.member entry "operator").holds = false := by
        rw [Datum.member, hgiven]
        rfl
      refine Or.inl ⟨?_, _, condition_of_implied hholds left⟩
      rintro ⟨text, htext, _⟩
      rw [hgiven] at htext
      cases htext
  | some given =>
      obtain ⟨text, rfl⟩ := hnamed given hgiven
      have hmember : Datum.member entry "operator" = .text text := by
        rw [Datum.member, hgiven, Option.getD_some]
      have hrefused {other : String} (h : Refused entry other) : Refused entry text := by
        have htext := h.1
        rw [hgiven] at htext
        cases htext
        exact h
      by_cases hempty : text = ""
      · subst hempty
        refine Or.inl ⟨?_, _, condition_of_implied (by rw [hmember]; rfl) left⟩
        rintro ⟨other, hother⟩
        exact (hrefused hother).2.1 rfl
      · rw [condition_of_given left hempty hmember]
        cases hparse : Operator.parse? text with
        | some operator =>
            refine Or.inl ⟨?_, _, rfl⟩
            rintro ⟨other, hother⟩
            exact (hrefused hother).2.2 (Operator.exists_parse?_iff.mp ⟨operator, hparse⟩)
        | none =>
            refine Or.inr ⟨text, ⟨hgiven, hempty, fun hknown => ?_⟩, rfl⟩
            obtain ⟨operator, hread⟩ := Operator.exists_parse?_iff.mpr hknown
            rw [hparse] at hread
            cases hread

theorem exists_condition_iff (left : Expr) (hnamed : Named entry) :
    (∃ made, condition left entry = .ok made) ↔ ¬Unsupported entry := by
  rcases condition_cases left hnamed with ⟨hsupported, hmade⟩ | ⟨text, hrefused, hfailed⟩
  · exact iff_of_true hmade hsupported
  · refine iff_of_false ?_ (not_not_intro ⟨text, hrefused⟩)
    rintro ⟨made, hmade⟩
    rw [hfailed] at hmade
    cases hmade

theorem condition_eq_error_iff (left : Expr) (hnamed : Named entry) {failure : Failure} :
    condition left entry = .error failure ↔
      ∃ text, Refused entry text ∧ failure = .raised s!"Unsupported operator '{text}'" := by
  constructor
  · intro h
    rcases condition_cases left hnamed with ⟨_, made, hmade⟩ | ⟨text, hrefused, hfailed⟩
    · rw [hmade] at h
      cases h
    · rw [hfailed] at h
      cases h
      exact ⟨text, hrefused, rfl⟩
  · rintro ⟨text, ⟨hgiven, hempty, hunknown⟩, rfl⟩
    have hmember : Datum.member entry "operator" = .text text := by
      rw [Datum.member, hgiven, Option.getD_some]
    rw [condition_of_given left hempty hmember]
    cases hparse : Operator.parse? text with
    | some operator => exact absurd (Operator.exists_parse?_iff.mp ⟨operator, hparse⟩) hunknown
    | none => rfl

theorem exists_mapM_condition_iff (left : Expr) (hnamed : ∀ entry ∈ entries, Named entry) :
    (∃ made, entries.mapM (condition left) = .ok made) ↔ ∀ entry ∈ entries, ¬Unsupported entry := by
  rw [Action.exists_mapM_eq_ok_iff]
  exact forall₂_congr fun entry hmem => exists_condition_iff left (hnamed entry hmem)

/-- The first entry that is refused is the failure. -/
theorem mapM_condition_eq_error_iff (left : Expr) (hnamed : ∀ entry ∈ entries, Named entry)
    {failure : Failure} :
    entries.mapM (condition left) = .error failure ↔
      ∃ front entry back text, entries = front ++ entry :: back ∧
        (∀ earlier ∈ front, ¬Unsupported earlier) ∧ Refused entry text ∧
          failure = .raised s!"Unsupported operator '{text}'" := by
  rw [Action.mapM_eq_error_iff]
  constructor
  · rintro ⟨front, entry, back, made, rfl, hfront, hentry⟩
    rw [List.forall_mem_append, List.forall_mem_cons] at hnamed
    obtain ⟨text, hrefused, rfl⟩ := (condition_eq_error_iff left hnamed.2.1).mp hentry
    have hsupported := (exists_mapM_condition_iff left hnamed.1).mp ⟨made, hfront⟩
    exact ⟨front, entry, back, text, rfl, hsupported, hrefused, rfl⟩
  · rintro ⟨front, entry, back, text, rfl, hsupported, hrefused, rfl⟩
    rw [List.forall_mem_append, List.forall_mem_cons] at hnamed
    obtain ⟨made, hfront⟩ := (exists_mapM_condition_iff left hnamed.1).mpr hsupported
    have hentry := (condition_eq_error_iff left hnamed.2.1).mpr ⟨text, hrefused, rfl⟩
    exact ⟨front, entry, back, made, rfl, hfront, hentry⟩

theorem conditions_of_single (h : (Datum.member members "multiple").holds = false) (left : Expr) :
    conditions left (.object members) = [members].mapM (condition left) := by
  simp only [conditions, h, Bool.false_eq_true, if_false, List.mapM_cons, List.mapM_nil]
  cases condition left members <;> rfl

theorem conditions_of_multiple {first : Entries Datum} {rest : List (Entries Datum)}
    (h : Entries.get? members "multiple" = some (.list ((first :: rest).map .object)))
    (left : Expr) :
    conditions left (.object members) = (first :: rest).mapM (condition left) := by
  have hmember : Datum.member members "multiple" = .list ((first :: rest).map .object) := by
    rw [Datum.member, h, Option.getD_some]
  have hholds : (Datum.list ((first :: rest).map .object)).holds = true := rfl
  simp only [conditions, hmember, hholds, if_true]
  exact List.mapM_map ..

/-- One condition for every entry that the bound value is taken for, in order. -/
theorem conditions_eq_mapM (h : Gives bound entries) (left : Expr) :
    conditions left bound = (taken bound entries).mapM (condition left) := by
  cases h with
  | listed hlisted =>
      cases entries with
      | nil =>
          refine conditions_of_single ?_ left
          rw [Datum.member, hlisted]
          rfl
      | cons first rest => exact conditions_of_multiple hlisted left
  | single hnone =>
      refine conditions_of_single ?_ left
      rw [Datum.member, hnone]
      rfl
  | plain hplain =>
      cases bound with
      | object members => exact absurd rfl (hplain members)
      | _ => exact conditions_of_single rfl left

theorem taken_eq_of_ne_nil (bound : Datum) (h : entries ≠ []) : taken bound entries = entries := by
  cases entries with
  | nil => exact absurd rfl h
  | cons first rest => cases bound <;> rfl

/-- An empty list of entries comes with an object, which is then taken for an entry itself. -/
theorem length_taken_of_nil (h : Gives bound []) : (taken bound []).length = 1 := by
  cases h with
  | listed _ => rfl

end Combo

/-- The query that has conditions and nothing else. -/
def Query.filtering (conditions : List Expr) : Query :=
  { Query.empty with filter := .many conditions }

theorem Query.filtering_injective : Function.Injective Query.filtering := by
  intro conditions others h
  have hfilter := congrArg Query.filter h
  exact Clause.many.inj hfilter

namespace Draft

variable {left : Draft} {tested : Expr} {bound : Datum} {entries : List (Entries Datum)}

/-- What the comparing filter function gives for a bound value and a request. -/
def compared (left : Draft) (bound : Datum) (request : Request) (catalogue : Catalogue) :
    Except Failure Query := do
  (← left.comparing.evaluate [.bound bound, .request request] catalogue).1.toQuery

theorem evaluate_of_fixed (hfixed : left.isFunction = false) (arguments : List Argument) :
    left.evaluate arguments = pure left := by
  cases left with
  | function _ _ => cases hfixed
  | _ => rfl

theorem resolveExpr_of_fixed (hfixed : left.isFunction = false) (hleft : left.toExpr = .ok tested)
    (argument : Argument) : left.resolveExpr argument = pure tested := by
  rw [resolveExpr, evaluate_of_fixed hfixed, pure_bind, hleft]
  rfl

/-- A fixed expression is compared whatever the request and whatever is published. -/
theorem compared_of_fixed (hfixed : left.isFunction = false) (hleft : left.toExpr = .ok tested)
    (bound : Datum) (request : Request) (catalogue : Catalogue) :
    left.compared bound request catalogue = Combo.query tested bound := by
  have hquery : left.compareQuery bound (.request request) =
      liftExcept (Combo.query tested bound) := by
    rw [compareQuery, resolveExpr_of_fixed hfixed hleft, pure_bind]
  have hevaluate : left.comparing.evaluate [.bound bound, .request request] =
      (return query (← left.compareQuery bound (.request request)) : Lookup Draft) := rfl
  rw [compared, hevaluate, hquery]
  cases Combo.query tested bound with
  | error failure => rfl
  | ok query => rfl

/-- A filter over a fixed expression makes one condition for every entry, in order, unless it is given
an empty list of entries: the object with the list is an entry then.  It gives a query unless an
operator is refused, and the first that is refused is the failure. -/
theorem compared_eq_listed_iff (hfixed : left.isFunction = false)
    (hleft : left.toExpr = .ok tested) (hgives : Combo.Gives bound entries)
    (hnamed : ∀ entry ∈ Combo.taken bound entries, Combo.Named entry) (request : Request)
    (catalogue : Catalogue) :
    (left.compared bound request catalogue =
        (entries.mapM (Combo.condition tested)).map Query.filtering ↔ entries ≠ []) ∧
      (∀ query, left.compared bound request catalogue = .ok query →
        ∃ conditions, query = Query.filtering conditions ∧
          List.Forall₂ (fun entry made => Combo.condition tested entry = .ok made)
            (Combo.taken bound entries) conditions) ∧
      ((∃ query, left.compared bound request catalogue = .ok query) ↔
        ∀ entry ∈ Combo.taken bound entries, ¬Combo.Unsupported entry) ∧
      ∀ failure, left.compared bound request catalogue = .error failure ↔
        ∃ front entry back text, Combo.taken bound entries = front ++ entry :: back ∧
          (∀ earlier ∈ front, ¬Combo.Unsupported earlier) ∧ Combo.Refused entry text ∧
            failure = .raised s!"Unsupported operator '{text}'" := by
  have hcompared : left.compared bound request catalogue =
      ((Combo.taken bound entries).mapM (Combo.condition tested)).map Query.filtering := by
    rw [compared_of_fixed hfixed hleft, ← Combo.conditions_eq_mapM hgives]
    rfl
  rw [hcompared]
  refine ⟨?_, ?_, ?_, ?_⟩
  · constructor
    · rintro hlisted rfl
      obtain ⟨conditions, hconditions, hnone⟩ := Action.map_eq_ok_iff.mp hlisted
      have hlength := (Action.mapM_eq_ok_iff.mp hconditions).length_eq
      rw [Combo.length_taken_of_nil hgives, Query.filtering_injective hnone] at hlength
      cases hlength
    · intro hne
      rw [Combo.taken_eq_of_ne_nil bound hne]
  · intro query hquery
    obtain ⟨conditions, hconditions, rfl⟩ := Action.map_eq_ok_iff.mp hquery
    exact ⟨conditions, rfl, Action.mapM_eq_ok_iff.mp hconditions⟩
  · rw [Action.exists_map_eq_ok_iff, Combo.exists_mapM_condition_iff tested hnamed]
  · intro failure
    rw [Action.map_eq_error_iff, Combo.mapM_condition_eq_error_iff tested hnamed]

/-- Entries that look for codes by a part and by the whole. -/
def codesListed : List (Entries Datum) :=
  [[("operator", .text "Like"), ("value", .text "a")], [("value", .text "ab")]]

theorem codesListed_compared :
    (expression (.named "code")).isFunction = false ∧
      (expression (.named "code")).toExpr = .ok (.named "code") ∧
      Combo.Gives (.object [("multiple", .list (codesListed.map .object))]) codesListed ∧
      (∀ entry ∈ codesListed, Combo.Named entry) ∧
      (expression (.named "code")).compared
          (.object [("multiple", .list (codesListed.map .object))]) {} {} =
        .ok (Query.filtering
          [.like (.named "code") false (.value (.text "%a%")),
            .compare (.named "code") .equal (.value (.text "ab"))]) := by
  have hleft : (expression (.named "code")).toExpr = .ok (.named "code") := rfl
  have hgives : Combo.Gives (.object [("multiple", .list (codesListed.map .object))]) codesListed :=
    .listed rfl
  have hnamed : ∀ entry ∈ codesListed, Combo.Named entry := by
    intro entry hmem given hgiven
    rcases List.mem_pair.mp hmem with rfl | rfl
    · exact ⟨"Like", (Option.some.inj hgiven).symm⟩
    · cases hgiven
  have hlike : Operator.parse? "Like" = some (.word .like false) := by decide +kernel
  have hfirst : Combo.condition (.named "code") [("operator", .text "Like"), ("value", .text "a")] =
      .ok (.like (.named "code") false (.value (.text "%a%"))) :=
    Combo.condition_of_parse? _ rfl hlike
  have hsecond : Combo.condition (.named "code") [("value", .text "ab")] =
      .ok (.compare (.named "code") .equal (.value (.text "ab"))) := rfl
  have hlisted : codesListed.mapM (Combo.condition (.named "code")) =
      .ok [.like (.named "code") false (.value (.text "%a%")),
        .compare (.named "code") .equal (.value (.text "ab"))] :=
    Action.mapM_eq_ok_iff.mpr (.cons hfirst (.cons hsecond .nil))
  obtain ⟨hcompared, _⟩ := compared_eq_listed_iff rfl hleft hgives hnamed {} {}
  refine ⟨rfl, hleft, hgives, hnamed, ?_⟩
  rw [hcompared.mpr (List.cons_ne_nil _ _), hlisted]
  rfl

/-- An empty list of entries is not the empty list of conditions: codes have to be null for it. -/
theorem nothingListed_compared :
    Combo.Gives (.object [("multiple", .list [])]) [] ∧
      (expression (.named "code")).compared (.object [("multiple", .list [])]) {} {} =
        .ok (Query.filtering [.isNull (.named "code") false]) ∧
      (expression (.named "code")).compared (.object [("multiple", .list [])]) {} {} ≠
        .ok (Query.filtering []) := by
  have hcompared : (expression (.named "code")).compared (.object [("multiple", .list [])]) {} {} =
      .ok (Query.filtering [.isNull (.named "code") false]) := rfl
  refine ⟨.listed rfl, hcompared, ?_⟩
  rw [hcompared]
  intro h
  cases Query.filtering_injective (Except.ok.inj h)

end Draft

end QueryWeave

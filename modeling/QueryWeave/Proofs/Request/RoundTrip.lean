import QueryWeave.Draft
import QueryWeave.Proofs.Tree.RoundTrip

/-!
Requests that are written in the compact style and read again, and the loose values that trees and
requests are taken from.  A request comes back with the same values; a condition, a limit or
constants that were given as null come back as not given.  What is nested too deeply is read back by
the readers of its parts, but as a loose value it is refused.  Main statement: `Draft.reads_back`.
-/

namespace QueryWeave

open Read

theorem FieldEntry.read_encode (entry : FieldEntry) :
    read (entry.encode .compact) = some entry := by
  cases entry with
  | name name => rfl
  | pair table column => rfl
  | labelled table column label =>
      rw [encode, Style.compact_object, read, readLabelled]
      simp [only_members, Style.pair, Datum.toPair?, -Option.elim_map]
  | column column =>
      -- a result column has an expression, which no labelled column has
      have hread := ResultColumn.read_encode (Expr.read_encode column.expression)
      obtain ⟨expression, label⟩ := column
      rw [ResultColumn.encode, Style.compact_object] at hread
      rw [encode, ResultColumn.encode, Style.compact_object, read, hread, readLabelled]
      simp [only, Style.members]

theorem GroupEntry.read_encode (entry : GroupEntry) :
    read (entry.encode .compact) = some entry := by
  cases entry with
  | name name => rfl
  | grouping grouping =>
      have hread : Grouping.read (grouping.encode .compact) = some grouping :=
        Grouping.read_encode fun part _ => part.readsBack
      obtain ⟨terms, having⟩ := grouping
      rw [Grouping.encode] at hread
      rw [encode, Grouping.encode]
      exact congrArg (Option.map GroupEntry.grouping) hread

namespace SortEntry

theorem read_encode (entry : SortEntry) : read (entry.encode .compact) = some entry := by
  cases entry with
  | name name => rfl
  | key given =>
      obtain ⟨key, direction⟩ := given
      rw [encode, Style.compact_object, read, readSortKey]
      cases direction <;> simp [only_members]
  | term term =>
      -- a term has an expression, which no sort key has
      have hread := OrderTerm.read_encode (Expr.read_encode term.expression)
      obtain ⟨expression, direction⟩ := term
      rw [OrderTerm.encode, Style.compact_object] at hread
      rw [encode, OrderTerm.encode, Style.compact_object, read, hread, readSortKey]
      simp [only, Style.members]

theorem single_encode (entry : SortEntry) : (entry.encode .compact).single = true := by
  cases entry with
  | name name => rfl
  | key given => rfl
  | term term =>
      obtain ⟨expression, direction⟩ := term
      rw [encode, OrderTerm.encode]
      rfl

end SortEntry

def Limit.given? : Limit → Option Limit
  | absent => none
  | limit => some limit

namespace Request

/-- The request with what was given as null not given. -/
def settled (request : Request) : Request where
  distinct := request.distinct
  fields := request.fields
  tables := request.tables
  filters := request.filters
  grouping := request.grouping
  sorting := request.sorting
  condition := request.condition?.map some
  limit := request.rowLimit.given?
  constants := request.constant.present?

/-- Two requests with the same values. -/
structure Agrees (first second : Request) : Prop where
  distinct : first.distinct = second.distinct
  fields : first.fields = second.fields
  tables : first.tables = second.tables
  filters : first.filters = second.filters
  grouping : first.grouping = second.grouping
  sorting : first.sorting = second.sorting
  condition : first.condition? = second.condition?
  limit : first.rowLimit = second.rowLimit
  constant : first.constant = second.constant

theorem settled_agrees (request : Request) : request.settled.Agrees request where
  distinct := rfl
  fields := rfl
  tables := rfl
  filters := rfl
  grouping := rfl
  sorting := rfl
  condition := by
    rw [condition?, settled]
    cases request.condition? <;> rfl
  limit := by
    rw [rowLimit, settled]
    cases request.rowLimit <;> rfl
  constant := by
    rw [constant, settled]
    exact Datum.getD_present? _

theorem Agrees.encode_eq {first second : Request} (h : first.Agrees second) (style : Style) :
    first.encode style = second.encode style := by
  rw [encode, encode, leading, leading, trailing, trailing, h.distinct, h.fields, h.tables,
    h.filters, h.grouping, h.sorting, h.condition, h.limit, h.constant]

theorem encodeSorting_eq (style : Style) (sorting : Clause SortEntry) :
    encodeSorting style sorting = sorting.write (SortEntry.encode style) := by
  cases sorting <;> rfl

section Members

variable {members : Entries Datum} {key : String}

theorem given_of_condition (condition : Option Expr)
    (hmember : Entries.get? members key = condition.map (Expr.encode .compact)) :
    (given members key fun value =>
      if value.isNull then some none else (Expr.read value).map some) =
      some (condition.map some) := by
  rw [given, hmember]
  cases condition with
  | none => rfl
  | some condition => simp [Expr.read_encode]

theorem given_of_limit (limit : Limit)
    (hmember : Entries.get? members key = limit.encode .compact) :
    given members key readLimit = some limit.given? := by
  rw [given, hmember]
  cases hvalue : limit.encode .compact with
  | none => cases limit <;> simp_all [Limit.encode, Limit.given?]
  | some value =>
      have hread : readLimit value = some limit :=
        Limit.read_encode (fun part _ => part.readsBack) hvalue
      cases limit <;> simp_all [Limit.encode, Limit.given?]

theorem optional_of_list {α : Type} {read : Datum → Option α} {put : α → Datum}
    (items : Option (List α)) (h : ∀ item, read (put item) = some item)
    (hmember : Entries.get? members key = items.map fun items => .list (items.map put)) :
    (optional members key fun value _ => value.readList fun item _ => read item) = some items := by
  rw [optional_eq, hmember]
  cases items with
  | none => rfl
  | some items => exact congrArg (Option.map some) (Datum.readList_map fun item _ => h item)

end Members

theorem read_encode (request : Request) :
    read (request.encode .compact) = some request.settled := by
  have hsorting := Clause.read_write SortEntry.single_encode
    fun entry (_ : entry ∈ request.sorting.toList) => entry.read_encode
  rw [encode, Style.compact_object, read, leading, trailing, encodeSorting_eq]
  simp only [List.cons_append, List.nil_append]
  refine andThen (only_members (by simp)) ?_
  refine andThen (show flag _ "distinct" = some request.distinct by simp) ?_
  refine andThen (optional_of_list request.fields FieldEntry.read_encode (by simp)) ?_
  refine andThen (optional_of_list request.tables Datum.toText?_text (by simp)) ?_
  refine andThen (show withDefault _ "subqueries" _ _ = some request.filters by simp) ?_
  refine andThen (given_of_condition request.condition? (by simp)) ?_
  refine andThen (optional_of_list request.grouping GroupEntry.read_encode (by simp)) ?_
  refine andThen (by simpa using hsorting) ?_
  refine andThen (given_of_limit request.rowLimit (by simp)) ?_
  simp [settled]

end Request

namespace Draft

theorem toExpr_encode (expression : Expr) :
    (plain (expression.encode .compact)).toExpr =
      if Nesting.fits .other (expression.encode .record) then .ok expression
      else .error .malformed := by
  rw [toExpr, datum, Expr.decode, Expr.read_encode, Option.filter_some]
  · split <;> rfl
  · rintro _ ⟨⟩

theorem toQuery_encode (query : Query) :
    (plain (query.encode .compact)).toQuery =
      if Nesting.fits .query (query.encode .record) then .ok query else .error .malformed := by
  have hread := query.read_encode
  cases query
  rw [Query.encode] at hread ⊢
  rw [toQuery, datum, Query.decode, hread, Option.filter_some]
  · split <;> rfl
  · rintro ⟨⟩
  · rintro _ ⟨⟩

theorem toRequest_encode (request : Request) :
    (plain (request.encode .compact)).toRequest =
      if Nesting.fits .other (({ request with constants := none } : Request).encode .record) then
        .ok request.settled
      else .error .malformed := by
  have hagrees : ({ request.settled with constants := none } : Request).Agrees
      { request with constants := none } :=
    { request.settled_agrees with constant := rfl }
  have hdecode : Request.decode (request.encode .compact) =
      (some request.settled).filter fun given =>
        Nesting.fits .other (({ given with constants := none } : Request).encode .record) := by
    rw [Request.decode, request.read_encode]
  rw [← hagrees.encode_eq, toRequest, datum, hdecode, Option.filter_some]
  · split <;> rfl
  · rintro ⟨⟩
  · rintro _ ⟨⟩

/-- Trees and requests are read back from what they are written as.  The readers do so at any depth;
as loose values those are read back that fit the limit on nesting, and all others are refused. -/
theorem reads_back :
    (∀ expression : Expr,
      Expr.read (expression.encode .compact) = some expression ∧
        (plain (expression.encode .compact)).toExpr =
          if Nesting.fits .other (expression.encode .record) then .ok expression
          else .error .malformed) ∧
    (∀ query : Query,
      Query.read (query.encode .compact) = some query ∧
        (plain (query.encode .compact)).toQuery =
          if Nesting.fits .query (query.encode .record) then .ok query
          else .error .malformed) ∧
    ∀ request : Request, ∃ again : Request, again.Agrees request ∧
      Request.read (request.encode .compact) = some again ∧
        (plain (request.encode .compact)).toRequest =
          if Nesting.fits .other (({ request with constants := none } : Request).encode .record)
          then .ok again
          else .error .malformed :=
  ⟨fun expression => ⟨expression.read_encode, toExpr_encode expression⟩,
    fun query => ⟨query.read_encode, toQuery_encode query⟩,
    fun request => ⟨request.settled, request.settled_agrees, request.read_encode,
      toRequest_encode request⟩⟩

end Draft

/-- A column in so many pairs of brackets. -/
def Expr.bracketed : Nat → Expr
  | 0 => .named "berth"
  | n + 1 => .wrapped (some "(") (bracketed n) (some ")")

namespace Nesting

/-- A part in brackets is as deep as the part and its brackets. -/
theorem depth_wrapped (lowest : Nat) (before after : Option String) (inner : Expr) :
    depth lowest ((Expr.wrapped before inner after).encode .record) =
      weight "ParameterExpression" 12 lowest + depth (min lowest 12) (inner.encode .record) := by
  have hsign (sign : Option String) :
      depth (min lowest 12) (Datum.ofOption (sign.map .text)) = 0 := by
    cases sign <;> rfl
  have hmembers : depth lowest ((Expr.wrapped before inner after).encode .record) =
      weight "ParameterExpression" 12 lowest + max 0
        (max (depth (min lowest 12) (Datum.ofOption (before.map .text)))
          (max (depth (min lowest 12) (inner.encode .record))
            (max (depth (min lowest 12) (Datum.ofOption (after.map .text))) 0))) := rfl
  rw [hmembers, hsign, hsign]
  simp

/-- Under brackets, every further pair weighs one. -/
theorem depth_bracketed (n : Nat) : depth 12 ((Expr.bracketed n).encode .record) = n + 1 := by
  induction n with
  | zero => rfl
  | succ n ih =>
      rw [Expr.bracketed, depth_wrapped, Nat.min_self, ih]
      exact Nat.add_comm 1 (n + 1)

theorem fits_bracketed_iff (n : Nat) :
    fits .other ((Expr.bracketed n).encode .record) = true ↔ n ≤ 253 := by
  rw [fits, decide_eq_true_iff]
  cases n with
  | zero => decide
  | succ n =>
      -- the outermost pair is the first of its rank, so it weighs two
      have houter : weight "ParameterExpression" 12 Root.other.rank = 2 := rfl
      have hmin : min Root.other.rank 12 = 12 := rfl
      rw [Expr.bracketed, depth_wrapped, houter, hmin, depth_bracketed, limit]
      omega

end Nesting

namespace Draft

theorem toExpr_bracketed (n : Nat) :
    (plain ((Expr.bracketed n).encode .compact)).toExpr =
      if n ≤ 253 then .ok (Expr.bracketed n) else .error .malformed := by
  rw [toExpr_encode]
  simp only [Nesting.fits_bracketed_iff]

/-- A tree that its reader gives back and that is refused as a loose value. -/
theorem bracketed_refused :
    Expr.read ((Expr.bracketed 254).encode .compact) = some (Expr.bracketed 254) ∧
      (plain ((Expr.bracketed 254).encode .compact)).toExpr = .error .malformed :=
  ⟨Expr.read_encode _, (toExpr_bracketed 254).trans (if_neg (by decide))⟩

end Draft

end QueryWeave

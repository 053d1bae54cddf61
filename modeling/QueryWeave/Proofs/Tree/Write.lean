import QueryWeave.Proofs.Tree.Erased

/-!
Writing into placeholders by place, in scan order.  Filling obeys the laws of writing into a list: what
is written is found at its place, what is already there changes nothing, and a later writing counts.
They are kept by every way in which a tree is put together, so that a place is the same placeholder
however often a tree is written to.  Main statement: `Node.writeAll_agrees`.
-/

namespace QueryWeave

universe u v

/-- A supply on top of an earlier one. -/
def Supply.atop (later earlier : Supply) : Supply := later ++ earlier.drop later.length

theorem Supply.atop_of_length_eq {later earlier : Supply} (h : later.length = earlier.length) :
    later.atop earlier = later := by
  rw [atop, h, List.drop_length, List.append_nil]

theorem Supply.drop_atop (later earlier : Supply) (count : Nat) :
    (later.atop earlier).drop count = Supply.atop (later.drop count) (earlier.drop count) := by
  rw [atop, atop, List.drop_append, List.drop_drop, List.drop_drop, List.length_drop]
  congr 2
  omega

/-- The laws of putting supplies into something. -/
structure Refills {α : Type u} (put : α → Supply → α) (held : α → List Datum) (item : α) :
    Prop where
  /-- Putting back what is held changes nothing. -/
  own : ∀ rest, put item (held item ++ rest) = item
  /-- A later supply counts, as far as it goes. -/
  again : ∀ first second, put (put item first) second = put item (second.atop first)
  length : ∀ supply, (held (put item supply)).length = (held item).length

namespace Refills

variable {α : Type u} {β : Type v} {put : α → Supply → α} {held : α → List Datum} {item : α}
  {putOther : β → Supply → β} {heldOther : β → List Datum} {other : β}

/-- Of two things in a row the second gets what is left of a supply. -/
def putBoth (put : α → Supply → α) (held : α → List Datum) (putOther : β → Supply → β)
    (both : α × β) (supply : Supply) : α × β :=
  (put both.1 supply, putOther both.2 (supply.drop (held both.1).length))

def heldBoth (held : α → List Datum) (heldOther : β → List Datum) (both : α × β) : List Datum :=
  held both.1 ++ heldOther both.2

theorem both (h : Refills put held item) (hother : Refills putOther heldOther other) :
    Refills (putBoth put held putOther) (heldBoth held heldOther) (item, other) where
  own := by
    intro rest
    rw [putBoth, heldBoth, List.append_assoc, h.own, List.drop_left, hother.own]
  again := by
    intro first second
    dsimp only [putBoth]
    rw [h.again, hother.again, h.length, Supply.drop_atop]
  length := by
    intro supply
    dsimp only [putBoth, heldBoth]
    rw [List.length_append, List.length_append, h.length, hother.length]

/-- What is made of something is filled with it. -/
theorem made (h : Refills put held item) (make : α → β)
    (hput : ∀ item supply, putOther (make item) supply = make (put item supply))
    (hheld : ∀ item, heldOther (make item) = held item) :
    Refills putOther heldOther (make item) where
  own := by
    intro rest
    rw [hheld, hput, h.own]
  again := by
    intro first second
    rw [hput, hput, h.again, hput]
  length := by
    intro supply
    rw [hput, hheld, h.length, hheld]

/-- Something that nothing can be put into. -/
theorem still (hput : ∀ supply, put item supply = item) : Refills put held item where
  own := fun rest => hput _
  again := by
    intro first second
    rw [hput, hput, hput]
  length := by
    intro supply
    rw [hput]

end Refills

theorem Expr.refills_placeholder (value : Datum) :
    Refills Expr.fill Expr.placeholders (.placeholder value) where
  own := fun rest => rfl
  again := by
    intro first second
    cases second with
    | nil => cases first <;> rfl
    | cons value rest => cases first <;> rfl
  length := by
    intro supply
    cases supply <;> rfl

mutual

theorem Expr.refills : ∀ expression : Expr, Refills Expr.fill Expr.placeholders expression
  | .column _ _ => .still fun _ => rfl
  | .value _ => .still fun _ => rfl
  | .placeholder held => Expr.refills_placeholder held
  | .compare left operator right =>
      (left.refills.both right.refills).made (fun parts => Expr.compare parts.1 operator parts.2)
        (fun _ _ => rfl) fun _ => rfl
  | .arithmetic left operator right =>
      (left.refills.both right.refills).made (fun parts => Expr.arithmetic parts.1 operator parts.2)
        (fun _ _ => rfl) fun _ => rfl
  | .between left negated low high =>
      ((left.refills.both low.refills).both high.refills).made
        (fun parts => Expr.between parts.1.1 negated parts.1.2 parts.2) (fun _ _ => rfl) fun _ => rfl
  | .inList left negated right =>
      (left.refills.both right.refills).made (fun parts => Expr.inList parts.1 negated parts.2)
        (fun _ _ => rfl) fun _ => rfl
  | .inQuery left negated query =>
      (left.refills.both query.refills).made (fun parts => Expr.inQuery parts.1 negated parts.2)
        (fun _ _ => rfl) fun _ => rfl
  | .like left negated right =>
      (left.refills.both right.refills).made (fun parts => Expr.like parts.1 negated parts.2)
        (fun _ _ => rfl) fun _ => rfl
  | .regexp left negated right =>
      (left.refills.both right.refills).made (fun parts => Expr.regexp parts.1 negated parts.2)
        (fun _ _ => rfl) fun _ => rfl
  | .regexpText left negated pattern =>
      left.refills.made (Expr.regexpText · negated pattern) (fun _ _ => rfl) fun _ => rfl
  | .isNull left negated => left.refills.made (Expr.isNull · negated) (fun _ _ => rfl) fun _ => rfl
  | .branching branches otherwise =>
      ((Branch.refillsAll branches).both (Expr.refillsOption otherwise)).made
        (fun parts => Expr.branching parts.1 parts.2) (fun _ _ => rfl) fun _ => rfl
  | .call name parameters =>
      (Expr.refillsAll parameters).made (Expr.call name) (fun _ _ => rfl) fun _ => rfl
  | .conjunction members =>
      (Expr.refillsAll members).made Expr.conjunction (fun _ _ => rfl) fun _ => rfl
  | .disjunction members =>
      (Expr.refillsAll members).made Expr.disjunction (fun _ _ => rfl) fun _ => rfl
  | .wrapped before inner after =>
      inner.refills.made (Expr.wrapped before · after) (fun _ _ => rfl) fun _ => rfl
  | .existence negated query =>
      query.refills.made (Expr.existence negated) (fun _ _ => rfl) fun _ => rfl
  | .scalar query => query.refills.made Expr.scalar (fun _ _ => rfl) fun _ => rfl

theorem Expr.refillsAll : ∀ expressions : List Expr,
    Refills Expr.fillAll Expr.placeholdersAll expressions
  | [] => .still fun _ => rfl
  | expression :: rest =>
      (expression.refills.both (Expr.refillsAll rest)).made (fun parts => parts.1 :: parts.2)
        (fun _ _ => rfl) fun _ => rfl

theorem Expr.refillsOption : ∀ expression : Option Expr,
    Refills Expr.fillOption Expr.placeholdersOption expression
  | none => .still fun _ => rfl
  | some expression => expression.refills.made some (fun _ _ => rfl) fun _ => rfl

theorem Expr.refillsItems : ∀ items : Items Expr,
    Refills Expr.fillItems Expr.placeholdersItems items
  | .one expression => expression.refills.made Items.one (fun _ _ => rfl) fun _ => rfl
  | .many expressions => (Expr.refillsAll expressions).made Items.many (fun _ _ => rfl) fun _ => rfl

theorem Expr.refillsClause : ∀ clause : Clause Expr,
    Refills Expr.fillClause Expr.placeholdersClause clause
  | .absent => .still fun _ => rfl
  | .one expression => expression.refills.made Clause.one (fun _ _ => rfl) fun _ => rfl
  | .many expressions => (Expr.refillsAll expressions).made Clause.many (fun _ _ => rfl) fun _ => rfl

theorem Branch.refillsAll : ∀ branches : List Branch,
    Refills Branch.fillAll Branch.placeholdersAll branches
  | [] => .still fun _ => rfl
  | ⟨guard, result⟩ :: rest =>
      ((guard.refills.both result.refills).both (Branch.refillsAll rest)).made
        (fun parts => Branch.mk parts.1.1 parts.1.2 :: parts.2) (fun _ _ => rfl) fun _ => rfl

theorem ResultColumn.refills : ∀ column : ResultColumn,
    Refills ResultColumn.fill ResultColumn.placeholders column
  | ⟨expression, label⟩ =>
      expression.refills.made (ResultColumn.mk · label) (fun _ _ => rfl) fun _ => rfl

theorem ResultColumn.refillsAll : ∀ columns : List ResultColumn,
    Refills ResultColumn.fillAll ResultColumn.placeholdersAll columns
  | [] => .still fun _ => rfl
  | column :: rest =>
      (column.refills.both (ResultColumn.refillsAll rest)).made (fun parts => parts.1 :: parts.2)
        (fun _ _ => rfl) fun _ => rfl

theorem ResultColumn.refillsClause : ∀ clause : Clause ResultColumn,
    Refills ResultColumn.fillClause ResultColumn.placeholdersClause clause
  | .absent => .still fun _ => rfl
  | .one column => column.refills.made Clause.one (fun _ _ => rfl) fun _ => rfl
  | .many columns => (ResultColumn.refillsAll columns).made Clause.many (fun _ _ => rfl) fun _ => rfl

theorem Table.refills : ∀ table : Table, Refills Table.fill Table.placeholders table
  | ⟨source, label, joins⟩ =>
      (Join.refillsItems joins).made (Table.mk source label) (fun _ _ => rfl) fun _ => rfl

theorem Table.refillsAll : ∀ tables : List Table,
    Refills Table.fillAll Table.placeholdersAll tables
  | [] => .still fun _ => rfl
  | table :: rest =>
      (table.refills.both (Table.refillsAll rest)).made (fun parts => parts.1 :: parts.2)
        (fun _ _ => rfl) fun _ => rfl

theorem Table.refillsClause : ∀ clause : NamedClause Table,
    Refills Table.fillClause Table.placeholdersClause clause
  | .absent => .still fun _ => rfl
  | .name _ => .still fun _ => rfl
  | .one table => table.refills.made NamedClause.one (fun _ _ => rfl) fun _ => rfl
  | .many tables => (Table.refillsAll tables).made NamedClause.many (fun _ _ => rfl) fun _ => rfl

theorem JoinTarget.refills : ∀ target : JoinTarget,
    Refills JoinTarget.fill JoinTarget.placeholders target
  | .name _ => .still fun _ => rfl
  | .table joined => joined.refills.made JoinTarget.table (fun _ _ => rfl) fun _ => rfl

theorem Join.refills : ∀ join : Join, Refills Join.fill Join.placeholders join
  | ⟨kind, target, conditions⟩ =>
      (target.refills.both (Expr.refillsClause conditions)).made
        (fun parts => Join.mk kind parts.1 parts.2) (fun _ _ => rfl) fun _ => rfl

theorem Join.refillsAll : ∀ joins : List Join, Refills Join.fillAll Join.placeholdersAll joins
  | [] => .still fun _ => rfl
  | join :: rest =>
      (join.refills.both (Join.refillsAll rest)).made (fun parts => parts.1 :: parts.2)
        (fun _ _ => rfl) fun _ => rfl

theorem Join.refillsItems : ∀ items : Items Join,
    Refills Join.fillItems Join.placeholdersItems items
  | .one join => join.refills.made Items.one (fun _ _ => rfl) fun _ => rfl
  | .many joins => (Join.refillsAll joins).made Items.many (fun _ _ => rfl) fun _ => rfl

theorem Grouping.refills : ∀ grouping : Grouping,
    Refills Grouping.fill Grouping.placeholders grouping
  | ⟨terms, having⟩ =>
      ((Expr.refillsItems terms).both (Expr.refillsClause having)).made
        (fun parts => Grouping.mk parts.1 parts.2) (fun _ _ => rfl) fun _ => rfl

theorem Group.refills : ∀ group : Group, Refills Group.fill Group.placeholders group
  | .absent => .still fun _ => rfl
  | .name _ => .still fun _ => rfl
  | .by grouping => grouping.refills.made Group.by (fun _ _ => rfl) fun _ => rfl

theorem OrderTerm.refills : ∀ term : OrderTerm,
    Refills OrderTerm.fill OrderTerm.placeholders term
  | ⟨expression, direction⟩ =>
      expression.refills.made (OrderTerm.mk · direction) (fun _ _ => rfl) fun _ => rfl

theorem OrderTerm.refillsAll : ∀ terms : List OrderTerm,
    Refills OrderTerm.fillAll OrderTerm.placeholdersAll terms
  | [] => .still fun _ => rfl
  | term :: rest =>
      (term.refills.both (OrderTerm.refillsAll rest)).made (fun parts => parts.1 :: parts.2)
        (fun _ _ => rfl) fun _ => rfl

theorem OrderTerm.refillsClause : ∀ clause : NamedClause OrderTerm,
    Refills OrderTerm.fillClause OrderTerm.placeholdersClause clause
  | .absent => .still fun _ => rfl
  | .name _ => .still fun _ => rfl
  | .one term => term.refills.made NamedClause.one (fun _ _ => rfl) fun _ => rfl
  | .many terms => (OrderTerm.refillsAll terms).made NamedClause.many (fun _ _ => rfl) fun _ => rfl

theorem Query.refills : ∀ query : Query, Refills Query.fill Query.placeholders query
  | ⟨distinct, select, tables, filter, group, order, limit, union⟩ =>
      (((((ResultColumn.refillsClause select).both (Table.refillsClause tables)).both
        (Expr.refillsClause filter)).both group.refills).both
          (OrderTerm.refillsClause order)).made
        (fun parts => Query.mk distinct parts.1.1.1.1 parts.1.1.1.2 parts.1.1.2 parts.1.2 parts.2
          limit union) (fun _ _ => rfl) fun _ => rfl

end

namespace Node

variable {node : Node} {values : Supply}

theorem refills (node : Node) : Refills fill placeholders node := by
  cases node with
  | expr expression => exact expression.refills.made Node.expr (fun _ _ => rfl) fun _ => rfl
  | table given => exact given.refills.made Node.table (fun _ _ => rfl) fun _ => rfl
  | query given => exact given.refills.made Node.query (fun _ _ => rfl) fun _ => rfl

theorem fill_placeholders (node : Node) : node.fill node.placeholders = node := by
  have hown := node.refills.own []
  rw [List.append_nil] at hown
  exact hown

theorem fill_fill (node : Node) {later : Supply} (h : later.length = values.length) :
    (node.fill values).fill later = node.fill later := by
  rw [node.refills.again, Supply.atop_of_length_eq h]

theorem placeholders_fill_of_length_eq (h : values.length = node.placeholders.length) :
    (node.fill values).placeholders = values := by
  rw [placeholders_fill, Supply.onto_of_length_eq h]

/-- The node with a value in the placeholder at a place, if there is one. -/
def write (node : Node) (place : Nat) (value : Datum) : Node :=
  node.fill (node.placeholders.set place value)

/-- The node with values in its placeholders, written one after the other. -/
def writeAll (node : Node) (values : List Datum) : Node :=
  values.zipIdx.foldl (fun written pair => written.write pair.2 pair.1) node

theorem placeholders_write (node : Node) (place : Nat) (value : Datum) :
    (node.write place value).placeholders = node.placeholders.set place value :=
  placeholders_fill_of_length_eq List.length_set

theorem fill_write (h : values.length = node.placeholders.length) (place : Nat) (value : Datum) :
    (node.write place value).fill values = node.fill values := by
  rw [write, fill_fill node (h.trans List.length_set.symm)]

theorem write_write (node : Node) (place other : Nat) (early late : Datum) :
    (node.write place early).write other late =
      node.fill ((node.placeholders.set place early).set other late) := by
  rw [write, placeholders_write, fill_write]
  rw [List.length_set, List.length_set]

/-- Writings from a place on reach every placeholder behind it. -/
theorem foldl_write_zipIdx {place : Nat}
    (h : place + values.length = node.placeholders.length) :
    (values.zipIdx place).foldl (fun written pair => written.write pair.2 pair.1) node =
      node.fill (node.placeholders.take place ++ values) := by
  induction values generalizing node place with
  | nil =>
      rw [List.length_nil, Nat.add_zero] at h
      rw [List.append_nil, h, List.take_length, fill_placeholders]
      rfl
  | cons value rest ih =>
      rw [List.length_cons] at h
      have hplaceholders := node.placeholders_write place value
      have hlength : place + 1 + rest.length = (node.write place value).placeholders.length := by
        rw [hplaceholders, List.length_set]
        omega
      have hwritten : (node.placeholders.set place value).take (place + 1) =
          node.placeholders.take place ++ [value] := by
        rw [List.take_add_one, List.getElem?_set_self (by omega),
          List.take_set_of_le (Nat.le_refl place)]
        rfl
      rw [List.zipIdx_cons, List.foldl_cons, ih hlength, hplaceholders, hwritten,
        List.append_assoc, List.singleton_append, fill_write]
      rw [List.length_append, List.length_take, List.length_cons]
      omega

theorem writeAll_eq_fill (h : values.length = node.placeholders.length) :
    node.writeAll values = node.fill values := by
  rw [writeAll, foldl_write_zipIdx (by omega), List.take_zero, List.nil_append]

/-- A scan and what is written by place agree.  The values that are written are found, in order, and
nothing else has changed; what is written back changes nothing; of two values for a place the later one
counts, and different places do not stand in each other's way. -/
theorem writeAll_agrees (node : Node) (h : values.length = node.placeholders.length) :
    (node.writeAll values).placeholders = values ∧
      Walk.erase.node (node.writeAll values) = Walk.erase.node node ∧
      (node.writeAll values).aside = node.aside ∧
      node.writeAll node.placeholders = node ∧
      (∀ later : Supply, later.length = values.length →
        (node.writeAll values).writeAll later = node.writeAll later) ∧
      (∀ place value, (node.write place value).placeholders = node.placeholders.set place value) ∧
      (∀ place early late,
        (node.write place early).write place late = node.write place late) ∧
      (∀ place other early late, place ≠ other →
        (node.write place early).write other late = (node.write other late).write place early) ∧
      node.writeAll values = node.fill values := by
  have hfilled := placeholders_fill_of_length_eq h
  rw [writeAll_eq_fill h, writeAll_eq_fill rfl]
  refine ⟨hfilled, node.erase_fill values, node.aside_fill values, node.fill_placeholders, ?_,
    node.placeholders_write, ?_, ?_, rfl⟩
  · intro later hlater
    rw [writeAll_eq_fill (hlater.trans (congrArg List.length hfilled).symm),
      writeAll_eq_fill (hlater.trans h), fill_fill node hlater]
  · intro place early late
    rw [write_write, List.set_set, write]
  · intro place other early late hne
    rw [write_write, write_write, List.set_comm _ _ hne]

/-- Sailings to a port between two hours, unless a port of some name is closed. -/
def passage (port first last pattern : Datum) : Node :=
  .query { Query.empty with
    tables := .one ⟨.name "sailings", none,
      .one ⟨.inner, .name "ports", .one (.compare (.named "port") .equal (.placeholder port))⟩⟩
    filter := .many
      [.between (.named "hour") false (.placeholder first) (.placeholder last),
        .existence true { Query.empty with
          filter := .one (.like (.named "closed") false (.placeholder pattern)) }] }

theorem passage_written :
    ([.text "AMS", .int 6, .int 18, .text "A%"] : Supply).length =
        (passage .null .null (.int 12) .null).placeholders.length ∧
      (passage .null .null (.int 12) .null).writeAll
          [.text "AMS", .int 6, .int 18, .text "A%"] =
        passage (.text "AMS") (.int 6) (.int 18) (.text "A%") ∧
      ((passage .null .null (.int 12) .null).write 1 (.int 6)).write 2 (.int 18) =
        ((passage .null .null (.int 12) .null).write 2 (.int 18)).write 1 (.int 6) := by
  have hlength : ([.text "AMS", .int 6, .int 18, .text "A%"] : Supply).length =
      (passage .null .null (.int 12) .null).placeholders.length := rfl
  obtain ⟨_, _, _, _, _, _, _, hapart, hfill⟩ := writeAll_agrees _ hlength
  exact ⟨hlength, hfill, hapart 1 2 (.int 6) (.int 18) (by decide)⟩

end Node

end QueryWeave

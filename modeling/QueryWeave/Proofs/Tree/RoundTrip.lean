import QueryWeave.Proofs.Datum.Read
import QueryWeave.Proofs.Tree.Node
import QueryWeave.Tree.Decode

/-!
Trees that are written in the compact style and read again.  A form is told apart from the others
that may stand in its place by its class name, by its kind of data or, for a query, by having no
class name.  Main statement: `Node.readsBack`, every tree is what is read from its own encoding.
-/

namespace QueryWeave

attribute [simp] Comparison.ofWord?_word Arithmetic.ofWord?_word JoinKind.ofWord?_word
  Direction.ofWord?_word

section Encoding

variable (style : Style)

theorem Expr.encodeAll_eq (expressions : List Expr) :
    encodeAll style expressions = expressions.map (encode style) :=
  eq_map_of_cons (by rw [encodeAll]) (fun _ _ => by rw [encodeAll]) expressions

theorem Branch.encodeAll_eq (branches : List Branch) :
    encodeAll style branches = branches.map (encode style) :=
  eq_map_of_cons (by rw [encodeAll]) (fun _ _ => by rw [encodeAll]) branches

theorem ResultColumn.encodeAll_eq (columns : List ResultColumn) :
    encodeAll style columns = columns.map (encode style) :=
  eq_map_of_cons (by rw [encodeAll]) (fun _ _ => by rw [encodeAll]) columns

theorem Table.encodeAll_eq (tables : List Table) :
    encodeAll style tables = tables.map (encode style) :=
  eq_map_of_cons (by rw [encodeAll]) (fun _ _ => by rw [encodeAll]) tables

theorem Join.encodeAll_eq (joins : List Join) :
    encodeAll style joins = joins.map (encode style) :=
  eq_map_of_cons (by rw [encodeAll]) (fun _ _ => by rw [encodeAll]) joins

theorem OrderTerm.encodeAll_eq (terms : List OrderTerm) :
    encodeAll style terms = terms.map (encode style) :=
  eq_map_of_cons (by rw [encodeAll]) (fun _ _ => by rw [encodeAll]) terms

theorem Expr.encodeItems_eq (items : Items Expr) :
    encodeItems style items = items.write (encode style) := by
  cases items with
  | one item => rw [encodeItems, Items.write]
  | many items => rw [encodeItems, encodeAll_eq, Items.write]

theorem Join.encodeItems_eq (items : Items Join) :
    encodeItems style items = items.write (encode style) := by
  cases items with
  | one item => rw [encodeItems, Items.write]
  | many items => rw [encodeItems, encodeAll_eq, Items.write]

theorem Expr.encodeClause_eq (clause : Clause Expr) :
    encodeClause style clause = clause.write (encode style) := by
  cases clause with
  | absent => rw [encodeClause, Clause.write]
  | one item => rw [encodeClause, Clause.write]
  | many items => rw [encodeClause, encodeAll_eq, Clause.write]

theorem ResultColumn.encodeClause_eq (clause : Clause ResultColumn) :
    encodeClause style clause = clause.write (encode style) := by
  cases clause with
  | absent => rw [encodeClause, Clause.write]
  | one item => rw [encodeClause, Clause.write]
  | many items => rw [encodeClause, encodeAll_eq, Clause.write]

theorem Table.encodeClause_eq (clause : NamedClause Table) :
    encodeClause style clause = clause.write (encode style) := by
  cases clause with
  | absent => rw [encodeClause, NamedClause.write]
  | name given => rw [encodeClause, NamedClause.write]
  | one item => rw [encodeClause, NamedClause.write]
  | many items => rw [encodeClause, encodeAll_eq, NamedClause.write]

theorem OrderTerm.encodeClause_eq (clause : NamedClause OrderTerm) :
    encodeClause style clause = clause.write (encode style) := by
  cases clause with
  | absent => rw [encodeClause, NamedClause.write]
  | name given => rw [encodeClause, NamedClause.write]
  | one item => rw [encodeClause, NamedClause.write]
  | many items => rw [encodeClause, encodeAll_eq, NamedClause.write]

end Encoding

/-- Whether a node is what is read from its own encoding. -/
def Node.ReadsBack : Node → Prop
  | expr expression => Expr.read (expression.encode .compact) = some expression
  | table given => Table.read (given.encode .compact) = some given
  | query given => Query.read (given.encode .compact) = some given

namespace Node

@[simp] theorem readsBack_expr {expression : Expr} :
    (expr expression).ReadsBack ↔ Expr.read (expression.encode .compact) = some expression :=
  Iff.rfl

@[simp] theorem readsBack_table {given : Table} :
    (table given).ReadsBack ↔ Table.read (given.encode .compact) = some given :=
  Iff.rfl

@[simp] theorem readsBack_query {given : Query} :
    (query given).ReadsBack ↔ Query.read (given.encode .compact) = some given :=
  Iff.rfl

end Node

namespace Style

variable (form other : String) (fields : List (String × Option Datum))

theorem sizeOf_members_lt_object :
    sizeOf (compact.members fields) < sizeOf (compact.object form fields) := by
  simp +arith [object]

theorem nodeMembers?_node :
    (compact.node form fields).nodeMembers? =
      some ⟨compact.members (("classname", some (.text form)) :: fields),
        sizeOf_members_lt_object _ _⟩ := rfl

theorem nodeMembers?_object :
    (compact.object form fields).nodeMembers? =
      some ⟨compact.members fields, sizeOf_members_lt_object _ _⟩ := rfl

theorem membersOf?_object :
    (compact.object form fields).membersOf? other =
      some ⟨compact.members fields, sizeOf_members_lt_object _ _⟩ := rfl

theorem text_classname :
    Read.text (compact.members (("classname", some (.text form)) :: fields)) "classname" =
      some form := by
  simp

end Style

/-! ### What kind of data a part is written as -/

namespace Expr

variable (expression : Expr)

theorem encode_eq_object :
    ∃ form fields, expression.encode .compact = Style.compact.object form fields := by
  cases expression <;> exact ⟨_, _, by rw [encode, Style.node]⟩

@[simp] theorem single_encode : (expression.encode .compact).single = true := by
  obtain ⟨form, fields, heq⟩ := expression.encode_eq_object
  rw [heq]
  rfl

@[simp] theorem isNull_encode : (expression.encode .compact).isNull = false := by
  obtain ⟨form, fields, heq⟩ := expression.encode_eq_object
  rw [heq]
  rfl

@[simp] theorem toText?_encode : (expression.encode .compact).toText? = none := by
  obtain ⟨form, fields, heq⟩ := expression.encode_eq_object
  rw [heq]
  rfl

@[simp] theorem toInt?_encode : (expression.encode .compact).toInt? = none := by
  obtain ⟨form, fields, heq⟩ := expression.encode_eq_object
  rw [heq]
  rfl

end Expr

@[simp] theorem ResultColumn.single_encode (column : ResultColumn) :
    (column.encode .compact).single = true := by
  cases column
  rw [encode]
  rfl

@[simp] theorem Table.unnamed_encode (table : Table) :
    (table.encode .compact).unnamed = true := by
  cases table
  rw [encode]
  rfl

@[simp] theorem Table.toText?_encode (table : Table) :
    (table.encode .compact).toText? = none := by
  cases table
  rw [encode]
  rfl

@[simp] theorem Join.single_encode (join : Join) : (join.encode .compact).single = true := by
  cases join
  rw [encode]
  rfl

@[simp] theorem OrderTerm.unnamed_encode (term : OrderTerm) :
    (term.encode .compact).unnamed = true := by
  cases term
  rw [encode]
  rfl

@[simp] theorem Query.isNull_encode (query : Query) : (query.encode .compact).isNull = false := by
  cases query
  rw [encode]
  rfl

@[simp] theorem Query.toText?_encode (query : Query) : (query.encode .compact).toText? = none := by
  cases query
  rw [encode]
  rfl

/-- A query is not taken for an expression, as it has no class name. -/
@[simp] theorem Expr.read_encode_query (query : Query) :
    Expr.read (query.encode .compact) = none := by
  cases query
  rw [read, Query.encode]
  simp [Style.nodeMembers?_object, Style.fromKey]

/-! ### Parts of nodes -/

theorem Branch.read_encode {branch : Branch} (h : ∀ part ∈ branch.parts, part.ReadsBack) :
    Branch.read (branch.encode .compact) = some branch := by
  obtain ⟨guard, result⟩ := branch
  simp only [Branch.parts, List.forall_mem_cons, Node.readsBack_expr] at h
  rw [read, encode, Style.membersOf?_object]
  simp [Read.only_members, h]

theorem ResultColumn.read_encode {column : ResultColumn}
    (h : (Node.expr column.expression).ReadsBack) :
    ResultColumn.read (column.encode .compact) = some column := by
  obtain ⟨expression, label⟩ := column
  rw [Node.readsBack_expr] at h
  rw [read, encode, Style.membersOf?_object]
  simp [Read.only_members, h, -Option.elim_map]

theorem OrderTerm.read_encode {term : OrderTerm} (h : (Node.expr term.expression).ReadsBack) :
    OrderTerm.read (term.encode .compact) = some term := by
  obtain ⟨expression, direction⟩ := term
  rw [Node.readsBack_expr] at h
  rw [read, encode, Style.membersOf?_object]
  simp [Read.only_members, h]

theorem Join.read_encode {join : Join} (h : ∀ part ∈ join.parts, part.ReadsBack) :
    Join.read (join.encode .compact) = some join := by
  obtain ⟨kind, target, conditions⟩ := join
  rw [parts, List.forall_mem_append, List.forall_mem_map] at h
  obtain ⟨htarget, hconditions⟩ := h
  have hclause := Clause.read_write Expr.single_encode hconditions
  rw [read, encode, Style.membersOf?_object, Expr.encodeClause_eq]
  cases target with
  | name name => simp [JoinTarget.encode, Read.only_members, hclause]
  | table joined =>
      have hjoined : Table.read (joined.encode .compact) = some joined :=
        htarget _ (List.mem_singleton_self _)
      simp [JoinTarget.encode, Read.only_members, hclause, hjoined]

theorem Grouping.read_encode {grouping : Grouping}
    (h : ∀ part ∈ grouping.parts, part.ReadsBack) :
    Grouping.read (grouping.encode .compact) = some grouping := by
  obtain ⟨terms, having⟩ := grouping
  rw [parts, List.forall_mem_append, List.forall_mem_map, List.forall_mem_map] at h
  have hterms := Items.read_write Expr.single_encode h.1
  have hhaving := Clause.read_write Expr.single_encode h.2
  rw [read, encode, Style.membersOf?_object, Expr.encodeItems_eq, Expr.encodeClause_eq]
  simp [Read.only_members, hterms, hhaving]

theorem Window.read_encode {window : Window} (h : ∀ part ∈ window.parts, part.ReadsBack) :
    Window.read (window.encode .compact) = some window := by
  obtain ⟨limit, offset⟩ := window
  rw [read, encode, Style.membersOf?_object]
  simp only [parts, List.forall_mem_append] at h
  rcases limit with count | limit <;> rcases offset with _ | (shift | offset) <;>
    simp_all [Bound.parts, Bound.encode, Bound.encodeOption, Read.only_members]

theorem Expr.readList_encodeAll {members : List Expr}
    (h : ∀ part ∈ members.map Node.expr, part.ReadsBack) :
    (Datum.list (encodeAll .compact members)).readList (fun value _ => Expr.read value) =
      some members := by
  rw [encodeAll_eq]
  exact Datum.readList_map (List.forall_mem_map.mp h)

theorem Expr.readsBack_of_parts {expression : Expr}
    (h : ∀ part ∈ expression.parts, part.ReadsBack) : (Node.expr expression).ReadsBack := by
  rw [Node.ReadsBack, read]
  cases expression
  -- the reader first looks the class name up and goes on with the members of that form
  all_goals simp only [encode, Style.nodeMembers?_node, ↓Option.bind_eq_bind, ↓Option.bind_some,
    ↓Style.text_classname]
  case column table name => simp [Read.only_members, -Option.elim_map]
  case value held => simp [Read.only_members, Datum.member]
  case placeholder held => simp [Read.only_members, Datum.member]
  case branching branches otherwise =>
      rw [parts, List.forall_mem_append, List.forall_mem_flatMap, List.forall_mem_map] at h
      have hbranches := Datum.readList_map fun branch hbranch =>
        Branch.read_encode (h.1 branch hbranch)
      cases otherwise with
      | none =>
          simp [Branch.encodeAll_eq, encodeOption, Style.elseKey, Read.spelling, Entries.has,
            Read.only_members, hbranches]
      | some other =>
          have hother : Expr.read (other.encode .compact) = some other :=
            h.2 other (Option.mem_toList.mpr rfl)
          simp [Branch.encodeAll_eq, encodeOption, Style.elseKey, Read.spelling, Entries.has,
            Read.only_members, hbranches, hother]
  case call name members => simp [Read.only_members, readList_encodeAll h]
  case conjunction members => simp [Read.only_members, readList_encodeAll h]
  case disjunction members => simp [Read.only_members, readList_encodeAll h]
  case wrapped before inner after =>
      have hinner : Expr.read (inner.encode .compact) = some inner :=
        h _ (List.mem_singleton_self _)
      simp [Read.only_members, hinner, -Option.elim_map]
  -- all other members are parts of the node, flags and words
  all_goals
    simp only [parts, List.forall_mem_cons, Node.readsBack_expr, Node.readsBack_query] at h
    simp [Read.only_members, h]

theorem Table.readsBack_of_parts {table : Table}
    (h : ∀ part ∈ (Node.table table).parts, part.ReadsBack) : (Node.table table).ReadsBack := by
  obtain ⟨source, label, joins⟩ := table
  rw [Node.parts, List.forall_mem_append] at h
  obtain ⟨hjoins, hsource⟩ := h
  have hitems := Items.read_write Join.single_encode fun join hjoin =>
    Join.read_encode (List.forall_mem_flatMap.mp hjoins join hjoin)
  rw [Node.readsBack_table, read, encode, Style.membersOf?_object, Join.encodeItems_eq]
  cases source with
  | name name => simp [Source.encode, Read.only_members, hitems, -Option.elim_map]
  | derived query =>
      have hquery : Query.read (query.encode .compact) = some query :=
        hsource _ (List.mem_singleton_self _)
      simp [Source.encode, Read.only_members, hitems, hquery, -Option.elim_map]

section Members

variable {members : Entries Datum} {key : String}

theorem Group.read_member {group : Group} (h : ∀ part ∈ group.parts, part.ReadsBack)
    (hmember : Entries.get? members key = group.encode .compact) :
    (Read.withDefault members key .absent fun value hsize =>
      match value, hsize with
      | .null, _ => some .absent
      | .text given, _ => some (.name given)
      | value, _ => (Grouping.read value).map Group.by) = some group := by
  cases group with
  | absent => rw [Read.withDefault_of_none (hmember.trans (by rw [encode]))]
  | name given => rw [Read.withDefault_of_some (hmember.trans (by rw [encode]))]
  | «by» grouping =>
      have hread := Grouping.read_encode h
      obtain ⟨terms, having⟩ := grouping
      rw [Grouping.encode] at hread
      rw [Read.withDefault_of_some (hmember.trans (by rw [encode, Grouping.encode]))]
      exact congrArg (Option.map Group.by) hread

theorem Limit.read_encode {limit : Limit} {value : Datum}
    (h : ∀ part ∈ limit.parts, part.ReadsBack) (hvalue : limit.encode .compact = some value) :
    (if value.isNull then some .absent
      else
        match value.toInt? with
        | some count => some (.rows count)
        | none => (Window.read value).map Limit.window) = some limit := by
  cases limit with
  | absent => rw [encode] at hvalue; cases hvalue
  | rows count => rw [encode] at hvalue; cases hvalue; rfl
  | window given =>
      have hread := Window.read_encode h
      obtain ⟨limit, offset⟩ := given
      rw [Window.encode] at hread
      rw [encode, Window.encode] at hvalue
      cases hvalue
      exact congrArg (Option.map Limit.window) hread

theorem Limit.read_member {limit : Limit} (h : ∀ part ∈ limit.parts, part.ReadsBack)
    (hmember : Entries.get? members key = limit.encode .compact) :
    (Read.withDefault members key .absent fun value _ =>
      if value.isNull then some .absent
      else
        match value.toInt? with
        | some count => some (.rows count)
        | none => (Window.read value).map Limit.window) = some limit := by
  cases hvalue : limit.encode .compact with
  | none =>
      rw [Read.withDefault_of_none (hmember.trans hvalue)]
      cases limit <;> simp_all [encode]
  | some value => rw [Read.withDefault_of_some (hmember.trans hvalue), read_encode h hvalue]

theorem Query.read_union {union : Option Query}
    (h : ∀ part ∈ union.toList.map Node.query, part.ReadsBack)
    (hmember : Entries.get? members key = encodeOption .compact union) :
    (Read.optional members key fun value _ => Query.read value) = some union := by
  cases union with
  | none => rw [Read.optional_eq, hmember, encodeOption, Option.elim_none]
  | some query =>
      have hquery : Query.read (query.encode .compact) = some query :=
        h _ (List.mem_singleton_self _)
      rw [Read.optional_eq, hmember, encodeOption, Option.elim_some, isNull_encode, hquery]
      rfl

end Members

theorem Query.readsBack_of_parts {query : Query}
    (h : ∀ part ∈ (Node.query query).parts, part.ReadsBack) : (Node.query query).ReadsBack := by
  obtain ⟨distinct, select, tables, filter, group, order, limit, union⟩ := query
  simp only [Node.parts, Node.scanned, Node.unscanned, clauseParts, tailParts,
    List.forall_mem_append] at h
  obtain ⟨⟨⟨⟨⟨hselect, htables⟩, hfilter⟩, hgroup⟩, horder⟩, hlimit, hunion⟩ := h
  have hselect := Clause.read_write ResultColumn.single_encode fun column hcolumn =>
    ResultColumn.read_encode (List.forall_mem_map.mp hselect column hcolumn)
  have htables := NamedClause.read_write Table.unnamed_encode (List.forall_mem_map.mp htables)
  have hfilter := Clause.read_write Expr.single_encode (List.forall_mem_map.mp hfilter)
  have horder := NamedClause.read_write OrderTerm.unnamed_encode fun term hterm =>
    OrderTerm.read_encode (List.forall_mem_map.mp horder term hterm)
  rw [Node.readsBack_query, read, encode, Style.membersOf?_object]
  simp only [Option.bind_eq_bind, Option.bind_some, ResultColumn.encodeClause_eq,
    Table.encodeClause_eq, Expr.encodeClause_eq, OrderTerm.encodeClause_eq, Style.fromKey]
  -- the tables are looked for under either spelling, and are under the first if they are there
  refine Read.andThen (Read.only_members (by simp +contextual [Read.spelling_of_isSome])) ?_
  refine Read.andThen (show Read.flag _ "distinct" = some distinct by simp) ?_
  refine Read.andThen (by simpa using hselect) ?_
  refine Read.andThen (by simpa [Read.get?_spelling] using htables) ?_
  refine Read.andThen (by simpa using hfilter) ?_
  refine Read.andThen (Group.read_member hgroup (by simp)) ?_
  refine Read.andThen (by simpa using horder) ?_
  refine Read.andThen (Limit.read_member hlimit (by simp)) ?_
  exact Read.andThen (Query.read_union hunion (by simp)) rfl

/-- Every tree is what is read from its own encoding. -/
theorem Node.readsBack (node : Node) : node.ReadsBack := by
  induction node using Node.induct with
  | step node ih =>
      cases node with
      | expr expression =>
          rw [parts_expr] at ih
          exact Expr.readsBack_of_parts ih
      | table given => exact Table.readsBack_of_parts ih
      | query given => exact Query.readsBack_of_parts ih

theorem Expr.read_encode (expression : Expr) :
    Expr.read (expression.encode .compact) = some expression :=
  (Node.expr expression).readsBack

theorem Query.read_encode (query : Query) : Query.read (query.encode .compact) = some query :=
  (Node.query query).readsBack

end QueryWeave

import QueryWeave.Proofs.Tree.Scan

namespace QueryWeave

universe u v w

/-- Deals a supply over a list; an item takes as much as it holds. -/
def deal {α : Type u} {β : Type v} (put : α → Supply → β) (held : α → List Datum) :
    List α → Supply → List β
  | [], _ => []
  | item :: rest, supply =>
      put item supply :: deal put held rest (supply.drop (held item).length)

/-- What is held, with a supply put onto it. -/
def Supply.onto (supply : Supply) (held : List Datum) : List Datum :=
  supply.take held.length ++ held.drop supply.length

section Deal

variable {α : Type u} {β : Type v} {γ : Type w} {put : α → Supply → β} {held : α → List Datum}

@[simp] theorem deal_nil (supply : Supply) : deal put held [] supply = [] := rfl

@[simp] theorem deal_cons (item : α) (rest : List α) (supply : Supply) :
    deal put held (item :: rest) supply =
      put item supply :: deal put held rest (supply.drop (held item).length) := rfl

theorem eq_deal_of_cons {go : List α → Supply → List β} (hnil : ∀ supply, go [] supply = [])
    (hcons : ∀ item rest supply,
      go (item :: rest) supply = put item supply :: go rest (supply.drop (held item).length))
    (items : List α) (supply : Supply) : go items supply = deal put held items supply := by
  induction items generalizing supply with
  | nil => exact hnil supply
  | cons item rest ih => rw [hcons, ih, deal_cons]

theorem deal_append (first second : List α) (supply : Supply) :
    deal put held (first ++ second) supply =
      deal put held first supply ++
        deal put held second (supply.drop (first.flatMap held).length) := by
  induction first generalizing supply with
  | nil => rfl
  | cons item rest ih =>
      rw [List.cons_append, deal_cons, ih, deal_cons, List.cons_append, List.drop_drop,
        List.flatMap_cons, List.length_append]

theorem map_deal (f : β → γ) (items : List α) (supply : Supply) :
    (deal put held items supply).map f =
      deal (fun item supply => f (put item supply)) held items supply := by
  induction items generalizing supply with
  | nil => rfl
  | cons item rest ih => rw [deal_cons, List.map_cons, ih, deal_cons]

theorem deal_map (f : γ → α) (items : List γ) (supply : Supply) :
    deal put held (items.map f) supply =
      deal (fun item => put (f item)) (fun item => held (f item)) items supply := by
  induction items generalizing supply with
  | nil => rfl
  | cons item rest ih => rw [List.map_cons, deal_cons, ih, deal_cons]

/-- What is the same for every share does not depend on the supply. -/
theorem flatMap_deal {view : β → List γ} {own : α → List γ} {items : List α}
    (h : ∀ item ∈ items, ∀ supply, view (put item supply) = own item) (supply : Supply) :
    (deal put held items supply).flatMap view = items.flatMap own := by
  induction items generalizing supply with
  | nil => rfl
  | cons item rest ih =>
      rw [deal_cons, List.flatMap_cons, List.flatMap_cons, h item List.mem_cons_self,
        ih fun other hmem => h other (List.mem_cons_of_mem _ hmem)]

theorem map_deal_eq {f : β → γ} {own : α → γ} {items : List α}
    (h : ∀ item ∈ items, ∀ supply, f (put item supply) = own item) (supply : Supply) :
    (deal put held items supply).map f = items.map own := by
  induction items generalizing supply with
  | nil => rfl
  | cons item rest ih =>
      rw [deal_cons, List.map_cons, List.map_cons, h item List.mem_cons_self,
        ih fun other hmem => h other (List.mem_cons_of_mem _ hmem)]

/-- Dealing over groups of parts deals over all the parts. -/
theorem flatMap_deal_eq_deal {δ : Type w} {parts : α → List γ} {filled : β → List δ}
    {putPart : γ → Supply → δ} {heldPart : γ → List Datum}
    (hput : ∀ item supply,
      filled (put item supply) = deal putPart heldPart (parts item) supply)
    (hheld : ∀ item, held item = (parts item).flatMap heldPart)
    (items : List α) (supply : Supply) :
    (deal put held items supply).flatMap filled =
      deal putPart heldPart (items.flatMap parts) supply := by
  induction items generalizing supply with
  | nil => rfl
  | cons item rest ih =>
      rw [deal_cons, List.flatMap_cons, hput, ih, List.flatMap_cons, deal_append, ← hheld]

@[simp] theorem Supply.onto_nil (supply : Supply) : supply.onto [] = [] := by
  rw [onto, List.length_nil, List.take_zero, List.drop_nil, List.append_nil]

theorem Supply.length_onto (supply : Supply) (held : List Datum) :
    (supply.onto held).length = held.length := by
  rw [onto, List.length_append, List.length_take, List.length_drop]
  omega

theorem Supply.onto_of_length_eq {supply : Supply} {held : List Datum}
    (h : supply.length = held.length) : supply.onto held = supply := by
  rw [onto, ← h, List.take_length, h, List.drop_length, List.append_nil]

theorem Supply.onto_append (supply : Supply) (first second : List Datum) :
    supply.onto (first ++ second) =
      supply.onto first ++ Supply.onto (supply.drop first.length) second := by
  rcases Nat.le_total supply.length first.length with h | h
  · have hdrop : supply.drop first.length = [] := List.drop_eq_nil_of_le h
    simp [onto, hdrop, List.take_of_length_le, h, Nat.le_add_right_of_le h,
      List.drop_append_of_le_length h]
  · have hfirst : first.drop supply.length = [] := List.drop_eq_nil_of_le h
    simp [onto, hfirst, List.take_add, List.drop_append]

theorem Supply.onto_flatMap {items : List α} {view : β → List Datum}
    (h : ∀ item ∈ items, ∀ supply, view (put item supply) = supply.onto (held item))
    (supply : Supply) :
    (deal put held items supply).flatMap view = supply.onto (items.flatMap held) := by
  induction items generalizing supply with
  | nil => exact (onto_nil supply).symm
  | cons item rest ih =>
      rw [deal_cons, List.flatMap_cons, h item List.mem_cons_self,
        ih fun other hmem => h other (List.mem_cons_of_mem _ hmem), List.flatMap_cons,
        onto_append]

end Deal

section Clauses

variable {α : Type u} {β : Type v} {γ : Type w}

def Items.deal (put : α → Supply → β) (held : α → List Datum) : Items α → Supply → Items β
  | .one item, supply => .one (put item supply)
  | .many items, supply => .many (QueryWeave.deal put held items supply)

def Clause.deal (put : α → Supply → β) (held : α → List Datum) : Clause α → Supply → Clause β
  | .absent, _ => .absent
  | .one item, supply => .one (put item supply)
  | .many items, supply => .many (QueryWeave.deal put held items supply)

def NamedClause.deal (put : α → Supply → β) (held : α → List Datum) :
    NamedClause α → Supply → NamedClause β
  | .absent, _ => .absent
  | .name given, _ => .name given
  | .one item, supply => .one (put item supply)
  | .many items, supply => .many (QueryWeave.deal put held items supply)

variable {put : α → Supply → β} {held : α → List Datum} {supply : Supply}

@[simp] theorem Items.toList_deal (items : Items α) :
    (items.deal put held supply).toList = QueryWeave.deal put held items.toList supply := by
  cases items <;> rfl

@[simp] theorem Clause.toList_deal (clause : Clause α) :
    (clause.deal put held supply).toList = QueryWeave.deal put held clause.toList supply := by
  cases clause <;> rfl

@[simp] theorem NamedClause.given_deal (clause : NamedClause α) :
    (clause.deal put held supply).given = QueryWeave.deal put held clause.given supply := by
  cases clause <;> rfl

variable {f : β → γ} {own : α → γ}

theorem Items.map_deal_eq {items : Items α}
    (h : ∀ item ∈ items.toList, ∀ supply, f (put item supply) = own item) :
    (items.deal put held supply).map f = items.map own := by
  cases items with
  | one item => exact congrArg one (h item (List.mem_singleton.mpr rfl) supply)
  | many items => exact congrArg many (QueryWeave.map_deal_eq h supply)

theorem Clause.map_deal_eq {clause : Clause α}
    (h : ∀ item ∈ clause.toList, ∀ supply, f (put item supply) = own item) :
    (clause.deal put held supply).map f = clause.map own := by
  cases clause with
  | absent => rfl
  | one item => exact congrArg one (h item (List.mem_singleton.mpr rfl) supply)
  | many items => exact congrArg many (QueryWeave.map_deal_eq h supply)

theorem NamedClause.map_deal_eq {clause : NamedClause α}
    (h : ∀ item ∈ clause.given, ∀ supply, f (put item supply) = own item) :
    (clause.deal put held supply).map f = clause.map own := by
  cases clause with
  | absent => rfl
  | name given => rfl
  | one item => exact congrArg one (h item (List.mem_singleton.mpr rfl) supply)
  | many items => exact congrArg many (QueryWeave.map_deal_eq h supply)

end Clauses

def Branch.fill (branch : Branch) (supply : Supply) : Branch :=
  ⟨branch.guard.fill supply,
    branch.result.fill (supply.drop branch.guard.placeholders.length)⟩

section Filling

variable {supply : Supply}

@[simp] theorem Expr.fillAll_eq (expressions : List Expr) :
    Expr.fillAll expressions supply = deal Expr.fill Expr.placeholders expressions supply :=
  eq_deal_of_cons (fun _ => rfl) (fun _ _ _ => rfl) expressions supply

@[simp] theorem Expr.fillOption_eq (expression : Option Expr) :
    Expr.fillOption expression supply = expression.map fun held => held.fill supply := by
  cases expression <;> rfl

@[simp] theorem Expr.fillItems_eq (items : Items Expr) :
    Expr.fillItems items supply = items.deal Expr.fill Expr.placeholders supply := by
  cases items <;> simp [fillItems, Items.deal]

@[simp] theorem Expr.fillClause_eq (clause : Clause Expr) :
    Expr.fillClause clause supply = clause.deal Expr.fill Expr.placeholders supply := by
  cases clause <;> simp [fillClause, Clause.deal]

@[simp] theorem Branch.fillAll_eq (branches : List Branch) :
    Branch.fillAll branches supply = deal Branch.fill Branch.placeholders branches supply :=
  eq_deal_of_cons (fun _ => rfl) (fun ⟨_, _⟩ _ _ => rfl) branches supply

@[simp] theorem ResultColumn.fillAll_eq (columns : List ResultColumn) :
    ResultColumn.fillAll columns supply =
      deal ResultColumn.fill ResultColumn.placeholders columns supply :=
  eq_deal_of_cons (fun _ => rfl) (fun _ _ _ => rfl) columns supply

@[simp] theorem ResultColumn.fillClause_eq (clause : Clause ResultColumn) :
    ResultColumn.fillClause clause supply =
      clause.deal ResultColumn.fill ResultColumn.placeholders supply := by
  cases clause <;> simp [fillClause, Clause.deal]

@[simp] theorem Table.fillAll_eq (tables : List Table) :
    Table.fillAll tables supply = deal Table.fill Table.placeholders tables supply :=
  eq_deal_of_cons (fun _ => rfl) (fun _ _ _ => rfl) tables supply

@[simp] theorem Table.fillClause_eq (clause : NamedClause Table) :
    Table.fillClause clause supply = clause.deal Table.fill Table.placeholders supply := by
  cases clause <;> simp [fillClause, NamedClause.deal]

@[simp] theorem Join.fillAll_eq (joins : List Join) :
    Join.fillAll joins supply = deal Join.fill Join.placeholders joins supply :=
  eq_deal_of_cons (fun _ => rfl) (fun _ _ _ => rfl) joins supply

@[simp] theorem Join.fillItems_eq (items : Items Join) :
    Join.fillItems items supply = items.deal Join.fill Join.placeholders supply := by
  cases items <;> simp [fillItems, Items.deal]

@[simp] theorem OrderTerm.fillAll_eq (terms : List OrderTerm) :
    OrderTerm.fillAll terms supply =
      deal OrderTerm.fill OrderTerm.placeholders terms supply :=
  eq_deal_of_cons (fun _ => rfl) (fun _ _ _ => rfl) terms supply

@[simp] theorem OrderTerm.fillClause_eq (clause : NamedClause OrderTerm) :
    OrderTerm.fillClause clause supply =
      clause.deal OrderTerm.fill OrderTerm.placeholders supply := by
  cases clause <;> simp [fillClause, NamedClause.deal]

end Filling

namespace Node

def fill : Node → Supply → Node
  | expr expression, supply => .expr (expression.fill supply)
  | table given, supply => .table (given.fill supply)
  | query given, supply => .query (given.fill supply)

end Node

/-! A filled node has filled parts, and the parts that are not scanned stay. -/

theorem Branch.parts_fill (branch : Branch) (supply : Supply) :
    (branch.fill supply).parts = deal Node.fill Node.placeholders branch.parts supply := by
  simp [fill, parts, Node.fill, Node.placeholders]

theorem deal_map_expr (expressions : List Expr) (supply : Supply) :
    deal Node.fill Node.placeholders (expressions.map .expr) supply =
      (deal Expr.fill Expr.placeholders expressions supply).map .expr := by
  rw [deal_map, map_deal]
  rfl

theorem Expr.parts_fill (expression : Expr) (supply : Supply) :
    (expression.fill supply).parts =
      deal Node.fill Node.placeholders expression.parts supply := by
  cases expression with
  | placeholder held => cases supply <;> rfl
  | branching branches otherwise =>
      have hbranches := flatMap_deal_eq_deal Branch.parts_fill Branch.placeholders_eq_parts
        branches supply
      have hlength : (branches.flatMap Branch.parts).flatMap Node.placeholders =
          branches.flatMap Branch.placeholders := by
        rw [List.flatMap_assoc, ← funext Branch.placeholders_eq_parts]
      cases otherwise <;> simp [fill, parts, deal_append, hbranches, hlength, Node.fill]
  | _ => simp [fill, parts, Node.fill, Node.placeholders, deal_map_expr]

theorem Join.parts_fill (join : Join) (supply : Supply) :
    (join.fill supply).parts = deal Node.fill Node.placeholders join.parts supply := by
  obtain ⟨kind, target, conditions⟩ := join
  cases target <;>
    simp [fill, JoinTarget.fill, JoinTarget.placeholders, parts, JoinTarget.parts, deal_map_expr,
      Node.fill, Node.placeholders]

theorem Group.parts_fill (group : Group) (supply : Supply) :
    (group.fill supply).parts = deal Node.fill Node.placeholders group.parts supply := by
  cases group with
  | absent => rfl
  | name given => rfl
  | «by» grouping =>
      obtain ⟨terms, having⟩ := grouping
      simp [fill, Grouping.fill, parts, Grouping.parts, Grouping.termList, Grouping.havingList,
        deal_append, deal_map_expr, List.flatMap_map, Node.placeholders]

theorem Table.scanned_fill (table : Table) (supply : Supply) :
    (Node.table (table.fill supply)).scanned =
      deal Node.fill Node.placeholders (Node.table table).scanned supply := by
  obtain ⟨source, label, joins⟩ := table
  simp [fill, Node.scanned, joinList,
    flatMap_deal_eq_deal Join.parts_fill Join.placeholders_eq_parts]

section Columns

variable (supply : Supply)

theorem ResultColumn.placeholders_eq :
    ResultColumn.placeholders = fun column => Node.placeholders (.expr column.expression) :=
  funext fun ⟨_, _⟩ => rfl

theorem OrderTerm.placeholders_eq :
    OrderTerm.placeholders = fun term => Node.placeholders (.expr term.expression) :=
  funext fun ⟨_, _⟩ => rfl

theorem ResultColumn.expressions_fill (columns : List ResultColumn) :
    (deal ResultColumn.fill ResultColumn.placeholders columns supply).map
        (fun column => Node.expr column.expression) =
      deal Node.fill Node.placeholders
        (columns.map fun column => Node.expr column.expression) supply := by
  have hfill : (fun column supply => Node.expr (ResultColumn.fill column supply).expression) =
      fun column => Node.fill (.expr column.expression) :=
    funext fun ⟨_, _⟩ => rfl
  rw [map_deal, deal_map, hfill, placeholders_eq]

theorem OrderTerm.expressions_fill (terms : List OrderTerm) :
    (deal OrderTerm.fill OrderTerm.placeholders terms supply).map
        (fun term => Node.expr term.expression) =
      deal Node.fill Node.placeholders (terms.map fun term => Node.expr term.expression)
        supply := by
  have hfill : (fun term supply => Node.expr (OrderTerm.fill term supply).expression) =
      fun term => Node.fill (.expr term.expression) :=
    funext fun ⟨_, _⟩ => rfl
  rw [map_deal, deal_map, hfill, placeholders_eq]

end Columns

theorem Query.clauseParts_fill (query : Query) (supply : Supply) :
    (query.fill supply).clauseParts =
      deal Node.fill Node.placeholders query.clauseParts supply := by
  obtain ⟨distinct, select, tables, filter, group, order, limit, union⟩ := query
  have htables (supply : Supply) :
      (deal Table.fill Table.placeholders tables.given supply).map Node.table =
        deal Node.fill Node.placeholders (tables.given.map .table) supply := by
    rw [map_deal, deal_map]
    rfl
  simp only [clauseParts, selectList, filterList, fill, deal_append, ResultColumn.fillClause_eq,
    Table.fillClause_eq, Expr.fillClause_eq, OrderTerm.fillClause_eq, Clause.toList_deal,
    NamedClause.given_deal, ResultColumn.expressions_fill, OrderTerm.expressions_fill, htables,
    ← deal_map_expr, Group.parts_fill]
  simp only [ResultColumn.placeholdersClause_eq, Table.placeholdersClause_eq,
    Expr.placeholdersClause_eq, Group.placeholders_eq_parts, List.flatMap_append,
    List.flatMap_map, ResultColumn.placeholders_eq]
  rfl

namespace Node

theorem scanned_fill (node : Node) (supply : Supply) :
    (node.fill supply).scanned = deal fill placeholders node.scanned supply := by
  cases node with
  | expr expression => exact expression.parts_fill supply
  | table given => exact given.scanned_fill supply
  | query given => exact given.clauseParts_fill supply

theorem unscanned_fill (node : Node) (supply : Supply) :
    (node.fill supply).unscanned = node.unscanned := by
  match node with
  | expr _ => rfl
  | table ⟨_, _, _⟩ => rfl
  | query ⟨_, _, _, _, _, _, _, _⟩ => rfl

theorem held?_fill (node : Node) (supply : Supply) :
    (node.fill supply).held?.toList = supply.onto node.held?.toList := by
  unfold held?
  cases node with
  | expr expression =>
      cases expression with
      | placeholder held => cases supply <;> simp [fill, Expr.fill, Supply.onto]
      | _ => simp [fill, Expr.fill, Supply.onto]
  | table given => simp [fill, Supply.onto]
  | query given => simp [fill, Supply.onto]

theorem scanned_of_held? {node : Node} {held : Datum} (h : node.held? = some held) :
    node.scanned = [] := by
  unfold held? at h
  split at h
  next => rfl
  next => cases h

/-- The placeholders of a filled node hold the supply, and past its end what they held. -/
theorem placeholders_fill (node : Node) (supply : Supply) :
    (node.fill supply).placeholders = supply.onto node.placeholders := by
  induction node using Node.induct generalizing supply with
  | step node ih =>
      rw [placeholders_eq, scanned_fill, held?_fill, placeholders_eq node]
      -- Either the node is a placeholder and has no parts, or only its parts hold something.
      cases hheld : node.held? with
      | none =>
          rw [Option.toList_none, Supply.onto_nil, List.nil_append, List.nil_append]
          exact Supply.onto_flatMap
            (fun part hpart => ih part (node.scanned_subset_parts hpart)) supply
      | some held =>
          rw [scanned_of_held? hheld, deal_nil, List.flatMap_nil, List.append_nil,
            List.append_nil]

/-- Filling leaves alone what a scan leaves aside. -/
theorem aside_fill (node : Node) (supply : Supply) : (node.fill supply).aside = node.aside := by
  induction node using Node.induct generalizing supply with
  | step node ih =>
      rw [aside_eq, unscanned_fill, scanned_fill,
        flatMap_deal fun part hpart => ih part (node.scanned_subset_parts hpart), ← aside_eq]

end Node

end QueryWeave

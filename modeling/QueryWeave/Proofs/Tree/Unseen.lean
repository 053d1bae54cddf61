import QueryWeave.Proofs.Tree.Fill

/-!
What a scan misses.  Main statement: `Query.scan_complete_iff`, a scan finds every placeholder once
exactly if the derived tables, limits and unions it comes by hold none, and binding reaches what the
scan finds and nothing else.
-/

namespace QueryWeave

namespace Query

/-- A scan finds, in order, what it comes to; with what is held by the parts it leaves aside that is
everything, each once.  Filling binds what the scan finds and leaves those parts as they are. -/
theorem scan_complete_iff (query : Query) :
    query.placeholders = (Node.query query).seen.filterMap Node.held? ∧
      (Node.query query).held.Perm
        (query.placeholders ++ (Node.query query).aside.flatMap Node.held) ∧
      (query.placeholders.Perm (Node.query query).held ↔
        ∀ part ∈ (Node.query query).aside, part.held = []) ∧
      ∀ supply : Supply,
        (query.fill supply).placeholders =
            supply.take query.placeholders.length ++ query.placeholders.drop supply.length ∧
          (Node.query (query.fill supply)).aside = (Node.query query).aside :=
  ⟨(Node.query query).placeholders_eq_seen, (Node.query query).held_perm,
    (Node.query query).placeholders_perm_held_iff, fun supply =>
      ⟨(Node.query query).placeholders_fill supply, (Node.query query).aside_fill supply⟩⟩

/-- A query that asks for what a placeholder holds. -/
def asking (held : Datum) : Query :=
  { empty with filter := .one (.compare (.named "id") .equal (.placeholder held)) }

/-- Queries with a placeholder in a derived table, in a joined one, in a limit, in an offset and in
a union. -/
def outOfReach (held : Datum) : List Query :=
  [{ empty with tables := .one ⟨.derived (asking held), some "asked", .many []⟩ },
    { empty with
      tables := .one ⟨.name "items", none,
        .one ⟨.inner, .table ⟨.derived (asking held), some "asked", .many []⟩, .absent⟩⟩ },
    { empty with limit := .window ⟨.computed (.placeholder held), none⟩ },
    { empty with limit := .window ⟨.rows 10, some (.computed (.placeholder held))⟩ },
    { empty with union := some (asking held) }]

theorem outOfReach_unbound :
    (outOfReach (.text "lost")).map (fun query => (Node.query query).held) =
        .replicate 5 [.text "lost"] ∧
      (outOfReach (.text "lost")).map placeholders = .replicate 5 [] ∧
        (outOfReach (.text "lost")).map (fill · [.text "found"]) = outOfReach (.text "lost") := by
  refine ⟨?_, rfl, rfl⟩
  simp [outOfReach, Node.held_eq, Node.held?, Node.parts, Node.scanned, Node.unscanned, asking,
    empty, clauseParts, tailParts, selectList, filterList, NamedClause.given, Table.joinList,
    Source.parts, Join.parts, JoinTarget.parts, Group.parts, Limit.parts, Window.parts, Bound.parts,
    Expr.parts, Expr.named]

end Query

end QueryWeave

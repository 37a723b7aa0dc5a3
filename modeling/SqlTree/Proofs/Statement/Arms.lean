import SqlTree.Proofs.Statement.Detection
import SqlTree.Proofs.Traverse.Search

/-!
# The arms of a set operation

A walker knows nodes by their tags. A set operation stores the records of its operands, and these
carry no tag. So a walk through a combined SELECT goes through both arms and reports the nodes
inside them, but not the arms: the kinds of the nodes are those inside the two records, after the
one kind of the whole. Each of the two operands has a node more than its record, and so the
combination, for all that it adds a statement, has one statement less than its operands together.
-/

namespace SqlTree.Select

variable {left right : Select}

theorem toNode_eq {select : Select} (named : select.query.kind = some "SelectStmt") :
    select.query.toNode = .node "SelectStmt" select.query.record := by
  rw [Query.toNode, named]

theorem armRecord_node (record : Tree) : armRecord (.node "SelectStmt" record) = record := by
  rw [armRecord, Tree.recordOf?, Tree.tagged?_node (by decide)]
  rfl

/--
Between the kind of the whole and the kinds inside the arms there is none for the arms. Apart from
the arms, the record of a set operation holds words and a flag only.
-/
theorem kinds_combine (leftNamed : left.query.kind = some "SelectStmt")
    (rightNamed : right.query.kind = some "SelectStmt") (operation : SetOperation) (all : Bool) :
    (left.combine operation all right.query.toNode).query.toNode.kinds =
      "SelectStmt" :: (left.query.record.kinds ++ right.query.record.kinds) := by
  have combinedNamed : (left.combine operation all right.query.toNode).query.kind =
      some "SelectStmt" := leftNamed
  rw [toNode_eq combinedNamed, toNode_eq rightNamed, Tree.kinds_node (by decide)]
  have word (text : String) : (Tree.text text).kinds = [] := Tree.kinds_of_scalar rfl
  have flag : (Tree.bool true).kinds = [] := Tree.kinds_of_scalar rfl
  cases all <;> simp [combine, armRecord_node, Query.withRecord, Tree.parts, word, flag]

/--
A set operation is one statement more than the records of its operands have inside, whatever the
operation is, so the arms themselves are not found. If neither record looks like a node, this is one
statement less than the two operands have.
-/
theorem combine_hides_arms (left right : Select) (operation : SetOperation) (all : Bool)
    (leftNamed : left.query.kind = some "SelectStmt")
    (rightNamed : right.query.kind = some "SelectStmt") :
    let combined := (left.combine operation all right.query.toNode).query.toNode
    combined.kinds = "SelectStmt" :: (left.query.record.kinds ++ right.query.record.kinds) ∧
    combined.count "SelectStmt" none =
      left.query.record.count "SelectStmt" none + right.query.record.count "SelectStmt" none + 1 ∧
    (left.query.record.tagged? = none → right.query.record.tagged? = none →
      combined.count "SelectStmt" none + 1 =
        left.query.toNode.count "SelectStmt" none +
          right.query.toNode.count "SelectStmt" none) := by
  have kinds := kinds_combine leftNamed rightNamed operation all
  have own {select : Select} (named : select.query.kind = some "SelectStmt")
      (untagged : select.query.record.tagged? = none) :
      select.query.toNode.kinds = "SelectStmt" :: select.query.record.kinds := by
    rw [toNode_eq named, Tree.kinds_node (by decide), Tree.kinds_of_untagged untagged]
  refine ⟨kinds, ?_, ?_⟩
  · simp [Tree.count_eq_count_kinds, kinds]
  · intro leftUntagged rightUntagged
    simp only [Tree.count_eq_count_kinds, kinds, own leftNamed leftUntagged,
      own rightNamed rightUntagged, List.count_cons_self, List.count_append]
    omega

/-- A statement in the making has its own kind, and its record is no node. -/
theorem named_and_untagged_of_reached {select : Select}
    (reached : Builder.Reached (.select select)) :
    select.query.kind = some "SelectStmt" ∧ select.query.record.tagged? = none := by
  rcases reached.shaped with ⟨kind, same, shaped⟩
  cases same
  exact ⟨shaped.kindName, shaped.tagged?_eq_none⟩

def identifiersOf (table : String) : Select := (start [.text "id"]).fromTable (.named table)

theorem identifiersOf_reached (table : String) :
    Builder.Reached (.select (identifiersOf table)) :=
  .step (.select [.text "id"]) (.select (.fromTable (.named table)) rfl)

/-- Of the five statements in a combination of three tables, one is found. -/
theorem three_tables_hide_arms :
    let pair := (identifiersOf "orders").combine .union true (identifiersOf "archive").query.toNode
    let single := identifiersOf "exports"
    Builder.Reached (.select pair) ∧ Builder.Reached (.select single) ∧
      pair.query.toNode.count "SelectStmt" none = 1 ∧
      single.query.toNode.count "SelectStmt" none = 1 ∧
      (pair.combine .except false single.query.toNode).query.toNode.count "SelectStmt" none =
        1 := by
  intro pair single
  have pairReached : Builder.Reached (.select pair) :=
    .combine .union true _ (identifiersOf_reached "orders")
  have singleReached := identifiersOf_reached "exports"
  rcases named_and_untagged_of_reached pairReached with ⟨pairNamed, pairUntagged⟩
  rcases named_and_untagged_of_reached singleReached with ⟨singleNamed, singleUntagged⟩
  have inPair : pair.query.toNode.count "SelectStmt" none = 1 := by decide +kernel
  have inSingle : single.query.toNode.count "SelectStmt" none = 1 := by decide +kernel
  have hidden := (combine_hides_arms pair single .except false pairNamed singleNamed).2.2
    pairUntagged singleUntagged
  rw [inPair, inSingle] at hidden
  exact ⟨pairReached, singleReached, inPair, inSingle, Nat.succ.inj hidden⟩

/-- The count that would include both arms is not reached by the union of two tables. -/
theorem union_of_tables_misses_arms :
    let orders := identifiersOf "orders"
    let archive := identifiersOf "archive"
    let combined := orders.combine .union false archive.query.toNode
    Builder.Reached (.select orders) ∧ Builder.Reached (.select archive) ∧
      combined.query.toNode.count "SelectStmt" none ≠
        orders.query.toNode.count "SelectStmt" none +
          archive.query.toNode.count "SelectStmt" none + 1 :=
  ⟨identifiersOf_reached "orders", identifiersOf_reached "archive", by decide +kernel⟩

end SqlTree.Select

import Mathlib.Data.List.Forall2
import SqlTree.Proofs.Print.Nodes
import SqlTree.Proofs.Print.Pieces
import SqlTree.Proofs.Statement.Writes
import SqlTree.Statement.Select

/-!
# Chains of joins

A join takes the last item of FROM as its left arm, so a chain of joins grows a tree at its root.
`LeftDeep` says what the tree of a chain is: one level for each join, the last join outermost. The
printer goes down the left arms and comes back to the root, and so the text of the chain is in the
order of the calls.
-/

namespace SqlTree

/-- What stands between the two sides of a join in the text. -/
def JoinType.keyword (type : JoinType) (conditional : Bool) : String :=
  match type with
  | .inner => if conditional then "JOIN" else "CROSS JOIN"
  | .left => "LEFT JOIN"
  | .right => "RIGHT JOIN"
  | .full => "FULL JOIN"

namespace Select

/-- A join as it is called. -/
structure Join where
  type : JoinType
  table : TableRef
  condition : Option Tree

/-- The joins one after another, up to the first one that fails. -/
def joinAll (select : Select) (joins : List Join) : Except Error Select :=
  joins.foldlM (fun current join => current.join join.type join.table join.condition) select

/-- The tree of a chain of joins, which hang on the first item one above the other. -/
inductive LeftDeep (first : Tree) : List Join → Tree → Prop
  | first : LeftDeep first [] first
  | level {joins : List Join} {left tree record : Tree} (join : Join)
      (below : LeftDeep first joins left) (kind : tree.recordOf? "JoinExpr" = some record)
      (type : record.textAt? "jointype" = some join.type.word)
      (leftArm : record.get? "larg" = some left)
      (rightArm : record.get? "rarg" = some join.table.item)
      (condition : record.get? "quals" = join.condition) : LeftDeep first (joins ++ [join]) tree

/-! ## Building -/

variable {select : Select} {front : List Tree} {first last tree : Tree} {joins : List Join}

theorem LeftDeep.joinNode (below : LeftDeep first joins tree) (join : Join) :
    LeftDeep first (joins ++ [join])
      (joinNode join.type tree join.table.item join.condition) := by
  rcases join with ⟨type, table, _ | condition⟩
  all_goals
    apply below.level
    · rw [Select.joinNode, Tree.recordOf?, Tree.tagged?_node (by decide)]
      rfl
    all_goals rfl

/-- A join puts its tree in the place of the last item. -/
theorem join_of_items (items : select.query.record.itemsAt "fromClause" = front ++ [last])
    (join : Join) :
    select.join join.type join.table join.condition =
      .ok ⟨select.query.set "fromClause" <| .list <|
        front ++ [joinNode join.type last join.table.item join.condition]⟩ := by
  simp [Select.join, items, Query.setList]

theorem join_of_no_items (items : select.query.record.itemsAt "fromClause" = []) (join : Join) :
    select.join join.type join.table join.condition = .error .nothingToJoin := by
  simp [Select.join, items]

/-- The items of FROM are those that were written last. -/
theorem itemsAt_set (query : Query) (items : List Tree) :
    (query.set "fromClause" (.list items)).record.itemsAt "fromClause" = items := by
  simp [Query.set, Query.withRecord, Tree.itemsAt, Tree.get?_set]

/-- The run: each join puts one more level on the tree that the last item has become. -/
theorem joinAll_of_items (select : Select) {done : List Join} (below : LeftDeep first done last)
    (items : select.query.record.itemsAt "fromClause" = front ++ [last]) (joins : List Join) :
    ∃ tree, LeftDeep first (done ++ joins) tree ∧
      select.joinAll joins = .ok ⟨select.query.set "fromClause" (.list (front ++ [tree]))⟩ := by
  induction joins generalizing select done last with
  | nil =>
      have present : select.query.record.itemsAt "fromClause" ≠ [] := by simp [items]
      have unchanged := Query.setList_itemsAt present
      rw [items, Query.setList, if_neg (by simp)] at unchanged
      refine ⟨last, by simpa using below, ?_⟩
      rw [unchanged]
      rfl
  | cons join rest ih =>
      let level := Select.joinNode join.type last join.table.item join.condition
      let next : Select := ⟨select.query.set "fromClause" (.list (front ++ [level]))⟩
      have place : next.query.record.itemsAt "fromClause" = front ++ [level] := itemsAt_set _ _
      rcases ih next (below.joinNode join) place with ⟨tree, deep, joined⟩
      refine ⟨tree, by simpa using deep, ?_⟩
      have replaced := Query.set_set select.query "fromClause" (.list (front ++ [level]))
        (.list (front ++ [tree]))
      calc select.joinAll (join :: rest) = next.joinAll rest := by
            rw [joinAll, List.foldlM_cons, join_of_items items]
            rfl
        _ = .ok ⟨select.query.set "fromClause" (.list (front ++ [tree]))⟩ := by
            rw [joined, replaced]

/-! ## Printing -/

/-- What a join adds to the text. -/
inductive Join.Prints (join : Join) : String → Prop
  | bare {item : String} (absent : join.condition = none)
      (right : Print.source join.table.item = .ok item) :
      Join.Prints join (" " ++ join.type.keyword false ++ " " ++ item)
  | on {condition : Tree} {item text : String} (present : join.condition = some condition)
      (right : Print.source join.table.item = .ok item)
      (holds : Print.expression condition = .ok text) :
      Join.Prints join (" " ++ join.type.keyword true ++ " " ++ item ++ " ON " ++ text)

/-- The pieces of a join behind the text of its left arm. -/
def Join.print (join : Join) : Printed :=
  Print.concat
    [pure (" " ++ join.type.keyword join.condition.isSome ++ " "), Print.source join.table.item,
      Print.optionalClause "ON" join.condition Print.expression]

theorem Join.Prints.print_eq {join : Join} {piece : String} (prints : join.Prints piece) :
    join.print = .ok piece := by
  cases prints with
  | bare absent right =>
      simp [Join.print, Print.optionalClause, absent, right]
  | on present right holds =>
      simp [Join.print, Print.optionalClause, present, right, holds, String.append_assoc]

theorem map_print {joins : List Join} {pieces : List String}
    (prints : List.Forall₂ Join.Prints joins pieces) : joins.map Join.print = pieces.map .ok := by
  induction prints with
  | nil => rfl
  | cons first _ ih => rw [List.map_cons, List.map_cons, first.print_eq, ih]

theorem joinWords_eq {record : Tree} {type : JoinType}
    (word : record.textAt? "jointype" = some type.word) :
    Print.Printer.joinWords record = type.keyword (record.get? "quals").isSome := by
  unfold Print.Printer.joinWords
  rw [word]
  cases type <;> cases record.get? "quals" <;> rfl

/-- A chain prints its first item and then each join in the order of the calls. -/
theorem LeftDeep.source_eq (deep : LeftDeep first joins tree) :
    Print.source tree = Print.concat (Print.source first :: joins.map Join.print) := by
  induction deep with
  | first => exact (Print.concat_singleton _).symm
  | @level joins left tree record join below kind type leftArm rightArm condition ih =>
      have level : Print.source tree = Print.concat [Print.source left, join.print] := by
        rw [Print.source_eq, Print.Printer.sourceLevel, Tree.tagged?_of_recordOf? kind]
        change Print.printer.join record = _
        rw [Print.Printer.join_eq, joinWords_eq type, condition]
        simp only [Print.required, leftArm, rightArm]
        exact Print.concat_cons_concat _ _
      rw [level, ih, List.map_append, ← List.cons_append, Print.concat_append, List.map_singleton,
        Print.concat_singleton]

/-- If all parts can be printed, the text is the pieces of the joins behind the first item. -/
theorem LeftDeep.source_eq_ok (deep : LeftDeep first joins tree) {text : String}
    {pieces : List String} (start : Print.source first = .ok text)
    (prints : List.Forall₂ Join.Prints joins pieces) :
    Print.source tree = .ok (text ++ String.join pieces) := by
  rw [deep.source_eq, start, map_print prints, ← List.map_cons, Print.concat_map_ok,
    String.join_cons]

/-! ## Calls and texts -/

/--
Joins on a SELECT that has items in FROM never fail. They leave all items but the last one alone
and make that one the left-deep tree of the chain, whose text has the joins in the order of the
calls. Without items the first join fails.
-/
theorem joins_are_left_deep (select : Select) (joins : List Join) :
    (∀ front last, select.query.record.itemsAt "fromClause" = front ++ [last] →
      ∃ tree joined, select.joinAll joins = .ok joined ∧
        joined.query = select.query.set "fromClause" (.list (front ++ [tree])) ∧
        joined.query.record.itemsAt "fromClause" = front ++ [tree] ∧
        LeftDeep last joins tree ∧
        ∀ text pieces, Print.source last = .ok text → List.Forall₂ Join.Prints joins pieces →
          Print.source tree = .ok (text ++ String.join pieces)) ∧
    (select.query.record.itemsAt "fromClause" = [] → ∀ join later,
      select.joinAll (join :: later) = .error .nothingToJoin) := by
  constructor
  · intro front last items
    rcases select.joinAll_of_items .first items joins with ⟨tree, deep, joined⟩
    refine ⟨tree, _, joined, rfl, itemsAt_set _ _, deep, ?_⟩
    intro text pieces start prints
    exact LeftDeep.source_eq_ok deep start prints
  · intro none join later
    rw [joinAll, List.foldlM_cons, join_of_no_items none]
    rfl

/-- A join with a condition and one without, on the second of two items, and one on no item. -/
theorem outer_and_cross_join_are_left_deep :
    let select := ((start []).fromTable (.named "a")).fromTable (.named "s.b")
    let joins : List Join :=
      [⟨.left, .named "c", some (Node.column "c.id")⟩, ⟨.inner, .named "d", none⟩]
    (select.query.record.itemsAt "fromClause" = [Node.table "a"] ++ [Node.table "s.b"] ∧
      ∃ tree joined, select.joinAll joins = .ok joined ∧
        joined.query.record.itemsAt "fromClause" = [Node.table "a", tree] ∧
        Print.source tree = .ok "s.b LEFT JOIN c ON c.id CROSS JOIN d") ∧
    (start []).query.record.itemsAt "fromClause" = [] ∧
      (start []).joinAll joins = .error .nothingToJoin := by
  intro select joins
  have first := Join.Prints.on (show joins[0].condition = some (Node.column "c.id") from rfl)
    (Print.source_table "c") (Print.expression_column "c.id")
  have second := Join.Prints.bare (show joins[1].condition = none from rfl)
    (Print.source_table "d")
  refine ⟨⟨rfl, ?_⟩, rfl, (joins_are_left_deep (start []) joins).2 rfl _ _⟩
  rcases (joins_are_left_deep select joins).1 [Node.table "a"] (Node.table "s.b") rfl with
    ⟨tree, joined, succeeds, -, items, -, printed⟩
  exact ⟨tree, joined, succeeds, items,
    printed "s.b" _ (Print.source_table "s.b") (.cons first (.cons second .nil))⟩

end Select

end SqlTree

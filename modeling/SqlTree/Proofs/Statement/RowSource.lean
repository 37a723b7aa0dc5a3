import SqlTree.Proofs.Print.Nodes
import SqlTree.Proofs.Statement.Writes
import SqlTree.Statement.Builder

/-!
# Adding rows to an INSERT

The rows of an INSERT stand in an embedded SELECT. Adding a row reads the rows that are there and
puts a new SELECT around all of them. To the rows and to the INSERT this is the same as appending:
rows that are added one after another stand behind the old ones in their order, and no other field
of the INSERT changes.

The embedded SELECT is made anew, though, and has two fields besides its rows. A source that was
given as rows has just these two, so nothing is lost. A source that a parser reports may have more,
such as a limit or a WITH clause, and loses them. `HasOnlyRows` tells the sources that lose nothing.
-/

namespace SqlTree

namespace Insert

/-! ## The embedded SELECT -/

/-- What a SELECT that stands for rows only has under a name, its rows apart. -/
def plainClause (key : String) : Option Tree :=
  if key = "limitOption" then some (.text "LIMIT_OPTION_DEFAULT")
  else if key = "op" then some (.text "SETOP_NONE")
  else none

def HasOnlyRows (source : Tree) : Prop :=
  ∀ key, key ≠ "valuesLists" → source.get? key = plainClause key

/-- The record that is put around rows. -/
def rowSource (rows : List Tree) : Tree :=
  .object
    [("valuesLists", .list rows), ("limitOption", .text "LIMIT_OPTION_DEFAULT"),
      ("op", .text "SETOP_NONE")]

theorem get?_rowSource (rows : List Tree) (key : String) :
    (rowSource rows).get? key =
      if key = "valuesLists" then some (.list rows) else plainClause key := by
  simp only [rowSource, plainClause, Tree.get?_object, Fields.get?, eq_comm]

theorem hasOnlyRows_rowSource (rows : List Tree) : HasOnlyRows (rowSource rows) := by
  intro key other
  rw [get?_rowSource, if_neg other]

theorem withRows_eq_set (insert : Insert) (rows : List Tree) :
    insert.withRows rows = ⟨insert.query.set "selectStmt" (.node "SelectStmt" (rowSource rows))⟩ :=
  rfl

theorem get?_withRows (insert : Insert) (rows : List Tree) (key : String) :
    (insert.withRows rows).query.record.get? key =
      if "selectStmt" = key then some (.node "SelectStmt" (rowSource rows))
      else insert.query.record.get? key := by
  rw [withRows_eq_set]
  exact Tree.get?_set _ _ _ _

theorem rows_of_source {insert : Insert} {source : Tree}
    (embedded : insert.query.record.get? "selectStmt" = some (.node "SelectStmt" source)) :
    insert.rows = source.itemsAt "valuesLists" := by
  simp [rows, embedded, Tree.record?, Tree.tagged?_node (show isKindName "SelectStmt" by decide)]

theorem rows_withRows (insert : Insert) (rows : List Tree) :
    (insert.withRows rows).rows = rows := by
  have embedded := get?_withRows insert rows "selectStmt"
  rw [if_pos rfl] at embedded
  rw [rows_of_source embedded, Tree.itemsAt, get?_rowSource]
  rfl

/-- The second of two row sources replaces the first one where it stands. -/
theorem withRows_withRows (insert : Insert) (first second : List Tree) :
    (insert.withRows first).withRows second = insert.withRows second := by
  simp only [withRows_eq_set, Query.set_set]

/-! ## Adding rows one after another -/

/-- The run: rows that are added one after another are added at once. -/
theorem foldl_addValues (insert : Insert) (row : List Operand) (more : List (List Operand)) :
    (row :: more).foldl addValues insert =
      insert.withRows (insert.rows ++ (row :: more).map rowNode) := by
  induction more generalizing insert row with
  | nil => rfl
  | cons next others ih =>
      rw [List.foldl_cons, ih, addValues, rows_withRows, withRows_withRows]
      simp

/-! ## Sources that were given as rows -/

/-- An INSERT that was built without taking its rows from a query. -/
inductive GivenRows : Insert → Prop
  | start (table : TableRef) : GivenRows (start table)
  /-- One row replaces whatever source there was. -/
  | values (insert : Insert) (row : List Operand) : GivenRows (insert.values row)
  | addValues {insert : Insert} (row : List Operand) (given : GivenRows insert) :
      GivenRows (insert.addValues row)
  | columns {insert : Insert} (columns : List String) (given : GivenRows insert) :
      GivenRows (insert.columns columns)
  | mapColumns {insert : Insert} (change : List Tree → List Tree) (given : GivenRows insert) :
      GivenRows (insert.mapColumns change)
  | onConflict {insert : Insert} (clause : OnConflict) (given : GivenRows insert) :
      GivenRows (insert.onConflict clause)
  | returning {insert : Insert} (columns : List Operand) (given : GivenRows insert) :
      GivenRows (insert.returning columns)
  | mapReturning {insert : Insert} (change : List Tree → List Tree) (given : GivenRows insert) :
      GivenRows (insert.mapReturning change)

def SourceHasOnlyRows (insert : Insert) : Prop :=
  ∀ source, insert.query.record.get? "selectStmt" = some (.node "SelectStmt" source) →
    HasOnlyRows source

theorem sourceHasOnlyRows_withRows (insert : Insert) (rows : List Tree) :
    (insert.withRows rows).SourceHasOnlyRows := by
  intro source embedded
  rw [get?_withRows, if_pos rfl] at embedded
  cases embedded
  exact hasOnlyRows_rowSource rows

/-- The step: an update of other clauses does not reach the source. -/
theorem SourceHasOnlyRows.of_changedIn {clauses : List String} {before after : Insert}
    (only : before.SourceHasOnlyRows) (changed : Query.ChangedIn clauses before.query after.query)
    (other : "selectStmt" ∉ clauses) : after.SourceHasOnlyRows := by
  intro source embedded
  rw [changed.get?_of_not_mem other] at embedded
  exact only source embedded

/-- The run: whatever was built from rows has nothing else in its source. -/
theorem GivenRows.sourceHasOnlyRows {insert : Insert} (given : GivenRows insert) :
    insert.SourceHasOnlyRows := by
  induction given with
  | start table =>
      intro source embedded
      cases embedded
  | values insert row => exact sourceHasOnlyRows_withRows insert _
  | addValues row _ _ => exact sourceHasOnlyRows_withRows _ _
  | columns _ _ only =>
      exact only.of_changedIn (.append (List.mem_singleton_self "cols") _ _) (by decide)
  | mapColumns _ _ only =>
      exact only.of_changedIn (.mapList (List.mem_singleton_self "cols") _ _) (by decide)
  | onConflict _ _ only =>
      exact only.of_changedIn (.set (List.mem_singleton_self "onConflictClause") _ _) (by decide)
  | returning _ _ only =>
      exact only.of_changedIn (.append (List.mem_singleton_self "returningList") _ _) (by decide)
  | mapReturning _ _ only =>
      exact only.of_changedIn (.mapList (List.mem_singleton_self "returningList") _ _) (by decide)

/-! ## What is kept -/

theorem rowSource_agrees_iff (rows : List Tree) (source : Tree) :
    (∀ key, key ≠ "valuesLists" → (rowSource rows).get? key = source.get? key) ↔
      HasOnlyRows source := by
  constructor
  · intro agrees key other
    rw [← agrees key other]
    exact hasOnlyRows_rowSource rows key other
  · intro only key other
    rw [only key other]
    exact hasOnlyRows_rowSource rows key other

/--
Rows that are added one after another stand behind the old ones in their order, and no field of the
INSERT changes but its source. The source keeps its other fields exactly if it has none besides
those of a plain list of rows. A source that was built from rows is such a list.
-/
theorem addValues_appends_rows (insert : Insert) (row : List Operand)
    (more : List (List Operand)) :
    let added := (row :: more).map rowNode
    let extended := (row :: more).foldl addValues insert
    extended.rows = insert.rows ++ added ∧
    (∀ key, key ≠ "selectStmt" →
      extended.query.record.get? key = insert.query.record.get? key) ∧
    extended.query.kind = insert.query.kind ∧
    extended.query.parser = insert.query.parser ∧
    ∀ source, insert.query.record.get? "selectStmt" = some (.node "SelectStmt" source) →
      ∃ rebuilt,
        extended.query.record.get? "selectStmt" = some (.node "SelectStmt" rebuilt) ∧
        rebuilt.get? "valuesLists" = some (.list (source.itemsAt "valuesLists" ++ added)) ∧
        ((∀ key, key ≠ "valuesLists" → rebuilt.get? key = source.get? key) ↔
          HasOnlyRows source) ∧
        (GivenRows insert → HasOnlyRows source) := by
  intro added extended
  have run : extended = insert.withRows (insert.rows ++ added) := foldl_addValues insert row more
  rw [run]
  refine ⟨rows_withRows _ _, ?_, rfl, rfl, ?_⟩
  · intro key other
    rw [get?_withRows, if_neg other.symm]
  · intro source embedded
    rw [rows_of_source embedded, get?_withRows, if_pos rfl]
    refine ⟨_, rfl, ?_, rowSource_agrees_iff _ source, ?_⟩
    · rw [get?_rowSource, if_pos rfl]
    · intro given
      exact given.sourceHasOnlyRows source embedded

/-- Two readings, and two more that are added one by one. -/
theorem readings_extended :
    let readings := (((start (.named "readings")).values [.text "noon", .int 3]).addValues
      [.text "dusk", .null]).columns ["time", "level"]
    let extended := (readings.addValues [.text "night", .int 1]).addValues [.text "dawn", .int 5]
    GivenRows readings ∧
      extended.rows =
        [rowNode [.text "noon", .int 3], rowNode [.text "dusk", .null],
          rowNode [.text "night", .int 1], rowNode [.text "dawn", .int 5]] ∧
      extended.query.record.get? "cols" = readings.query.record.get? "cols" ∧
      ∃ source rebuilt,
        readings.query.record.get? "selectStmt" = some (.node "SelectStmt" source) ∧
        extended.query.record.get? "selectStmt" = some (.node "SelectStmt" rebuilt) ∧
        ∀ key, key ≠ "valuesLists" → rebuilt.get? key = source.get? key := by
  intro readings extended
  have given : GivenRows readings := .columns _ (.addValues _ (.values _ _))
  rcases addValues_appends_rows readings [.text "night", .int 1] [[.text "dawn", .int 5]] with
    ⟨appended, others, _, _, sources⟩
  rcases sources (rowSource readings.rows) rfl with ⟨rebuilt, embedded, _, kept, only⟩
  have agrees := kept.mpr (only given)
  exact ⟨given, appended, others "cols" (by decide), _, rebuilt, rfl, embedded, agrees⟩

/-- An INSERT of the first of two rows. -/
def firstOfTwo : Tree :=
  .node "InsertStmt" <| .object
    [("relation", (TableRef.named "readings").relation),
      ("selectStmt", .node "SelectStmt" <| .object
        [("valuesLists", .list [rowNode [.int 1], rowNode [.int 2]]),
          ("limitCount", Node.intConstant 1),
          ("limitOption", .text "LIMIT_OPTION_COUNT"),
          ("op", .text "SETOP_NONE")]),
      ("override", .text "OVERRIDING_NOT_SET")]

/-- The limit of a source is gone as soon as a row is added. -/
theorem limit_of_rows_lost :
    ∃ insert, Builder.ofTree firstOfTwo none = .insert insert ∧
      ∃ source rebuilt,
        insert.query.record.get? "selectStmt" = some (.node "SelectStmt" source) ∧
        source.itemsAt "valuesLists" ≠ [] ∧
        (insert.addValues [.int 3]).query.record.get? "selectStmt" =
          some (.node "SelectStmt" rebuilt) ∧
        rebuilt.get? "limitCount" ≠ source.get? "limitCount" := by
  refine ⟨_, rfl, _, _, rfl, ?_, rfl, ?_⟩
  · decide +kernel
  · decide +kernel

end Insert

end SqlTree

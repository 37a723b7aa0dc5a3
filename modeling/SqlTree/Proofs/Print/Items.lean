import SqlTree.Proofs.Print.Success
import SqlTree.Proofs.Statement.NamedItems
import SqlTree.Statement.AlterTable
import SqlTree.Statement.Insert
import SqlTree.Statement.Select

/-!
# Items of clauses that can be printed

What stands in the lists of a statement: output columns, sort items, tables, rows, constraints,
definitions of columns and commands. For each of them there is a lemma that it can be printed if
the expressions and statements inside it can.
-/

namespace SqlTree.Print

/-! ## Output columns, assignments and sort items -/

/-- The printer of output columns differs from that of expressions in name only. -/
theorem target_eq_expression (tree : Tree) : printer.target tree = expression tree := by
  rw [Printer.target_eq]
  cases found : tree.recordOf? "ResTarget" with
  | none => rfl
  | some record =>
      rw [Tree.eq_node_of_recordOf? found, expression_node (by decide)]
      rfl

theorem succeeds_target {operand : Operand} (printed : Succeeds (expression operand.reference)) :
    Succeeds (printer.target (Node.target operand)) := by
  rw [target_eq_expression]
  unfold Node.target
  dsimp only
  split
  · exact printed
  · rw [expression_node (by decide)]
    exact printed

theorem succeeds_targets {columns : List Operand}
    (printed : ∀ column ∈ columns, Succeeds (expression column.reference)) :
    ∀ item ∈ columns.map Node.target, Succeeds (printer.target item) :=
  List.forall_mem_map.mpr fun column mem => succeeds_target (printed column mem)

theorem succeeds_assigned {name : String} {value : Tree} (printed : Succeeds (expression value)) :
    Succeeds (expression (Node.assigned name (some value))) := by
  rw [Node.assigned, expression_node (by decide)]
  change Succeeds (do return (← expression value) ++ " AS " ++ name)
  simpa using printed

theorem succeeds_columnName (name : String) :
    Succeeds (printer.target (Node.assigned name none)) := by
  rw [target_eq_expression, Node.assigned, expression_node (by decide)]
  exact ⟨name, rfl⟩

theorem succeeds_assignment {name : String} {value : Tree} (printed : Succeeds (expression value)) :
    Succeeds (printer.assignment (Node.assigned name (some value))) := by
  apply succeeds_requiredRecord.mpr
  refine ⟨_, rfl, ?_⟩
  rw [← bind_assoc]
  simpa [succeeds_required_bind, Fields.get?_cons] using printed

theorem succeeds_sortItem {operand : Operand} {direction : SortDirection} {nulls : NullsOrder}
    (printed : Succeeds (expression operand.reference)) :
    Succeeds (printer.sortItem (Node.sortItem operand direction nulls)) := by
  rw [Printer.sortItem_eq]
  change Succeeds (printer.sortRecord (.object _))
  unfold Printer.sortRecord
  rw [← bind_assoc]
  simpa [succeeds_required_bind, Fields.get?_cons] using printed

/-- What is printed as an expression is no sort item yet, so it becomes one. -/
theorem succeeds_orderItem {operand : Operand} (printed : Succeeds (expression operand.reference)) :
    Succeeds (printer.sortItem (Select.orderItem operand)) := by
  unfold Select.orderItem
  dsimp only
  split
  · next sorted =>
    rcases Option.map_eq_some_iff.mp sorted with ⟨⟨kind, record⟩, tagged, same⟩
    rw [expression_eq, Printer.expressionLevel, tagged] at printed
    cases same
    exact absurd printed (not_succeeds_error _)
  · exact succeeds_sortItem printed

/-! ## Tables -/

theorem succeeds_relation (record : Tree) : Succeeds (source (.node "RangeVar" record)) := by
  rw [source_eq, Printer.sourceLevel, Tree.tagged?_node (by decide)]
  exact succeeds_ok _

theorem succeeds_subselect {query : Tree} (printed : Succeeds (statement query)) (name : String) :
    Succeeds (source (Node.subselect query name)) := by
  rw [Node.subselect, source_eq, Printer.sourceLevel, Tree.tagged?_node (by decide)]
  change Succeeds (printer.subselect _)
  unfold Printer.subselect
  rw [← bind_assoc]
  simpa [succeeds_required_bind, Fields.get?_cons] using printed

theorem succeeds_joinNode {type : JoinType} {left right : Tree} {condition : Option Tree}
    (leftPrinted : Succeeds (source left)) (rightPrinted : Succeeds (source right))
    (conditionPrinted : ∀ tree ∈ condition, Succeeds (expression tree)) :
    Succeeds (source (Select.joinNode type left right condition)) := by
  unfold Select.joinNode
  rw [source_eq, Printer.sourceLevel, Tree.tagged?_node (by decide)]
  change Succeeds (printer.join _)
  rw [Printer.join_eq, succeeds_concat]
  cases condition with
  | none =>
      simp [succeeds_required_bind, Fields.get?, leftPrinted, rightPrinted]
  | some tree =>
      simp [succeeds_required_bind, Fields.get?_cons, leftPrinted, rightPrinted,
        conditionPrinted tree rfl]

/-! ## Rows, common tables and conflicts -/

theorem succeeds_rowNode {row : List Operand} (printed : ∀ operand ∈ row, OperandPrints operand) :
    Succeeds (printer.valuesRow (Insert.rowNode row)) := by
  have opened : ((Insert.rowNode row).record?.map (·.itemsAt "items")).getD [] =
      row.map Operand.literal := rfl
  unfold Printer.valuesRow
  rw [opened]
  simpa using fun operand mem => (printed operand mem).literal

theorem succeeds_withClause {clause : Tree} :
    Succeeds (printer.withClause (some clause)) ↔
      ∀ table ∈ clause.itemsAt "ctes", Succeeds (printer.tableExpression table) := by
  simp [Printer.withClause]

theorem succeeds_tableExpression {name : String} {body : Tree}
    (printed : Succeeds (statement (Select.completeBody body))) :
    Succeeds (printer.tableExpression (Select.tableExpression name body)) := by
  apply succeeds_requiredRecord.mpr
  refine ⟨_, rfl, ?_⟩
  rw [← bind_assoc]
  simpa [succeeds_required_bind, Fields.get?_cons] using printed

theorem succeeds_distinctClause {clause : Tree}
    (printed : ∀ item ∈ clause.items, item.tagged?.isSome → Succeeds (expression item)) :
    Succeeds (printer.distinctClause (some clause)) := by
  simp only [Printer.distinctClause]
  split
  · exact succeeds_ok _
  · simpa using printed

/-- The values that an ON CONFLICT clause assigns can be printed. -/
def ConflictPrints (clause : OnConflict) : Prop :=
  ∀ assignments, clause.action = .update assignments →
    ∀ assignment ∈ assignments, Succeeds (expression assignment.2)

theorem conflictPrints_doUpdate (clause : OnConflict) {assignments : List (String × Operand)}
    (printed : ∀ assignment ∈ assignments, OperandPrints assignment.2) :
    ConflictPrints (clause.doUpdate assignments) := by
  rintro values same assignment mem
  cases same
  rcases List.mem_map.mp mem with ⟨given, givenMem, rfl⟩
  exact (printed given givenMem).literal

theorem succeeds_conflictClause {clause : OnConflict} (prints : ConflictPrints clause) :
    Succeeds (printer.conflictClause (some clause.toRecord)) := by
  rcases clause with ⟨columns, action⟩
  cases action with
  | nothing =>
      have word : Tree.textAt? (OnConflict.toRecord ⟨columns, .nothing⟩) "action" =
          some "ONCONFLICT_NOTHING" := rfl
      simp [Printer.conflictClause, word]
  | update assignments =>
      have word : Tree.textAt? (OnConflict.toRecord ⟨columns, .update assignments⟩) "action" =
          some "ONCONFLICT_UPDATE" := rfl
      have targets : Tree.itemsAt (OnConflict.toRecord ⟨columns, .update assignments⟩)
          "targetList" = assignments.map fun pair => Node.assigned pair.1 (some pair.2) := by
        cases columns <;> rfl
      have printed : ∀ target ∈ assignments.map fun pair => Node.assigned pair.1 (some pair.2),
          Succeeds (printer.assignment target) := by
        rintro target mem
        rcases List.mem_map.mp mem with ⟨assignment, assignmentMem, rfl⟩
        exact succeeds_assignment (prints assignments rfl assignment assignmentMem)
      simp only [Printer.conflictClause, word, targets]
      simpa using printed

/-! ## Constraints -/

/-- A constraint that can be printed among those of a table, or of a column. -/
def ConstraintPrints (isTableLevel : Bool) (tree : Tree) : Prop :=
  ∃ record, tree = .node "Constraint" record ∧ Succeeds (printer.constraint record isTableLevel)

theorem constraintPrints_plain {type : String}
    (plain : type ∈ ["CONSTR_NOTNULL", "CONSTR_PRIMARY", "CONSTR_UNIQUE"])
    (fields : List (String × Tree)) (isTableLevel : Bool) :
    ConstraintPrints isTableLevel (Node.constraint type fields) := by
  refine ⟨_, rfl, ?_⟩
  simp only [List.mem_cons, List.not_mem_nil, or_false] at plain
  rcases plain with rfl | rfl | rfl
  · exact succeeds_ok _
  · exact succeeds_ok _
  · exact succeeds_ok _

theorem constraintPrints_expression {type : String}
    (carries : type = "CONSTR_DEFAULT" ∨ type = "CONSTR_CHECK") {value : Tree}
    (printed : Succeeds (expression value)) (fields : List (String × Tree)) (isTableLevel : Bool) :
    ConstraintPrints isTableLevel (Node.constraint type (("raw_expr", value) :: fields)) := by
  refine ⟨_, rfl, ?_⟩
  unfold Printer.constraint
  rcases carries with rfl | rfl <;>
    simpa [Tree.textAt?, succeeds_required_bind, Fields.get?_cons] using printed

theorem constraintPrints_foreignKey (columns : Option (List String)) (table : String)
    (referenced : List String) (isTableLevel : Bool) :
    ConstraintPrints isTableLevel (Node.foreignKey columns table referenced) := by
  refine ⟨_, rfl, ?_⟩
  unfold Printer.constraint
  simp [Tree.textAt?, Printer.reference, Fields.get?_cons]

theorem ConstraintPrints.succeeds_columnConstraint {tree : Tree}
    (prints : ConstraintPrints false tree) : Succeeds (printer.columnConstraint tree) := by
  rcases prints with ⟨record, rfl, printed⟩
  apply succeeds_requiredRecord.mpr
  exact ⟨record, rfl, by simpa using printed⟩

/-- The constraints that are collected for a column can be printed. -/
def ConstraintsPrint (column : ColumnConstraints) : Prop :=
  ∀ item ∈ column.constraints, Succeeds (printer.columnConstraint item)

theorem constraintsPrint_empty : ConstraintsPrint .empty := by
  simp [ConstraintsPrint, ColumnConstraints.empty]

theorem ConstraintsPrint.push {column : ColumnConstraints} (prints : ConstraintsPrint column)
    {constraint : Tree} (printed : ConstraintPrints false constraint) :
    ConstraintsPrint (column.push constraint) := by
  intro item mem
  rcases List.mem_append.mp mem with old | added
  · exact prints item old
  · rw [List.mem_singleton.mp added]
    exact printed.succeeds_columnConstraint

/-- A change of constraints that keeps them printable. -/
def ConstraintsChange (change : ColumnConstraints → ColumnConstraints) : Prop :=
  ∀ column, ConstraintsPrint column → ConstraintsPrint (change column)

theorem ConstraintsChange.push {change : ColumnConstraints → ColumnConstraints}
    (changes : ConstraintsChange change) {constraint : Tree}
    (printed : ConstraintPrints false constraint) :
    ConstraintsChange fun column => (change column).push constraint :=
  fun column prints => (changes column prints).push printed

/-! ## Definitions of columns -/

/--
The record of a definition that can be printed. The demand is on every field of the name, so that
it is kept when one of them is erased.
-/
structure DefinitionPrints (record : Tree) : Prop where
  typed : (record.get? "typeName").isSome
  constraints : ∀ field ∈ record.fields, field.1 = "constraints" →
    ∀ item ∈ field.2.items, Succeeds (printer.columnConstraint item)

namespace DefinitionPrints

variable {record : Tree}

theorem constraintsPrint (prints : DefinitionPrints record) :
    ConstraintsPrint ⟨record.itemsAt "constraints"⟩ := by
  intro item mem
  unfold Tree.itemsAt at mem
  cases found : record.get? "constraints" with
  | none => simp [found] at mem
  | some list =>
      exact prints.constraints ("constraints", list) (Fields.mem_of_get? found) rfl item
        (by simpa [found] using mem)

theorem succeeds (prints : DefinitionPrints record) :
    Succeeds (printer.columnDefinition record) := by
  rcases Option.isSome_iff_exists.mp prints.typed with ⟨type, found⟩
  rw [Printer.columnDefinition_eq, succeeds_concat]
  simp only [List.forall_mem_cons, succeeds_required_bind, succeeds_joined]
  exact ⟨⟨type, found, succeeds_pure _⟩, prints.constraintsPrint, by simp⟩

theorem applyTo (prints : DefinitionPrints record) {column : ColumnConstraints}
    (printed : ConstraintsPrint column) : DefinitionPrints (column.applyTo record) := by
  unfold ColumnConstraints.applyTo
  split
  · refine ⟨?_, ?_⟩
    · rw [Tree.get?_erase_of_ne (by decide)]
      exact prints.typed
    · intro field mem
      rw [Tree.fields_erase] at mem
      exact prints.constraints field (Fields.mem_of_mem_erase mem)
  · refine ⟨?_, ?_⟩
    · rw [Tree.get?_set, if_neg (by decide)]
      exact prints.typed
    · intro field mem same
      rcases Fields.mem_of_mem_insert mem with rfl | old
      · exact printed
      · exact prints.constraints field old same

end DefinitionPrints

/-- A node that defines a column and can be printed. -/
def ColumnPrints (definition : Tree) : Prop :=
  ∃ record, definition = .node "ColumnDef" record ∧ DefinitionPrints record

theorem columnPrints_columnDefinition (name type : String) :
    ColumnPrints (Node.columnDefinition name type) := by
  refine ⟨_, rfl, rfl, ?_⟩
  simp [Tree.fields]

theorem ColumnPrints.constrain {definition : Tree} (prints : ColumnPrints definition)
    {column : ColumnConstraints} (printed : ConstraintsPrint column) :
    ColumnPrints (CreateTable.constrain definition column) := by
  rcases prints with ⟨record, rfl, recordPrints⟩
  exact ⟨column.applyTo record, rfl, recordPrints.applyTo printed⟩

theorem ColumnPrints.constraintsOf {definition : Tree} (prints : ColumnPrints definition) :
    ConstraintsPrint (CreateTable.constraintsOf definition) := by
  rcases prints with ⟨record, rfl, recordPrints⟩
  exact recordPrints.constraintsPrint

theorem ColumnPrints.constrained {definition : Tree} (prints : ColumnPrints definition)
    {column : ColumnConstraints} (printed : ConstraintsPrint column) :
    ColumnPrints (AlterTable.constrained definition column) := by
  unfold AlterTable.constrained
  split
  · exact prints
  · exact prints.constrain printed

/-- An element of a table that can be printed: the definition of a column, or a constraint. -/
def ElementPrints (element : Tree) : Prop := ColumnPrints element ∨ ConstraintPrints true element

theorem ElementPrints.succeeds {element : Tree} (prints : ElementPrints element) :
    Succeeds (printer.tableElement element) := by
  rcases prints with ⟨record, rfl, recordPrints⟩ | ⟨record, rfl, printed⟩
  · exact recordPrints.succeeds
  · exact printed

/-- An element that defines a column is a definition. -/
theorem ElementPrints.columnPrints {element : Tree} {name : String} (prints : ElementPrints element)
    (defines : CreateTable.definedColumn? element = some name) : ColumnPrints element := by
  rcases prints with column | ⟨record, rfl, printed⟩
  · exact column
  · cases defines

/-! ## Commands of ALTER TABLE -/

/-- The commands that say no more than a name. -/
def namedCommands : List String :=
  ["AT_DropColumn", "AT_SetNotNull", "AT_DropNotNull", "AT_DropConstraint"]

theorem succeeds_namedCommand {type : String} (plain : type ∈ namedCommands) (name : String) :
    Succeeds (printer.alterCommand (Node.alterCommand type (some name) none)) := by
  rw [Printer.alterCommand_eq]
  apply succeeds_requiredRecord.mpr
  refine ⟨_, rfl, ?_⟩
  simp only [namedCommands, List.mem_cons, List.not_mem_nil, or_false] at plain
  rcases plain with rfl | rfl | rfl | rfl <;> exact ⟨_, rfl⟩

theorem succeeds_addColumn {definition : Tree} (prints : ColumnPrints definition) :
    Succeeds (printer.alterCommand (Node.alterCommand "AT_AddColumn" none (some definition))) := by
  rcases prints with ⟨record, rfl, recordPrints⟩
  rw [Printer.alterCommand_eq]
  apply succeeds_requiredRecord.mpr
  refine ⟨_, rfl, ?_⟩
  change Succeeds (("ADD COLUMN " ++ ·) <$> printer.columnDefinition record)
  exact succeeds_map.mpr recordPrints.succeeds

end SqlTree.Print

import SqlTree.Proofs.Print.Clauses
import SqlTree.Statement.Builder

/-!
# Updates of statements that can be printed

For each start of a statement, and for each update that does more than add to one clause, there is
a lemma here: the updated statement can be printed if the statement and what is added can. A
statement inside another one is asked for more than a text, since its record or its rows may be
taken over without the rest of it: `StatementPrints` keeps the demands on all its clauses.
-/

namespace SqlTree.Print

/-! ## Statements inside statements -/

/-- The node of a statement that meets the demands of its kind. -/
def StatementPrints (tree : Tree) : Prop :=
  ∃ (kind : StatementKind) (record : Tree),
    tree = .node kind.name record ∧ RecordPrints kind kind.hasTarget record

theorem QueryPrints.statementPrints {kind : StatementKind} {query : Query}
    (prints : QueryPrints kind kind.hasTarget query) : StatementPrints query.toNode := by
  refine ⟨kind, query.record, ?_, prints.record⟩
  simp [Query.toNode, prints.named]

namespace StatementPrints

variable {tree record : Tree}

theorem succeeds (prints : StatementPrints tree) : Succeeds (statement tree) := by
  rcases prints with ⟨kind, record, rfl, recordPrints⟩
  exact recordPrints.succeeds_statement

theorem tagged (prints : StatementPrints tree) : tree.tagged?.isSome := by
  rcases prints with ⟨kind, record, rfl, recordPrints⟩
  simp [Tree.tagged?_node kind.isKindName_name]

theorem sourcePrints (prints : StatementPrints tree) : SourcePrints tree := by
  refine ⟨prints.succeeds, ?_⟩
  rcases prints with ⟨kind, record, rfl, recordPrints⟩
  simp only [sourceRows, Tree.record?, Tree.tagged?_node kind.isKindName_name]
  exact recordPrints.each rfl

theorem selectPrints (prints : StatementPrints tree)
    (found : tree.recordOf? "SelectStmt" = some record) : RecordPrints .select false record := by
  rcases prints with ⟨kind, own, rfl, recordPrints⟩
  have same := Tree.eq_node_of_recordOf? found
  simp only [Tree.node, Tree.object.injEq, List.cons.injEq, Prod.mk.injEq, and_true] at same
  rcases same with ⟨name, rfl⟩
  cases kind with
  | select => exact recordPrints
  | _ => exact absurd name (by decide)

theorem completeBody (prints : StatementPrints tree) :
    StatementPrints (Select.completeBody tree) := by
  unfold Select.completeBody
  split
  · next record found =>
    split
    · exact ⟨.select, _, rfl, (prints.selectPrints found).setNoOperation⟩
    · exact prints
  · exact prints

end StatementPrints

theorem QueryPrints.returning {kind : StatementKind} {hasTarget : Bool} {query : Query}
    (prints : QueryPrints kind hasTarget query) {columns : List Operand}
    (printed : ∀ column ∈ columns, Succeeds (expression column.reference)) :
    QueryPrints kind hasTarget (query.append "returningList" (columns.map Node.target)) :=
  prints.append rfl rfl (succeeds_targets printed)

/-! ## SELECT -/

abbrev SelectPrints (select : Select) : Prop := QueryPrints .select false select.query

namespace SelectPrints

variable {select : Select}

theorem start {columns : List Operand}
    (printed : ∀ column ∈ columns, Succeeds (expression column.reference)) :
    SelectPrints (Select.start columns) := by
  refine ⟨rfl, ?_⟩
  unfold Select.start
  dsimp only
  split
  · exact recordPrints_object ⟨trivial, trivial, trivial⟩ nofun nofun
  · exact recordPrints_object ⟨succeeds_targets printed, trivial, trivial, trivial⟩ nofun nofun

theorem columns (prints : SelectPrints select) {columns : List Operand}
    (printed : ∀ column ∈ columns, Succeeds (expression column.reference)) :
    SelectPrints (select.columns columns) :=
  prints.append rfl rfl (succeeds_targets printed)

theorem distinct (prints : SelectPrints select) : SelectPrints select.distinct :=
  prints.set rfl (succeeds_distinctClause (by simp [Tree.tagged?]))

theorem distinctOn (prints : SelectPrints select) {expressions : List Operand}
    (printed : ∀ operand ∈ expressions, OperandPrints operand) :
    SelectPrints (select.distinctOn expressions) := by
  refine prints.setList rfl ?_
  apply succeeds_distinctClause
  intro item mem _
  rcases List.mem_map.mp mem with ⟨operand, operandMem, rfl⟩
  exact (printed operand operandMem).reference

theorem join {joined : Select} {type : JoinType} {table : TableRef} {condition : Option Tree}
    (prints : SelectPrints select) (tablePrinted : Succeeds (source table.item))
    (conditionPrinted : ∀ tree ∈ condition, Succeeds (expression tree))
    (done : select.join type table condition = .ok joined) :
    SelectPrints joined := by
  have tables : ∀ item ∈ select.query.record.itemsAt "fromClause", Succeeds (source item) :=
    prints.record.each rfl
  unfold Select.join at done
  dsimp only at done
  split at done
  · cases done
  · next last found =>
    cases done
    refine prints.setList rfl ?_
    intro item mem
    rcases List.mem_append.mp mem with old | added
    · exact tables item ((List.dropLast_sublist _).subset old)
    · rw [List.mem_singleton.mp added]
      exact succeeds_joinNode (tables last (List.mem_of_getLast? found)) tablePrinted
        conditionPrinted

theorem limit (prints : SelectPrints select) {count : Operand}
    (printed : OperandPrints count) : SelectPrints (select.limit count) := by
  have counted : QueryPrints .select false (select.query.set "limitCount" count.literal) :=
    prints.set rfl printed.literal
  exact counted.set rfl trivial

theorem withTable (prints : SelectPrints select) {body : Tree}
    (bodyPrints : StatementPrints body) (name : String) (isRecursive : Bool) :
    SelectPrints (select.withTable name body isRecursive) := by
  have tables : ∀ table ∈ ((select.query.record.get? "withClause").getD .null).itemsAt "ctes",
      Succeeds (printer.tableExpression table) := by
    cases found : select.query.record.get? "withClause" with
    | none => simp [Tree.itemsAt, Tree.get?, Tree.fields, Fields.get?]
    | some clause => exact succeeds_withClause.mp (prints.record.whole rfl clause found)
  have added : Succeeds (printer.tableExpression (Select.tableExpression name body)) :=
    succeeds_tableExpression bodyPrints.completeBody.succeeds
  have extended := List.forall_mem_append.mpr ⟨tables, List.forall_mem_singleton.mpr added⟩
  refine prints.set rfl ?_
  apply succeeds_withClause.mpr
  split
  · simpa [Tree.itemsAt, Tree.get?_set] using extended
  · simpa [Tree.itemsAt, Tree.get?_set] using extended

theorem combine {other : Select} (prints : SelectPrints select)
    (otherPrints : SelectPrints other) (operation : SetOperation) (all : Bool) :
    SelectPrints (select.combine operation all (Statement.toNode other)) := by
  have arm : Select.armRecord (Statement.toNode other) = other.query.record := by
    have node : Statement.toNode other = .node "SelectStmt" other.query.record := by
      simp [Statement.toNode, Statement.toQuery, Query.toNode, otherPrints.named,
        StatementKind.name]
    rw [node]
    rfl
  have leftPrinted : PrintsBy Print.select select.query.record := prints.record.succeeds_select
  have rightPrinted : PrintsBy Print.select other.query.record := otherPrints.record.succeeds_select
  refine ⟨prints.named, ?_⟩
  unfold Select.combine
  rw [arm]
  cases all with
  | false =>
      exact recordPrints_object ⟨trivial, leftPrinted, rightPrinted, trivial, trivial⟩ nofun
        fun _ => ⟨rfl, rfl⟩
  | true =>
      exact recordPrints_object ⟨trivial, trivial, leftPrinted, rightPrinted, trivial, trivial⟩
        nofun fun _ => ⟨rfl, rfl⟩

theorem lock (prints : SelectPrints select) (strength : LockStrength) :
    SelectPrints (select.lock strength) := by
  refine prints.add rfl rfl ?_
  cases strength with
  | update => exact ⟨_, rfl⟩
  | share => exact ⟨_, rfl⟩

end SelectPrints

/-! ## INSERT -/

abbrev InsertPrints (insert : Insert) : Prop := QueryPrints .insert true insert.query

namespace InsertPrints

variable {insert : Insert}

theorem start (table : TableRef) : InsertPrints (.start table) :=
  ⟨rfl, recordPrints_object ⟨trivial, trivial, trivial⟩ (fun _ => rfl) nofun⟩

theorem columns (prints : InsertPrints insert) (columns : List String) :
    InsertPrints (insert.columns columns) := by
  refine prints.append rfl rfl ?_
  exact List.forall_mem_map.mpr fun name _ => succeeds_columnName name

theorem withRows (prints : InsertPrints insert) {rows : List Tree}
    (printed : ∀ row ∈ rows, Succeeds (printer.valuesRow row)) :
    InsertPrints (insert.withRows rows) := by
  have source : RecordPrints .select false (.object
      [("valuesLists", .list rows), ("limitOption", .text "LIMIT_OPTION_DEFAULT"),
        ("op", .text "SETOP_NONE")]) :=
    recordPrints_object ⟨printed, trivial, trivial, trivial⟩ nofun nofun
  refine prints.set rfl ?_
  exact StatementPrints.sourcePrints ⟨.select, _, rfl, source⟩

theorem rows (prints : InsertPrints insert) :
    ∀ row ∈ insert.rows, Succeeds (printer.valuesRow row) := by
  unfold Insert.rows
  cases found : insert.query.record.get? "selectStmt" with
  | none => simp
  | some source => exact (prints.record.whole rfl source found).2

theorem values (prints : InsertPrints insert) {row : List Operand}
    (printed : ∀ operand ∈ row, OperandPrints operand) : InsertPrints (insert.values row) :=
  prints.withRows (List.forall_mem_singleton.mpr (succeeds_rowNode printed))

theorem addValues (prints : InsertPrints insert) {row : List Operand}
    (printed : ∀ operand ∈ row, OperandPrints operand) : InsertPrints (insert.addValues row) :=
  prints.withRows (List.forall_mem_append.mpr
    ⟨prints.rows, List.forall_mem_singleton.mpr (succeeds_rowNode printed)⟩)

theorem fromSelect (prints : InsertPrints insert) {source : Tree}
    (sourcePrints : StatementPrints source) : InsertPrints (insert.fromSelect source) := by
  refine prints.set rfl ?_
  rw [if_pos sourcePrints.tagged]
  exact sourcePrints.sourcePrints

end InsertPrints

/-! ## UPDATE and DELETE -/

abbrev UpdatePrints (update : Update) : Prop := QueryPrints .update true update.query

namespace UpdatePrints

variable {update : Update}

theorem start (table : TableRef) : UpdatePrints (.start table) :=
  ⟨rfl, recordPrints_object ⟨trivial, trivial⟩ (fun _ => rfl) nofun⟩

theorem set (prints : UpdatePrints update) {assignments : List (String × Operand)}
    (printed : ∀ assignment ∈ assignments, OperandPrints assignment.2) :
    UpdatePrints (update.set assignments) := by
  have items : ∀ item ∈ update.query.record.itemsAt "targetList",
      Succeeds (printer.assignment item) := prints.record.each rfl
  refine prints.setList rfl ?_
  apply Update.forall_mem_foldl_assign ?_ items
  exact fun assignment mem => succeeds_assignment (printed assignment mem).literal

end UpdatePrints

abbrev DeletePrints (delete : Delete) : Prop := QueryPrints .delete true delete.query

theorem DeletePrints.start (table : TableRef) : DeletePrints (.start table) :=
  ⟨rfl, recordPrints_object ⟨trivial, trivial⟩ (fun _ => rfl) nofun⟩

/-! ## CREATE TABLE -/

abbrev CreateTablePrints (table : CreateTable) : Prop :=
  QueryPrints .createTable true table.query

namespace CreateTablePrints

variable {table : CreateTable}

theorem start (name : TableRef) : CreateTablePrints (.start name) :=
  ⟨rfl, recordPrints_object ⟨trivial, trivial, trivial⟩ (fun _ => rfl) nofun⟩

theorem elements (prints : CreateTablePrints table) :
    ∀ element ∈ table.query.record.itemsAt "tableElts", ElementPrints element :=
  prints.record.each rfl

theorem defineColumn (prints : CreateTablePrints table) {definition : Tree}
    (columnPrints : ColumnPrints definition) :
    CreateTablePrints (table.defineColumn definition) := by
  refine prints.setList rfl ?_
  intro element mem
  rcases CreateTable.mem_of_mem_define mem with rfl | old
  · exact Or.inl columnPrints
  · exact prints.elements element old

theorem alterColumn (prints : CreateTablePrints table)
    {change : ColumnConstraints → ColumnConstraints} (changes : ConstraintsChange change)
    (name : String) : CreateTablePrints (table.alterColumn name change) := by
  unfold CreateTable.alterColumn
  split
  · exact prints
  · next definition found =>
    have mem := List.mem_of_find?_eq_some found
    have defines : CreateTable.definedColumn? definition = some name := by
      simpa using List.find?_some found
    have columnPrints := (prints.elements definition mem).columnPrints defines
    exact prints.defineColumn
      (columnPrints.constrain (changes _ columnPrints.constraintsOf))

theorem dropColumn (prints : CreateTablePrints table) (name : String) :
    CreateTablePrints (table.dropColumn name) := by
  refine prints.setList rfl ?_
  intro element mem
  exact prints.elements element (List.mem_filter.mp mem).1

theorem addConstraint (prints : CreateTablePrints table) {constraint : Tree}
    (printed : ConstraintPrints true constraint) :
    CreateTablePrints (table.addConstraint constraint) :=
  prints.add rfl rfl (Or.inr printed)

end CreateTablePrints

/-! ## ALTER TABLE and CREATE INDEX -/

abbrev AlterTablePrints (table : AlterTable) : Prop := QueryPrints .alterTable true table.query

theorem AlterTablePrints.start (name : TableRef) : AlterTablePrints (.start name) :=
  ⟨rfl, recordPrints_object ⟨trivial, trivial, trivial⟩ (fun _ => rfl) nofun⟩

/-- The commands that are collected for a column can be printed. -/
def ChangesPrint (column : ColumnChanges) : Prop :=
  ∀ command ∈ column.commands, Succeeds (printer.alterCommand command)

theorem ChangesPrint.push {column : ColumnChanges} (prints : ChangesPrint column) {type : String}
    (plain : type ∈ namedCommands) : ChangesPrint (column.push type) :=
  List.forall_mem_append.mpr
    ⟨prints, List.forall_mem_singleton.mpr (succeeds_namedCommand plain column.column)⟩

theorem AlterTablePrints.alterColumn {table altered : AlterTable} (prints : AlterTablePrints table)
    {change : ColumnChanges → ColumnChanges}
    (changes : ∀ column, ChangesPrint column → ChangesPrint (change column)) {name : String}
    (done : table.alterColumn name (fun column => .ok (change column)) = .ok altered) :
    AlterTablePrints altered := by
  cases done
  exact prints.append rfl rfl (changes (.empty name) nofun)

/-- An index that can be printed as soon as it has a table. -/
abbrev CreateIndexPrints (hasTable : Bool) (index : CreateIndex) : Prop :=
  QueryPrints .createIndex hasTable index.query

theorem CreateIndexPrints.start (name : String) : CreateIndexPrints false (.start name) :=
  ⟨rfl, recordPrints_object ⟨trivial, trivial, trivial⟩ nofun nofun⟩

theorem succeeds_indexElements (names : List String) :
    ∀ item ∈ names.map Node.indexElement, Succeeds (Printer.indexElement item) :=
  List.forall_mem_map.mpr fun _ _ => ⟨_, rfl⟩

end SqlTree.Print

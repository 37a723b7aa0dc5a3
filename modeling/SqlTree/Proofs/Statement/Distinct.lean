import SqlTree.Proofs.Node.Distinct
import SqlTree.Proofs.Statement.NamedItems
import SqlTree.Statement.Builder

/-!
# No update repeats a name

A statement is as good as its record. Its updates write clauses of the record by name, and what they
write is made by factories out of their arguments and of what stands in the record already. So a
statement whose record repeats no name stays so, as long as the arguments repeat none.

This file has one statement for each way of writing to a clause, and one for each part of a
statement that is made of what stands there.
-/

namespace SqlTree

namespace Tidy

instance : Tidy JoinType := plain JoinType
instance : Tidy SetOperation := plain SetOperation
instance : Tidy LockStrength := plain LockStrength
instance : Tidy Parser := plain Parser

instance {β : Type} [Statement β] : Tidy β :=
  ⟨fun statement => (Statement.record statement).Distinct⟩

instance : Tidy ColumnConstraints :=
  ⟨fun column => ∀ constraint ∈ column.constraints, constraint.Distinct⟩

instance : Tidy ColumnChanges := ⟨fun changes => ∀ command ∈ changes.commands, command.Distinct⟩

instance : Tidy OnConflict :=
  ⟨fun clause => ∀ assignments, clause.action = .update assignments → IsTidy assignments⟩

end Tidy

/-! ## Clauses -/

namespace Query

variable {query : Query}

/-- A statement about a table starts with the relation and what is the same for all tables. -/
theorem tidy_ofTarget (kind : StatementKind) {table : TableRef} (tidy : IsTidy table)
    {fields : List (String × Tree)} (names : ("relation" :: Fields.keys fields).Nodup)
    (values : ∀ field ∈ fields, field.2.Distinct) :
    IsTidy (ofKind kind (.object (("relation", table.relation) :: fields))) :=
  Tree.distinct_object.mpr
    ⟨names, List.forall_mem_cons.mpr ⟨TableRef.distinct_relation tidy, values⟩⟩

theorem tidy_set (tidy : IsTidy query) (clause : String) {value : Tree}
    (distinct : value.Distinct) : IsTidy (query.set clause value) :=
  Tree.Distinct.set tidy clause distinct

theorem tidy_erase (tidy : IsTidy query) (clause : String) : IsTidy (query.erase clause) :=
  Tree.Distinct.erase tidy clause

theorem tidy_setOption (tidy : IsTidy query) (clause : String) {value : Option Tree}
    (distinct : ∀ tree ∈ value, tree.Distinct) : IsTidy (query.setOption clause value) := by
  cases value with
  | none => exact tidy_erase tidy clause
  | some tree => exact tidy_set tidy clause (distinct tree rfl)

theorem tidy_setList (tidy : IsTidy query) (clause : String) {items : List Tree}
    (distinct : ∀ item ∈ items, item.Distinct) : IsTidy (query.setList clause items) := by
  unfold setList
  split
  · exact tidy_erase tidy clause
  · exact tidy_set tidy clause (Tree.distinct_list.mpr distinct)

theorem tidy_itemsAt (tidy : IsTidy query) (clause : String) :
    ∀ item ∈ query.record.itemsAt clause, item.Distinct :=
  fun _ => Tree.Distinct.itemsAt tidy

theorem tidy_get? (tidy : IsTidy query) (clause : String) :
    ∀ tree ∈ query.record.get? clause, tree.Distinct :=
  fun _ => Tree.Distinct.get? tidy

theorem tidy_append (tidy : IsTidy query) (clause : String) {items : List Tree}
    (distinct : ∀ item ∈ items, item.Distinct) : IsTidy (query.append clause items) :=
  tidy_setList tidy clause (List.forall_mem_append.mpr ⟨tidy_itemsAt tidy clause, distinct⟩)

theorem tidy_add (tidy : IsTidy query) (clause : String) {item : Tree} (distinct : item.Distinct) :
    IsTidy (query.append clause [item]) :=
  tidy_append tidy clause (List.forall_mem_singleton.mpr distinct)

theorem tidy_mapList (tidy : IsTidy query) (clause : String) {change : List Tree → List Tree}
    (changeTidy : IsTidy change) : IsTidy (query.mapList clause change) :=
  tidy_setList tidy clause (changeTidy _ (tidy_itemsAt tidy clause))

theorem tidy_mapOption (tidy : IsTidy query) (clause : String)
    {change : Option Tree → Option Tree} (changeTidy : IsTidy change) :
    IsTidy (query.mapOption clause change) :=
  tidy_setOption tidy clause (changeTidy _ (tidy_get? tidy clause))

theorem tidy_restrict (tidy : IsTidy query) (clause : String) {condition : Option Tree}
    (distinct : ∀ tree ∈ condition, tree.Distinct) : IsTidy (query.restrict clause condition) := by
  cases condition with
  | none => exact tidy
  | some tree =>
      apply tidy_setOption tidy clause
      intro combined found
      apply Expr.distinct_combine ?_ found
      simpa using ⟨tidy_get? tidy clause, distinct tree rfl⟩

theorem distinct_toNode (tidy : IsTidy query) : query.toNode.Distinct := by
  unfold toNode
  split
  · exact Tree.distinct_node.mpr tidy
  · exact tidy

end Query

/-! ## Parts of statements -/

namespace Select

theorem distinct_orderItem {operand : Operand} (tidy : IsTidy operand) :
    (orderItem operand).Distinct := by
  have reference := Operand.distinct_reference tidy
  rw [orderItem]
  split
  · exact reference
  · apply Node.distinct_sortItem
    intro tree same
    exact Operand.node.inj same ▸ reference

theorem distinct_joinNode (type : JoinType) {left right : Tree} {condition : Option Tree}
    (leftDistinct : left.Distinct) (rightDistinct : right.Distinct)
    (distinct : ∀ tree ∈ condition, tree.Distinct) :
    (joinNode type left right condition).Distinct := by
  cases condition <;> simp_all [joinNode, Tree.distinct_object]

theorem distinct_completeBody {body : Tree} (distinct : body.Distinct) :
    (completeBody body).Distinct := by
  unfold completeBody
  split
  · next record found =>
    split
    · exact Tree.distinct_node.mpr ((distinct.recordOf? found).set "op" trivial)
    · exact distinct
  · exact distinct

theorem distinct_tableExpression (name : String) {body : Tree} (distinct : body.Distinct) :
    (tableExpression name body).Distinct := by
  simp [tableExpression, Tree.distinct_object, distinct_completeBody distinct]

theorem distinct_armRecord {operand : Tree} (distinct : operand.Distinct) :
    (armRecord operand).Distinct := by
  rw [armRecord]
  cases found : operand.recordOf? "SelectStmt" with
  | none => exact distinct
  | some record => exact distinct.recordOf? found

theorem distinct_lockNode (strength : LockStrength) : (lockNode strength).Distinct := by
  simp [lockNode, Tree.distinct_object]

theorem tidy_start {columns : List Operand} (tidy : IsTidy columns) : IsTidy (start columns) := by
  have targets := Node.distinct_targets tidy
  change (Tree.object _).Distinct
  split <;> simp_all [Tree.distinct_object]

theorem tidy_join {select : Select} (tidy : IsTidy select) (type : JoinType) {table : TableRef}
    (tableTidy : IsTidy table) {condition : Option Tree} (conditionTidy : IsTidy condition) :
    IsTidy (select.join type table condition) := by
  intro joined done
  have items := Query.tidy_itemsAt tidy "fromClause"
  rw [join] at done
  split at done
  · cases done
  · next last found =>
    cases done
    apply Query.tidy_setList tidy
    rw [List.forall_mem_append, List.forall_mem_singleton]
    refine ⟨fun item mem => items item (List.dropLast_subset _ mem), ?_⟩
    exact distinct_joinNode type (items last (List.mem_of_getLast? found))
      (TableRef.distinct_item tableTidy) conditionTidy

theorem tidy_mapLimit {select : Select} (tidy : IsTidy select)
    {change : Option Tree → Option Tree} (changeTidy : IsTidy change) :
    IsTidy (select.mapLimit change) :=
  Query.tidy_set (Query.tidy_mapOption tidy "limitCount" changeTidy) "limitOption" trivial

theorem tidy_withTable {select : Select} (tidy : IsTidy select) (name : String) {body : Tree}
    (distinct : body.Distinct) (isRecursive : Bool) :
    IsTidy (select.withTable name body isRecursive) := by
  have present : ((select.query.record.get? "withClause").getD .null).Distinct := by
    cases found : select.query.record.get? "withClause" with
    | none => trivial
    | some clause => exact Query.tidy_get? tidy _ clause found
  apply Query.tidy_set tidy
  generalize (select.query.record.get? "withClause").getD .null = clause at present
  have items : ∀ item ∈ clause.itemsAt "ctes" ++ [tableExpression name body], item.Distinct := by
    rw [List.forall_mem_append, List.forall_mem_singleton]
    exact ⟨fun _ => present.itemsAt, distinct_tableExpression name distinct⟩
  have extended := present.set "ctes" (Tree.distinct_list.mpr items)
  split
  · exact extended.set "recursive" trivial
  · exact extended

theorem tidy_combine {select : Select} (tidy : IsTidy select) (operation : SetOperation)
    (all : Bool) {other : Tree} (distinct : other.Distinct) :
    IsTidy (select.combine operation all other) := by
  have left : select.query.record.Distinct := tidy
  have right := distinct_armRecord distinct
  change (Tree.object _).Distinct
  cases all <;> simp_all [Tree.distinct_object]

end Select

theorem Node.distinct_assigned (name : String) {value : Option Tree}
    (distinct : ∀ tree ∈ value, tree.Distinct) : (assigned name value).Distinct := by
  cases value <;> simp_all [assigned, Tree.distinct_object]

namespace OnConflict

theorem tidy_doUpdate (clause : OnConflict) {assignments : List (String × Operand)}
    (tidy : IsTidy assignments) : IsTidy (clause.doUpdate assignments) := by
  intro written same pair mem
  obtain rfl := ConflictAction.update.inj same
  rcases List.mem_map.mp mem with ⟨assignment, assigned, rfl⟩
  exact ⟨trivial, Operand.distinct_literal (tidy assignment assigned).2⟩

theorem distinct_toRecord {clause : OnConflict} (tidy : IsTidy clause) :
    clause.toRecord.Distinct := by
  rcases clause with ⟨columns, _ | assignments⟩
  · cases columns <;> simp [toRecord, Tree.distinct_object]
  · have assigned : ∀ pair ∈ assignments, (Node.assigned pair.1 (some pair.2)).Distinct :=
      fun pair mem =>
        Node.distinct_assigned pair.1 (Tree.distinct_of_mem_some (tidy assignments rfl pair mem).2)
    cases columns <;>
      simpa [toRecord, Tree.distinct_object, List.forall_mem_map, -List.mem_map] using assigned

end OnConflict

namespace Insert

variable {insert : Insert}

theorem distinct_of_mem_rows (tidy : IsTidy insert) {row : Tree} (mem : row ∈ insert.rows) :
    row.Distinct := by
  rw [rows] at mem
  cases source : (insert.query.record.get? "selectStmt").bind (·.record?) with
  | none => simp [source] at mem
  | some record =>
      rw [source] at mem
      rcases Option.bind_eq_some_iff.mp source with ⟨select, found, recorded⟩
      exact ((Query.tidy_get? tidy _ select found).record? recorded).itemsAt mem

theorem tidy_withRows (tidy : IsTidy insert) {rows : List Tree}
    (distinct : ∀ row ∈ rows, row.Distinct) : IsTidy (insert.withRows rows) := by
  apply Query.tidy_set tidy
  simpa [Tree.distinct_object] using distinct

theorem distinct_rowNode {row : List Operand} (tidy : IsTidy row) : (rowNode row).Distinct :=
  Node.distinct_list.mpr (Node.distinct_literals tidy)

theorem tidy_fromSelect (tidy : IsTidy insert) {source : Tree} (distinct : source.Distinct) :
    IsTidy (insert.fromSelect source) := by
  apply Query.tidy_set tidy
  split
  · exact distinct
  · exact Tree.distinct_node.mpr distinct

end Insert

theorem Update.tidy_set {update : Update} (tidy : IsTidy update)
    {assignments : List (String × Operand)} (assignmentsTidy : IsTidy assignments) :
    IsTidy (update.set assignments) := by
  apply Query.tidy_setList tidy
  apply forall_mem_foldl_assign ?_ (Query.tidy_itemsAt tidy "targetList")
  intro assignment mem
  simp [assignmentNode, Tree.distinct_object, Operand.distinct_literal (assignmentsTidy _ mem).2]

theorem ColumnConstraints.tidy_push {column : ColumnConstraints} (tidy : IsTidy column)
    {constraint : Tree} (distinct : constraint.Distinct) : IsTidy (column.push constraint) :=
  List.forall_mem_append.mpr ⟨tidy, List.forall_mem_singleton.mpr distinct⟩

theorem ColumnConstraints.distinct_default {value : Operand} (tidy : IsTidy value) :
    (Node.constraint "CONSTR_DEFAULT" [("raw_expr", value.literal)]).Distinct := by
  simp [Node.constraint, Tree.distinct_object, Operand.distinct_literal tidy]

theorem ColumnConstraints.distinct_applyTo {column : ColumnConstraints} (tidy : IsTidy column)
    {record : Tree} (distinct : record.Distinct) : (column.applyTo record).Distinct := by
  unfold applyTo
  split
  · exact distinct.erase "constraints"
  · exact distinct.set "constraints" (Tree.distinct_list.mpr tidy)

theorem ColumnChanges.tidy_push {changes : ColumnChanges} (tidy : IsTidy changes) (type : String) :
    IsTidy (changes.push type) := by
  refine List.forall_mem_append.mpr ⟨tidy, List.forall_mem_singleton.mpr ?_⟩
  exact Node.distinct_alterCommand type (some changes.column) nofun

namespace CreateTable

theorem distinct_constrain {definition : Tree} (distinct : definition.Distinct)
    {constraints : ColumnConstraints} (tidy : IsTidy constraints) :
    (constrain definition constraints).Distinct := by
  unfold constrain
  split
  · next record found =>
    exact Tree.distinct_node.mpr (constraints.distinct_applyTo tidy (distinct.record? found))
  · exact distinct

theorem tidy_constraintsOf {definition : Tree} (distinct : definition.Distinct) :
    IsTidy (constraintsOf definition) := by
  unfold constraintsOf
  cases found : definition.record? with
  | none => exact nofun
  | some record => exact fun constraint mem => (distinct.record? found).itemsAt mem

variable {table : CreateTable}

theorem tidy_defineColumn (tidy : IsTidy table) {definition : Tree}
    (distinct : definition.Distinct) : IsTidy (table.defineColumn definition) := by
  apply Query.tidy_mapList tidy "tableElts"
  intro elements elementsDistinct element mem
  rcases mem_of_mem_define mem with rfl | old
  · exact distinct
  · exact elementsDistinct element old

theorem tidy_alterColumn (tidy : IsTidy table) (name : String)
    {change : ColumnConstraints → ColumnConstraints} (changeTidy : IsTidy change) :
    IsTidy (table.alterColumn name change) := by
  unfold alterColumn
  split
  · exact tidy
  · next definition found =>
    have mem := List.mem_of_find?_eq_some found
    have distinct := Query.tidy_itemsAt tidy "tableElts" definition mem
    apply tidy_defineColumn tidy
    exact distinct_constrain distinct (changeTidy _ (tidy_constraintsOf distinct))

end CreateTable

namespace AlterTable

theorem distinct_constrained {definition : Tree} (distinct : definition.Distinct)
    {constraints : ColumnConstraints} (tidy : IsTidy constraints) :
    (constrained definition constraints).Distinct := by
  unfold constrained
  split
  · exact distinct
  · exact CreateTable.distinct_constrain distinct tidy

variable {table : AlterTable}

theorem tidy_pushCommand (tidy : IsTidy table) (type : String) (name : Option String)
    {definition : Option Tree} (distinct : ∀ tree ∈ definition, tree.Distinct) :
    IsTidy (table.push [Node.alterCommand type name definition]) :=
  Query.tidy_add tidy "cmds" (Node.distinct_alterCommand type name distinct)

theorem tidy_addConstrainedColumn (tidy : IsTidy table) (name type : String)
    {change : ColumnConstraints → ColumnConstraints} (changeTidy : IsTidy change) :
    IsTidy (table.addConstrainedColumn name type change) := by
  refine tidy_pushCommand tidy "AT_AddColumn" none (Tree.distinct_of_mem_some ?_)
  exact distinct_constrained (Node.distinct_columnDefinition name type) (changeTidy .empty nofun)

theorem tidy_alterColumn (tidy : IsTidy table) (name : String)
    {change : ColumnChanges → Except Error ColumnChanges} (changeTidy : IsTidy change) :
    IsTidy (table.alterColumn name change) := by
  intro altered done
  cases changed : change (.empty name) with
  | error error => simp [alterColumn, changed, Except.map] at done
  | ok changes =>
      have commands := changeTidy (.empty name) nofun changes changed
      simp only [alterColumn, changed, Except.map, Except.ok.injEq] at done
      exact done ▸ Query.tidy_append tidy "cmds" commands

end AlterTable

theorem CreateIndex.tidy_start (name : String) : IsTidy (start name) := by
  change (Tree.object _).Distinct
  simp [Tree.distinct_object]

end SqlTree

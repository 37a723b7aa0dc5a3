import SqlTree.Proofs.Print.Expressions

/-!
# Statements side by side

One level of a FROM item, of a query and of a statement, printed for a family of trees. With the
level of expressions these are the four printers of `Printer.next`. What is assumed of the printers
below is what is shown of the printers above, so that the levels can be put on one another.
-/

namespace SqlTree.Print.Comparison

variable {ι : Type} {comparison : Comparison ι} {loose : Bool} {tree record : ι → Tree}
  {option : ι → Option Tree} {items : ι → List Tree} {slot : Option String}

/-! ## Nodes whose record is printed -/

theorem requiredRecord_bind (tree : Tree) (part : String) (print : Tree → Printed) :
    requiredRecord tree part >>= print =
      tree.record?.elim (.error (cannotPrint part)) print := by
  unfold requiredRecord
  cases tree.record? <;> rfl

theorem handles_requiredRecord {print : ι → Tree → Printed} (part : String)
    (handles : Handles comparison.Part comparison.Loose print) :
    Handles comparison.Part comparison.Loose fun index tree =>
      requiredRecord tree part >>= print index := by
  intro loose tree seen
  simp only [requiredRecord_bind]
  exact prints_elim (partOption_record? (comparison.shows seen)) (prints_error _) handles

/-- A node of one kind is printed by its record, and every other tree as an expression. -/
theorem handles_recordOf {print : ι → Tree → Printed} (kind : String)
    (handles : Handles comparison.Part comparison.Loose print) :
    Handles comparison.Part comparison.Loose fun index tree =>
      (tree.recordOf? kind).elim ((comparison.printer index).expression tree) (print index) :=
  fun _ _ part =>
    prints_elim (partOption_recordOf? (comparison.shows part) kind) (comparison.expression part)
      handles

theorem handles_target : Handles comparison.Part comparison.Loose fun index =>
    (comparison.printer index).target := by
  simp only [Handles, Printer.target_eq]
  exact handles_recordOf "ResTarget" fun _ _ part => prints_targetRecord (comparison.shows part)

theorem handles_assignment : Handles comparison.Part comparison.Loose fun index =>
    (comparison.printer index).assignment := by
  apply handles_requiredRecord "assignment"
  intro loose record part
  have seen := comparison.shows part
  rcases same_textOrEmpty seen "name" rfl with ⟨name, equal⟩
  simpa [equal, String.append_assoc] using
    prints_around (prints_required seen "val" rfl comparison.expression) (name ++ " = ") ""

theorem prints_sortRecord (seen : Shows comparison.Part loose record) :
    Prints comparison.Loose loose fun index =>
      (comparison.printer index).sortRecord (record index) := by
  rcases same_textAt? seen "sortby_dir" rfl with ⟨direction, directionEqual⟩
  rcases same_textAt? seen "sortby_nulls" rfl with ⟨nulls, nullsEqual⟩
  simpa [Printer.sortRecord, directionEqual, nullsEqual, String.append_assoc] using
    prints_around (prints_required seen "node" rfl comparison.expression) ""
      (Printer.directionText direction ++ Printer.nullsText nulls)

theorem handles_sortItem : Handles comparison.Part comparison.Loose fun index =>
    (comparison.printer index).sortItem := by
  simp only [Handles, Printer.sortItem_eq]
  exact handles_recordOf "SortBy" fun _ _ part => prints_sortRecord (comparison.shows part)

theorem handles_indexElement :
    Handles comparison.Part comparison.Loose fun _ => Printer.indexElement := by
  apply handles_requiredRecord "IndexElem"
  intro loose record part
  have seen := comparison.shows part
  exact prints_text ((same_textAt? seen "ordering" rfl).map₂ (same_textOrEmpty seen "name" rfl)
    fun ordering name => if ordering = some "SORTBY_DESC" then name ++ " DESC" else name)

/-! ## Relations and joins -/

theorem same_aliasName (seen : Shows comparison.Part loose record) :
    Same fun index => aliasName? (record index) := by
  rcases seen.record with ⟨slot, fields⟩
  exact same_bind (fields.field "alias" (by decide)) fun part =>
    same_textAt? (comparison.shows part) "aliasname" rfl

theorem same_relation (seen : Shows comparison.Part loose record) :
    Same fun index => relation (record index) := by
  rcases same_textAt? seen "schemaname" rfl with ⟨schema, schemaEqual⟩
  rcases same_textOrEmpty seen "relname" rfl with ⟨name, nameEqual⟩
  rcases same_aliasName seen with ⟨otherName, otherEqual⟩
  simp only [relation, schemaEqual, nameEqual, otherEqual]
  exact same_const _

theorem same_joinWords (seen : Shows comparison.Part loose record) :
    Same fun index => Printer.joinWords (record index) := by
  rcases seen.record with ⟨slot, fields⟩
  rcases same_textAt? seen "jointype" rfl with ⟨word, wordEqual⟩
  rcases same_isNone (fields.field "quals" (by decide)) with ⟨absent, absentEqual⟩
  simp only [Printer.joinWords, wordEqual, absentEqual]
  exact same_const _

theorem prints_join (seen : Shows comparison.Part loose record) :
    Prints comparison.Loose loose fun index =>
      (comparison.printer index).join (record index) := by
  rcases seen.record with ⟨slot, fields⟩
  have left := Reads.ofRequired fields "larg" rfl comparison.source
  have words : comparison.Reads slot [] _ :=
    .text ((same_joinWords seen).map fun words => " " ++ words ++ " ")
  have right := Reads.ofRequired fields "rarg" rfl comparison.source
  have condition := Reads.ofOptional fields "quals" rfl "ON" comparison.expression
  simp only [Printer.join_eq]
  exact ((left.cons (words.cons (right.cons (condition.cons .nil)))).concat (by decide)).prints
    fields.absent

theorem prints_subselect (seen : Shows comparison.Part loose record) :
    Prints comparison.Loose loose fun index =>
      (comparison.printer index).subselect (record index) := by
  rcases same_aliasName seen with ⟨name, equal⟩
  simpa [Printer.subselect, equal, String.append_assoc] using
    prints_around (prints_required seen "subquery" rfl comparison.statement) "("
      (") " ++ name.getD "")

theorem prints_sourceLevel (seen : Shows comparison.Part loose tree) :
    Prints comparison.Loose loose fun index =>
      (comparison.printer index).sourceLevel (tree index) := by
  unfold Printer.sourceLevel
  rcases seen.node.none_or_some with untagged | ⟨kind, record, part, tagged⟩
  · simp only [untagged]
    exact prints_error _
  · have seen := comparison.shows part
    simp only [tagged]
    by_cases isRelation : kind = "RangeVar"
    · subst isRelation
      exact prints_text (same_relation seen)
    by_cases isSubselect : kind = "RangeSubselect"
    · subst isSubselect
      exact prints_subselect seen
    by_cases isJoin : kind = "JoinExpr"
    · subst isJoin
      exact prints_join seen
    simpa [isRelation, isSubselect, isJoin] using prints_error (cannotPrint "FROM item")

/-! ## Queries -/

theorem handles_tableExpression : Handles comparison.Part comparison.Loose fun index =>
    (comparison.printer index).tableExpression := by
  apply handles_requiredRecord "CommonTableExpr"
  intro loose record part
  have seen := comparison.shows part
  rcases same_textOrEmpty seen "ctename" rfl with ⟨name, equal⟩
  simpa [equal, String.append_assoc] using
    prints_around (prints_required seen "ctequery" rfl comparison.statement) (name ++ " AS (") ")"

theorem prints_withClause (found : PartOption comparison.Part loose option) :
    Prints comparison.Loose loose fun index =>
      (comparison.printer index).withClause (option index) := by
  cases found with
  | none => exact prints_of_same (same_const _)
  | some part =>
      have seen := comparison.shows part
      rcases same_flagText seen "recursive" rfl "RECURSIVE " with ⟨word, equal⟩
      have tables := prints_commaList handles_tableExpression (partItems_itemsAt seen "ctes" rfl)
      simpa [Printer.withClause, equal, String.append_assoc] using
        prints_around tables ("WITH " ++ word) " "

theorem handles_valuesRow : Handles comparison.Part comparison.Loose fun index =>
    (comparison.printer index).valuesRow := by
  intro loose tree part
  have list := prints_commaList comparison.expression (partItems_ofNode (comparison.shows part))
  simpa [Printer.valuesRow] using prints_around list "(" ")"

theorem PartItems.filter (keep : Tree → Bool)
    (same : ∀ {loose : Bool} {tree : ι → Tree}, comparison.Part loose tree →
      Same fun index => keep (tree index))
    (parts : PartItems comparison.Part loose items) :
    PartItems comparison.Part loose fun index => (items index).filter keep := by
  induction parts with
  | nil => exact .nil _
  | first part others ih =>
      rcases same part with ⟨kept, equal⟩
      cases kept with
      | true => simpa [equal] using PartItems.first part ih
      | false => simpa [equal] using PartItems.weaken ih _
  | later part others ih =>
      rcases same part with ⟨kept, equal⟩
      cases kept with
      | true => simpa [equal] using PartItems.later part ih
      | false => simpa [equal] using ih

theorem same_isNode (part : comparison.Part loose tree) :
    Same fun index => (tree index).tagged?.isSome := by
  simpa [Tree.kind?] using (same_kind? (comparison.shows part)).map (·.isSome)

theorem prints_distinctClause (found : PartOption comparison.Part loose option) :
    Prints comparison.Loose loose fun index =>
      (comparison.printer index).distinctClause (option index) := by
  cases found with
  | none => exact prints_of_same (same_const _)
  | some part =>
      have parts := PartItems.filter (·.tagged?.isSome) same_isNode (comparison.shows part).items
      rcases same_isEmpty parts with ⟨empty, equal⟩
      have list := prints_commaList comparison.expression parts
      simp only [Printer.distinctClause, equal]
      split
      · exact prints_of_same (same_const _)
      · simpa [String.append_assoc] using prints_around list " DISTINCT ON (" ")"

theorem prints_targetClause (parts : PartItems comparison.Part loose items) :
    Prints comparison.Loose loose fun index =>
      (comparison.printer index).targetClause (items index) := by
  rcases same_isEmpty parts with ⟨empty, equal⟩
  simp only [Printer.targetClause, equal]
  split
  · exact prints_of_same (same_const _)
  · simpa using prints_around (prints_commaList handles_target parts) " " ""

theorem handles_lock : Handles comparison.Part comparison.Loose fun _ => Printer.lock := by
  intro loose tree part
  have strength : Same fun index => (tree index).record?.bind (·.textAt? "strength") :=
    same_bind (partOption_record? (comparison.shows part)) fun part =>
      same_textAt? (comparison.shows part) "strength" rfl
  rcases strength with ⟨word, equal⟩
  simp only [Printer.lock, equal]
  exact prints_of_same (same_const _)

theorem reads_setOperation (seen : Shows comparison.Part loose record)
    (fields : Slot comparison.Part loose record slot) (keyword : String) :
    comparison.Reads slot ["larg", "rarg"] fun index =>
      (comparison.printer index).setOperation (record index) keyword := by
  have left := Reads.ofRequired fields "larg" rfl comparison.select
  have words : comparison.Reads slot [] _ :=
    .text ((same_flagText seen "all" rfl " ALL").map fun all => " " ++ keyword ++ all ++ " ")
  have right := Reads.ofRequired fields "rarg" rfl comparison.select
  simp only [Printer.setOperation_eq]
  exact (left.cons (words.cons (right.cons .nil))).concat (by decide)

theorem reads_selectClauses (fields : Slot comparison.Part loose record slot) :
    comparison.Reads slot
      ["distinctClause", "targetList", "fromClause", "whereClause", "groupClause", "havingClause",
        "sortClause", "limitCount", "limitOffset", "lockingClause"] fun index =>
      (comparison.printer index).selectClauses (record index) := by
  have distinct := Reads.ofOption fields "distinctClause" rfl _ prints_distinctClause
  have targets := Reads.ofItems fields "targetList" rfl _ prints_targetClause
  have tables := Reads.ofListClause fields "fromClause" rfl "FROM" comparison.source
  have condition := Reads.ofOptional fields "whereClause" rfl "WHERE" comparison.expression
  have groups := Reads.ofListClause fields "groupClause" rfl "GROUP BY" comparison.expression
  have having := Reads.ofOptional fields "havingClause" rfl "HAVING" comparison.expression
  have order := Reads.ofListClause fields "sortClause" rfl "ORDER BY" handles_sortItem
  have limit := Reads.ofOptional fields "limitCount" rfl "LIMIT" comparison.expression
  have offset := Reads.ofOptional fields "limitOffset" rfl "OFFSET" comparison.expression
  have locks :=
    Reads.ofItems fields "lockingClause" rfl (fun _ items => joined "" items Printer.lock)
    (prints_joined handles_lock "")
  have start : comparison.Reads slot [] _ := .text (same_const "SELECT")
  simp only [Printer.selectClauses_eq]
  have all := start.cons <| distinct.cons <| targets.cons <| tables.cons <| condition.cons <|
    groups.cons <| having.cons <| order.cons <| limit.cons <| offset.cons <| locks.cons .nil
  exact all.concat (by decide)

/-- The fields that are printed behind the WITH clause. -/
def bodyKeys : List String :=
  ["larg", "rarg", "valuesLists", "distinctClause", "targetList", "fromClause", "whereClause",
    "groupClause", "havingClause", "sortClause", "limitCount", "limitOffset", "lockingClause"]

theorem reads_selectBody (seen : Shows comparison.Part loose record)
    (fields : Slot comparison.Part loose record slot) :
    comparison.Reads slot bodyKeys fun index =>
      (comparison.printer index).selectBody (record index) := by
  rcases (same_textAt? seen "op" rfl).map Printer.setKeyword? with ⟨keyword, keywordEqual⟩
  rcases same_isEmpty (partItems_itemsAt seen "valuesLists" rfl) with ⟨empty, emptyEqual⟩
  have rows := Reads.ofItems fields "valuesLists" rfl
    (fun index rows => do
      return "VALUES " ++ (← commaList rows (comparison.printer index).valuesRow))
    (fun parts => by
      simpa using prints_around (prints_commaList handles_valuesRow parts) "VALUES " "")
  simp only [Printer.selectBody, keywordEqual, emptyEqual]
  split
  · next keyword => exact (reads_setOperation seen fields keyword).mono (by decide)
  split
  · exact (reads_selectClauses fields).mono (by decide)
  · exact rows.mono (by decide)

theorem prints_selectLevel (seen : Shows comparison.Part loose record) :
    Prints comparison.Loose loose fun index =>
      (comparison.printer index).selectLevel (record index) := by
  rcases seen.record with ⟨slot, fields⟩
  have tables := Reads.ofOption fields "withClause" rfl _ prints_withClause
  have body := reads_selectBody seen fields
  simp only [Printer.selectLevel_eq]
  exact ((tables.cons (body.cons .nil)).concat (by decide)).prints fields.absent

/-! ## Changes of rows -/

theorem reads_returning (fields : Slot comparison.Part loose record slot) :
    comparison.Reads slot ["returningList"] fun index =>
      (comparison.printer index).returning (record index) :=
  .ofListClause fields "returningList" rfl "RETURNING" handles_target

theorem same_targetRelation (seen : Shows comparison.Part loose record) :
    Same fun index => Printer.targetRelation (record index) := by
  rcases seen.record with ⟨slot, fields⟩
  simp only [Printer.targetRelation, required_bind_eq]
  exact same_elim (fields.field "relation" (by decide)) _ _ fun part =>
    (same_relation (comparison.shows part)).map pure

theorem same_conflictColumns (seen : Shows comparison.Part loose record) :
    Same fun index => Printer.conflictColumns (record index) := by
  have columnName {loose : Bool} {tree : ι → Tree} (part : comparison.Part loose tree) :
      Same fun index => (tree index).record?.bind (·.textAt? "name") :=
    same_bind (partOption_record? (comparison.shows part)) fun part =>
      same_textAt? (comparison.shows part) "name" rfl
  rcases seen.record with ⟨slot, fields⟩
  have columns := same_elim (fields.field "infer" (by decide)) ""
    (fun columns => " (" ++ Text.join ", " ((columns.itemsAt "indexElems").filterMap fun element =>
      element.record?.bind (·.textAt? "name")) ++ ")")
    fun part =>
      (same_filterMap columnName (partItems_itemsAt (comparison.shows part) "indexElems" rfl)).map
        fun names => " (" ++ Text.join ", " names ++ ")"
  convert columns using 2 with index
  unfold Printer.conflictColumns
  cases (record index).get? "infer" <;> rfl

theorem prints_conflictClause (found : PartOption comparison.Part loose option) :
    Prints comparison.Loose loose fun index =>
      (comparison.printer index).conflictClause (option index) := by
  cases found with
  | none => exact prints_of_same (same_const _)
  | some part =>
      have seen := comparison.shows part
      rcases same_conflictColumns seen with ⟨columns, columnsEqual⟩
      rcases same_textAt? seen "action" rfl with ⟨word, wordEqual⟩
      have assignments :=
        prints_commaList handles_assignment (partItems_itemsAt seen "targetList" rfl)
      simp only [Printer.conflictClause, columnsEqual, wordEqual]
      split
      · simpa [String.append_assoc] using
          prints_around assignments (" ON CONFLICT" ++ columns ++ " DO UPDATE SET ") ""
      · exact prints_of_same (same_const _)

theorem prints_insertSource (found : PartOption comparison.Part loose option) :
    Prints comparison.Loose loose fun index =>
      (comparison.printer index).insertSource (option index) := by
  cases found with
  | none => exact prints_of_same (same_const _)
  | some part => simpa [Printer.insertSource] using prints_around (comparison.statement part) " " ""

theorem prints_insert (seen : Shows comparison.Part loose record) :
    Prints comparison.Loose loose fun index =>
      (comparison.printer index).insert (record index) := by
  rcases seen.record with ⟨slot, fields⟩
  have start : comparison.Reads slot [] _ := .text (same_const "INSERT INTO ")
  have table : comparison.Reads slot [] _ := .of_same [] (same_targetRelation seen)
  have columns := Reads.ofItems fields "cols" rfl
    (fun index items => Printer.enclosed "" items (comparison.printer index).target)
    (prints_enclosed handles_target "")
  have source := Reads.ofOption fields "selectStmt" rfl _ prints_insertSource
  have conflict := Reads.ofOption fields "onConflictClause" rfl _ prints_conflictClause
  have returned := reads_returning fields
  simp only [Printer.insert_eq]
  exact ((start.cons <| table.cons <| columns.cons <| source.cons <| conflict.cons <|
    returned.cons .nil).concat (by decide)).prints fields.absent

theorem prints_update (seen : Shows comparison.Part loose record) :
    Prints comparison.Loose loose fun index =>
      (comparison.printer index).update (record index) := by
  rcases seen.record with ⟨slot, fields⟩
  have start : comparison.Reads slot [] _ := .text (same_const "UPDATE ")
  have table : comparison.Reads slot [] _ := .of_same [] (same_targetRelation seen)
  have keyword : comparison.Reads slot [] _ := .text (same_const " SET ")
  have assignments := Reads.ofItems fields "targetList" rfl
    (fun index items => commaList items (comparison.printer index).assignment)
    (prints_commaList handles_assignment)
  have tables := Reads.ofListClause fields "fromClause" rfl "FROM" comparison.source
  have condition := Reads.ofOptional fields "whereClause" rfl "WHERE" comparison.expression
  have returned := reads_returning fields
  simp only [Printer.update_eq]
  exact ((start.cons <| table.cons <| keyword.cons <| assignments.cons <| tables.cons <|
    condition.cons <| returned.cons .nil).concat (by decide)).prints fields.absent

theorem prints_delete (seen : Shows comparison.Part loose record) :
    Prints comparison.Loose loose fun index =>
      (comparison.printer index).delete (record index) := by
  rcases seen.record with ⟨slot, fields⟩
  have start : comparison.Reads slot [] _ := .text (same_const "DELETE FROM ")
  have table : comparison.Reads slot [] _ := .of_same [] (same_targetRelation seen)
  have tables := Reads.ofListClause fields "usingClause" rfl "USING" comparison.source
  have condition := Reads.ofOptional fields "whereClause" rfl "WHERE" comparison.expression
  have returned := reads_returning fields
  simp only [Printer.delete_eq]
  exact ((start.cons <| table.cons <| tables.cons <| condition.cons <|
    returned.cons .nil).concat (by decide)).prints fields.absent

/-! ## Definitions -/

theorem same_reference (seen : Shows comparison.Part loose record) :
    Same fun index => Printer.reference (record index) := by
  rcases seen.record with ⟨slot, fields⟩
  rcases same_names seen "pk_attrs" rfl ", " with ⟨columns, columnsEqual⟩
  have table := same_elim (fields.field "pktable" (by decide)) (.error (cannotPrint "pktable"))
    (fun table => (pure (relation table) : Printed))
    fun part => (same_relation (comparison.shows part)).map pure
  have ownColumns := same_elim (fields.field "fk_attrs" (by decide)) ""
    (fun columns => "FOREIGN KEY (" ++ nameList columns.items ", " ++ ") ")
    fun part => (same_nameList (comparison.shows part).items ", ").map fun columns =>
      "FOREIGN KEY (" ++ columns ++ ") "
  convert table.map₂ ownColumns fun table ownColumns => do
    return ownColumns ++ "REFERENCES " ++ (← table) ++ " (" ++ columns ++ ")" using 2 with index
  simp only [Printer.reference, required_bind_eq, columnsEqual]
  cases (record index).get? "pktable" <;> cases (record index).get? "fk_attrs" <;>
    simp [← String.append_assoc]

theorem same_keyText (seen : Shows comparison.Part loose record) (isTableLevel : Bool)
    (keyword : String) : Same fun index => Printer.keyText (record index) isTableLevel keyword :=
  (same_names seen "keys" rfl ", ").map fun columns =>
    if isTableLevel then keyword ++ " (" ++ columns ++ ")" else keyword

theorem prints_constraint (seen : Shows comparison.Part loose record) (isTableLevel : Bool) :
    Prints comparison.Loose loose fun index =>
      (comparison.printer index).constraint (record index) isTableLevel := by
  rcases same_textAt? seen "contype" rfl with ⟨word, equal⟩
  have expression := prints_required seen "raw_expr" rfl comparison.expression
  simp only [Printer.constraint, equal]
  split
  · exact prints_of_same (same_const _)
  · exact prints_text (same_keyText seen isTableLevel "PRIMARY KEY")
  · exact prints_text (same_keyText seen isTableLevel "UNIQUE")
  · simpa using prints_around expression "DEFAULT " ""
  · simpa using prints_around expression "CHECK (" ")"
  · exact prints_of_same (same_reference seen)
  · exact prints_error _

theorem handles_columnConstraint : Handles comparison.Part comparison.Loose fun index =>
    (comparison.printer index).columnConstraint := by
  apply handles_requiredRecord "column constraint"
  intro loose record part
  simpa using prints_around (prints_constraint (comparison.shows part) false) " " ""

theorem prints_columnDefinition (seen : Shows comparison.Part loose record) :
    Prints comparison.Loose loose fun index =>
      (comparison.printer index).columnDefinition (record index) := by
  rcases seen.record with ⟨slot, fields⟩
  rcases same_textOrEmpty seen "colname" rfl with ⟨name, equal⟩
  have typeHandled : Handles comparison.Part comparison.Loose fun index type =>
      pure (name ++ " " ++ (comparison.printer index).typeName type) := by
    intro loose type part
    simpa using prints_around (prints_typeName (comparison.shows part)) (name ++ " ") ""
  have type := Reads.ofRequired fields "typeName" rfl typeHandled
  have constraints := Reads.ofItems fields "constraints" rfl
    (fun index items => joined "" items (comparison.printer index).columnConstraint)
    (prints_joined handles_columnConstraint "")
  simp only [Printer.columnDefinition_eq, equal]
  exact ((type.cons (constraints.cons .nil)).concat (by decide)).prints fields.absent

theorem handles_tableElement : Handles comparison.Part comparison.Loose fun index =>
    (comparison.printer index).tableElement := by
  intro loose tree part
  unfold Printer.tableElement
  rcases (comparison.shows part).node.none_or_some with
    untagged | ⟨kind, record, recordPart, tagged⟩
  · simp only [untagged]
    exact prints_error _
  · have seen := comparison.shows recordPart
    simp only [tagged]
    by_cases isColumn : kind = "ColumnDef"
    · subst isColumn
      exact prints_columnDefinition seen
    by_cases isConstraint : kind = "Constraint"
    · subst isConstraint
      exact prints_constraint seen true
    simpa [isColumn, isConstraint] using prints_error (cannotPrint "table element")

theorem prints_createTable (seen : Shows comparison.Part loose record) :
    Prints comparison.Loose loose fun index =>
      (comparison.printer index).createTable (record index) := by
  rcases same_flagText seen "if_not_exists" rfl "IF NOT EXISTS " with ⟨words, equal⟩
  have elements := prints_commaList handles_tableElement (partItems_itemsAt seen "tableElts" rfl)
  simp only [Printer.createTable, equal]
  apply prints_before_same elements (same_targetRelation seen)
  exact fun table => ⟨"CREATE TABLE " ++ words ++ table ++ " (", ")", fun elements => rfl⟩

theorem partOption_bind_record? (found : PartOption comparison.Part loose option) :
    PartOption comparison.Part loose fun index => (option index).bind (·.record?) := by
  cases found with
  | none => exact .none
  | some part => exact partOption_record? (comparison.shows part)

theorem prints_alterCommandOf (found : PartOption comparison.Part loose option)
    (word : Option String) (name : String) :
    Prints comparison.Loose loose fun index =>
      (comparison.printer index).alterCommandOf word name (option index) := by
  have column : Handles comparison.Part comparison.Loose fun index record =>
      ("ADD COLUMN " ++ ·) <$> (comparison.printer index).columnDefinition record := by
    intro loose record part
    simpa using prints_around (prints_columnDefinition (comparison.shows part)) "ADD COLUMN " ""
  have constraint : Handles comparison.Part comparison.Loose fun index record =>
      ("ADD " ++ ·) <$> (comparison.printer index).constraint record true := by
    intro loose record part
    simpa using prints_around (prints_constraint (comparison.shows part) true) "ADD " ""
  unfold Printer.alterCommandOf
  split
  · exact prints_elim found (prints_error _) column
  · exact prints_of_same (same_const _)
  · exact prints_of_same (same_const _)
  · exact prints_of_same (same_const _)
  · exact prints_elim found (prints_error _) constraint
  · exact prints_of_same (same_const _)
  · exact prints_error _

theorem handles_alterCommand : Handles comparison.Part comparison.Loose fun index =>
    (comparison.printer index).alterCommand := by
  simp only [Handles, Printer.alterCommand_eq]
  apply handles_requiredRecord "AlterTableCmd"
  intro loose record part
  have seen := comparison.shows part
  rcases seen.record with ⟨slot, fields⟩
  rcases same_textOrEmpty seen "name" rfl with ⟨name, nameEqual⟩
  rcases same_textAt? seen "subtype" rfl with ⟨word, wordEqual⟩
  have command := Reads.ofOption fields "def" rfl
    (fun index option => (comparison.printer index).alterCommandOf word name
      (option.bind (·.record?)))
    fun found => prints_alterCommandOf (partOption_bind_record? found) word name
  simp only [nameEqual, wordEqual]
  exact command.prints fields.absent

theorem prints_alterTable (seen : Shows comparison.Part loose record) :
    Prints comparison.Loose loose fun index =>
      (comparison.printer index).alterTable (record index) := by
  rcases same_flagText seen "missing_ok" rfl "IF EXISTS " with ⟨words, equal⟩
  have commands := prints_commaList handles_alterCommand (partItems_itemsAt seen "cmds" rfl)
  simp only [Printer.alterTable, equal]
  apply prints_before_same commands (same_targetRelation seen)
  exact fun table => ⟨"ALTER TABLE " ++ words ++ table ++ " ", "", fun commands => by simp⟩

theorem same_indexStart (seen : Shows comparison.Part loose record) :
    Same fun index => Printer.indexStart (record index) := by
  rcases same_flagText seen "unique" rfl "UNIQUE " with ⟨unique, uniqueEqual⟩
  rcases same_flagText seen "concurrent" rfl "CONCURRENTLY " with ⟨concurrent, concurrentEqual⟩
  rcases same_flagText seen "if_not_exists" rfl "IF NOT EXISTS " with ⟨absent, absentEqual⟩
  rcases same_textOrEmpty seen "idxname" rfl with ⟨name, nameEqual⟩
  simp only [Printer.indexStart, uniqueEqual, concurrentEqual, absentEqual, nameEqual]
  exact same_const _

theorem prints_createIndex (seen : Shows comparison.Part loose record) :
    Prints comparison.Loose loose fun index =>
      (comparison.printer index).createIndex (record index) := by
  rcases seen.record with ⟨slot, fields⟩
  have start : comparison.Reads slot [] _ := .text (same_indexStart seen)
  have table : comparison.Reads slot [] _ := .of_same [] (same_targetRelation seen)
  have method : comparison.Reads slot [] _ :=
    .text ((same_textAt? seen "accessMethod" rfl).map fun method =>
      Printer.methodText method ++ " (")
  have columns := Reads.ofItems fields "indexParams" rfl
    (fun _ items => commaList items Printer.indexElement) (prints_commaList handles_indexElement)
  have close : comparison.Reads slot [] _ := .text (same_const ")")
  have included := Reads.ofItems fields "indexIncludingParams" rfl
    (fun _ items => Printer.enclosed "INCLUDE " items Printer.indexElement)
    (prints_enclosed handles_indexElement "INCLUDE ")
  have condition := Reads.ofOptional fields "whereClause" rfl "WHERE" comparison.expression
  simp only [Printer.createIndex_eq]
  exact ((start.cons <| table.cons <| method.cons <| columns.cons <| close.cons <|
    included.cons <| condition.cons .nil).concat (by decide)).prints fields.absent

/-! ## Statements -/

theorem prints_statementOf (kind : String) (part : comparison.Part loose record) :
    Prints comparison.Loose loose fun index =>
      (comparison.printer index).statementOf kind (record index) := by
  have seen := comparison.shows part
  unfold Printer.statementOf
  split
  · exact comparison.select part
  · exact prints_insert seen
  · exact prints_update seen
  · exact prints_delete seen
  · exact prints_createTable seen
  · exact prints_alterTable seen
  · exact prints_createIndex seen
  · exact prints_error _

theorem prints_statementLevel (seen : Shows comparison.Part loose tree) :
    Prints comparison.Loose loose fun index =>
      (comparison.printer index).statementLevel (tree index) := by
  unfold Printer.statementLevel
  rcases seen.node.none_or_some with untagged | ⟨kind, record, part, tagged⟩
  · simp only [untagged]
    exact prints_error _
  · simp only [tagged]
    exact prints_statementOf kind part

/-! ## Levels on one another -/

/-- What is known of the printers of some level is known of the printers of the next. -/
def next (comparison : Comparison ι) : Comparison ι where
  toFamilies := comparison.toFamilies
  printer index := (comparison.printer index).next
  statement _ _ part := prints_statementLevel (comparison.shows part)
  select _ _ part := prints_selectLevel (comparison.shows part)
  source _ _ part := prints_sourceLevel (comparison.shows part)
  expression _ _ part := prints_expressionLevel (comparison.shows part)

/-- The printers of so many levels, for all members of a family. -/
def ofLevels (families : Families ι) : Nat → Comparison ι
  | 0 =>
      let refused {print : Tree → Printed} {fault : PrintError}
          (refuses : ∀ tree, print tree = .error fault) :
          Handles families.Part families.Loose fun _ => print := fun loose tree _ => by
        cases loose with
        | false => exact ⟨_, fun index => refuses (tree index)⟩
        | true => exact families.loose_of_same ⟨_, fun index => refuses (tree index)⟩
      { toFamilies := families
        printer := fun _ => .ofLevels 0
        statement := refused fun _ => rfl
        select := refused fun _ => rfl
        source := refused fun _ => rfl
        expression := refused fun _ => rfl }
  | levels + 1 => (ofLevels families levels).next

@[simp]
theorem toFamilies_ofLevels (families : Families ι) (levels : Nat) :
    (ofLevels families levels).toFamilies = families := by
  induction levels with
  | zero => rfl
  | succ levels ih => exact ih

@[simp]
theorem printer_ofLevels (families : Families ι) (levels : Nat) (index : ι) :
    (ofLevels families levels).printer index = .ofLevels levels := by
  induction levels with
  | zero => rfl
  | succ levels ih => exact congrArg Printer.next ih

theorem handles_statement (families : Families ι) (levels : Nat) :
    Handles families.Part families.Loose fun _ => (Printer.ofLevels levels).statement := by
  simpa only [toFamilies_ofLevels, printer_ofLevels] using (ofLevels families levels).statement

theorem handles_expression (families : Families ι) (levels : Nat) :
    Handles families.Part families.Loose fun _ => (Printer.ofLevels levels).expression := by
  simpa only [toFamilies_ofLevels, printer_ofLevels] using (ofLevels families levels).expression

/-! ## Shells -/

theorem shellEntry_eq (entry : Tree) :
    shellEntry entry =
      (entry.get? "stmt").elim (.error (cannotPrint "RawStmt")) Print.statement := by
  unfold shellEntry
  cases entry.get? "stmt" <;> rfl

/-- Shells are printed side by side as soon as their statements are. -/
theorem handles_shell (families : Families ι)
    (handled : Handles families.Part families.Loose fun _ => Print.statement) :
    Handles families.Part families.Loose fun _ => shell := by
  let comparison := ofLevels families 0
  have entries : Handles comparison.Part comparison.Loose fun _ => shellEntry := by
    intro loose entry part
    rcases (comparison.shows part).record with ⟨slot, fields⟩
    simp only [shellEntry_eq]
    exact (Reads.ofOption fields "stmt" rfl
      (fun _ found => found.elim (.error (cannotPrint "RawStmt")) Print.statement)
      fun found => prints_elim found (prints_error _) handled).prints fields.absent
  intro loose tree part
  exact prints_joined entries "; " (partItems_itemsAt (comparison.shows part) "stmts" rfl)

end SqlTree.Print.Comparison

import SqlTree.Print.Expression

/-!
# Printing statements

One level of a statement: its clauses in the order of the grammar. Where more than one part of a
statement cannot be printed, the part that is reached first is named.
-/

namespace SqlTree.Print.Printer

variable (printer : Printer)

/-! ## Items of clauses -/

def target (tree : Tree) : Printed :=
  match tree.recordOf? "ResTarget" with
  | some record => printer.targetRecord record
  | none => printer.expression tree

def assignment (tree : Tree) : Printed := do
  let record ← requiredRecord tree "assignment"
  let value ← printer.expression (← required record "val")
  return textOrEmpty record "name" ++ " = " ++ value

def directionText (word : Option String) : String :=
  match word with
  | some "SORTBY_ASC" => " ASC"
  | some "SORTBY_DESC" => " DESC"
  | _ => ""

def nullsText (word : Option String) : String :=
  match word with
  | some "SORTBY_NULLS_FIRST" => " NULLS FIRST"
  | some "SORTBY_NULLS_LAST" => " NULLS LAST"
  | _ => ""

def sortItem (tree : Tree) : Printed :=
  match tree.recordOf? "SortBy" with
  | some record => do
      let text ← printer.expression (← required record "node")
      return text ++ directionText (record.textAt? "sortby_dir") ++
        nullsText (record.textAt? "sortby_nulls")
  | none => printer.expression tree

def indexElement (tree : Tree) : Printed := do
  let record ← requiredRecord tree "IndexElem"
  let name := textOrEmpty record "name"
  return if record.textAt? "ordering" = some "SORTBY_DESC" then name ++ " DESC" else name

def joinWords (record : Tree) : String :=
  match record.textAt? "jointype" with
  | some "JOIN_LEFT" => "LEFT JOIN"
  | some "JOIN_RIGHT" => "RIGHT JOIN"
  | some "JOIN_FULL" => "FULL JOIN"
  | _ => if (record.get? "quals").isNone then "CROSS JOIN" else "JOIN"

def join (record : Tree) : Printed := do
  let left ← printer.source (← required record "larg")
  let right ← printer.source (← required record "rarg")
  let condition ← optionalClause "ON" (record.get? "quals") printer.expression
  return left ++ " " ++ joinWords record ++ " " ++ right ++ condition

def subselect (record : Tree) : Printed := do
  let query ← printer.statement (← required record "subquery")
  return "(" ++ query ++ ") " ++ (aliasName? record).getD ""

def sourceLevel (tree : Tree) : Printed :=
  match tree.tagged? with
  | some ("RangeVar", record) => .ok (relation record)
  | some ("RangeSubselect", record) => printer.subselect record
  | some ("JoinExpr", record) => printer.join record
  | _ => .error (cannotPrint "FROM item")

/-! ## SELECT -/

def tableExpression (tree : Tree) : Printed := do
  let record ← requiredRecord tree "CommonTableExpr"
  let query ← printer.statement (← required record "ctequery")
  return textOrEmpty record "ctename" ++ " AS (" ++ query ++ ")"

def withClause (clause : Option Tree) : Printed :=
  match clause with
  | some clause => do
      let tables ← commaList (clause.itemsAt "ctes") printer.tableExpression
      return "WITH " ++ flagText clause "recursive" "RECURSIVE " ++ tables ++ " "
  | none => .ok ""

def setKeyword? (word : Option String) : Option String :=
  match word with
  | some "SETOP_UNION" => some "UNION"
  | some "SETOP_EXCEPT" => some "EXCEPT"
  | some "SETOP_INTERSECT" => some "INTERSECT"
  | _ => none

def setOperation (record : Tree) (keyword : String) : Printed := do
  let left ← printer.select (← required record "larg")
  let right ← printer.select (← required record "rarg")
  return left ++ " " ++ keyword ++ flagText record "all" " ALL" ++ " " ++ right

def valuesRow (tree : Tree) : Printed := do
  let items := (tree.record?.map (·.itemsAt "items")).getD []
  return "(" ++ (← commaList items printer.expression) ++ ")"

def distinctClause (clause : Option Tree) : Printed :=
  match clause with
  | some clause =>
      let expressions := clause.items.filter (·.tagged?.isSome)
      if expressions.isEmpty then .ok " DISTINCT"
      else do return " DISTINCT ON (" ++ (← commaList expressions printer.expression) ++ ")"
  | none => .ok ""

def targetClause (items : List Tree) : Printed :=
  if items.isEmpty then .ok "" else do return " " ++ (← commaList items printer.target)

def lock (tree : Tree) : Printed :=
  match tree.record?.bind (·.textAt? "strength") with
  | some "LCS_FORUPDATE" => .ok " FOR UPDATE"
  | some "LCS_FORSHARE" => .ok " FOR SHARE"
  | _ => .error (cannotPrint "LockingClause")

def selectClauses (record : Tree) : Printed := do
  let distinct ← printer.distinctClause (record.get? "distinctClause")
  let targets ← printer.targetClause (record.itemsAt "targetList")
  let tables ← listClause "FROM" (record.itemsAt "fromClause") printer.source
  let condition ← optionalClause "WHERE" (record.get? "whereClause") printer.expression
  let groups ← listClause "GROUP BY" (record.itemsAt "groupClause") printer.expression
  let having ← optionalClause "HAVING" (record.get? "havingClause") printer.expression
  let order ← listClause "ORDER BY" (record.itemsAt "sortClause") printer.sortItem
  let limit ← optionalClause "LIMIT" (record.get? "limitCount") printer.expression
  let offset ← optionalClause "OFFSET" (record.get? "limitOffset") printer.expression
  let locks ← (record.itemsAt "lockingClause").mapM lock
  return "SELECT" ++ distinct ++ targets ++ tables ++ condition ++ groups ++ having ++ order ++
    limit ++ offset ++ Text.join "" locks

/-- What stands behind the WITH clause: a set operation, rows of values, or clauses. -/
def selectBody (record : Tree) : Printed :=
  match setKeyword? (record.textAt? "op") with
  | some keyword => printer.setOperation record keyword
  | none =>
      let rows := record.itemsAt "valuesLists"
      if rows.isEmpty then printer.selectClauses record
      else do return "VALUES " ++ (← commaList rows printer.valuesRow)

def selectLevel (record : Tree) : Printed := do
  let tables ← printer.withClause (record.get? "withClause")
  let body ← printer.selectBody record
  return tables ++ body

/-! ## Changes of rows -/

def returning (record : Tree) : Printed :=
  listClause "RETURNING" (record.itemsAt "returningList") printer.target

def targetRelation (record : Tree) : Printed := do return relation (← required record "relation")

def conflictColumns (clause : Tree) : String :=
  match clause.get? "infer" with
  | some columns =>
      let names := (columns.itemsAt "indexElems").filterMap fun element =>
        element.record?.bind (·.textAt? "name")
      " (" ++ Text.join ", " names ++ ")"
  | none => ""

def conflictClause (clause : Option Tree) : Printed :=
  match clause with
  | some clause => do
      let action ←
        match clause.textAt? "action" with
        | some "ONCONFLICT_UPDATE" => do
            pure (" DO UPDATE SET " ++
              (← commaList (clause.itemsAt "targetList") printer.assignment))
        | _ => pure " DO NOTHING"
      return " ON CONFLICT" ++ conflictColumns clause ++ action
  | none => .ok ""

def insert (record : Tree) : Printed := do
  let table ← targetRelation record
  let columns := record.itemsAt "cols"
  let columns ←
    if columns.isEmpty then pure ""
    else do pure (" (" ++ (← commaList columns printer.target) ++ ")")
  let source ←
    match record.get? "selectStmt" with
    | some source => do pure (" " ++ (← printer.statement source))
    | none => pure " DEFAULT VALUES"
  let conflict ← printer.conflictClause (record.get? "onConflictClause")
  let returned ← printer.returning record
  return "INSERT INTO " ++ table ++ columns ++ source ++ conflict ++ returned

def update (record : Tree) : Printed := do
  let table ← targetRelation record
  let assignments ← commaList (record.itemsAt "targetList") printer.assignment
  let tables ← listClause "FROM" (record.itemsAt "fromClause") printer.source
  let condition ← optionalClause "WHERE" (record.get? "whereClause") printer.expression
  let returned ← printer.returning record
  return "UPDATE " ++ table ++ " SET " ++ assignments ++ tables ++ condition ++ returned

def delete (record : Tree) : Printed := do
  let table ← targetRelation record
  let tables ← listClause "USING" (record.itemsAt "usingClause") printer.source
  let condition ← optionalClause "WHERE" (record.get? "whereClause") printer.expression
  let returned ← printer.returning record
  return "DELETE FROM " ++ table ++ tables ++ condition ++ returned

/-! ## Definitions -/

def reference (record : Tree) : Printed := do
  let table ← required record "pktable"
  let text := "REFERENCES " ++ relation table ++ " (" ++
    nameList (record.itemsAt "pk_attrs") ", " ++ ")"
  return match record.get? "fk_attrs" with
    | some columns => "FOREIGN KEY (" ++ nameList columns.items ", " ++ ") " ++ text
    | none => text

/-- The columns of a key, which the constraint of a single column does not name. -/
def keyText (record : Tree) (isTableLevel : Bool) (keyword : String) : String :=
  if isTableLevel then keyword ++ " (" ++ nameList (record.itemsAt "keys") ", " ++ ")" else keyword

def constraint (record : Tree) (isTableLevel : Bool) : Printed :=
  match record.textAt? "contype" with
  | some "CONSTR_NOTNULL" => .ok "NOT NULL"
  | some "CONSTR_PRIMARY" => .ok (keyText record isTableLevel "PRIMARY KEY")
  | some "CONSTR_UNIQUE" => .ok (keyText record isTableLevel "UNIQUE")
  | some "CONSTR_DEFAULT" => do
      return "DEFAULT " ++ (← printer.expression (← required record "raw_expr"))
  | some "CONSTR_CHECK" => do
      return "CHECK (" ++ (← printer.expression (← required record "raw_expr")) ++ ")"
  | some "CONSTR_FOREIGN" => reference record
  | _ => .error (cannotPrint "constraint type")

def columnConstraint (tree : Tree) : Printed := do
  let record ← requiredRecord tree "column constraint"
  return " " ++ (← printer.constraint record false)

def columnDefinition (record : Tree) : Printed := do
  let type ← required record "typeName"
  let constraints ← (record.itemsAt "constraints").mapM printer.columnConstraint
  return textOrEmpty record "colname" ++ " " ++ printer.typeName type ++ Text.join "" constraints

def tableElement (tree : Tree) : Printed :=
  match tree.tagged? with
  | some ("ColumnDef", record) => printer.columnDefinition record
  | some ("Constraint", record) => printer.constraint record true
  | _ => .error (cannotPrint "table element")

def createTable (record : Tree) : Printed := do
  let elements ← commaList (record.itemsAt "tableElts") printer.tableElement
  let table ← targetRelation record
  return "CREATE TABLE " ++ flagText record "if_not_exists" "IF NOT EXISTS " ++ table ++ " (" ++
    elements ++ ")"

def alterCommand (tree : Tree) : Printed := do
  let record ← requiredRecord tree "AlterTableCmd"
  let name := textOrEmpty record "name"
  match record.textAt? "subtype", (record.get? "def").bind (·.record?) with
  | some "AT_AddColumn", some definition => do
      return "ADD COLUMN " ++ (← printer.columnDefinition definition)
  | some "AT_DropColumn", _ => return "DROP COLUMN " ++ name
  | some "AT_SetNotNull", _ => return "ALTER COLUMN " ++ name ++ " SET NOT NULL"
  | some "AT_DropNotNull", _ => return "ALTER COLUMN " ++ name ++ " DROP NOT NULL"
  | some "AT_AddConstraint", some definition => do
      return "ADD " ++ (← printer.constraint definition true)
  | some "AT_DropConstraint", _ => return "DROP CONSTRAINT " ++ name
  | _, _ => .error (cannotPrint "AlterTableCmd subtype")

def alterTable (record : Tree) : Printed := do
  let commands ← commaList (record.itemsAt "cmds") printer.alterCommand
  let table ← targetRelation record
  return "ALTER TABLE " ++ flagText record "missing_ok" "IF EXISTS " ++ table ++ " " ++ commands

/-- The access method of an index, unless it is the usual one. -/
def methodText (method : Option String) : String :=
  match method with
  | some "btree" => ""
  | some method => " USING " ++ method
  | none => ""

def createIndex (record : Tree) : Printed := do
  let table ← targetRelation record
  let columns ← commaList (record.itemsAt "indexParams") indexElement
  let included := record.itemsAt "indexIncludingParams"
  let included ←
    if included.isEmpty then pure ""
    else do pure (" INCLUDE (" ++ (← commaList included indexElement) ++ ")")
  let condition ← optionalClause "WHERE" (record.get? "whereClause") printer.expression
  return "CREATE " ++ flagText record "unique" "UNIQUE " ++ "INDEX " ++
    flagText record "concurrent" "CONCURRENTLY " ++
    flagText record "if_not_exists" "IF NOT EXISTS " ++
    textOrEmpty record "idxname" ++ " ON " ++ table ++ methodText (record.textAt? "accessMethod") ++
    " (" ++ columns ++ ")" ++ included ++ condition

/-! ## Statements -/

def statementOf (kind : String) (record : Tree) : Printed :=
  match kind with
  | "SelectStmt" => printer.select record
  | "InsertStmt" => printer.insert record
  | "UpdateStmt" => printer.update record
  | "DeleteStmt" => printer.delete record
  | "CreateStmt" => printer.createTable record
  | "AlterTableStmt" => printer.alterTable record
  | "IndexStmt" => printer.createIndex record
  | other => .error (cannotPrint other)

def statementLevel (tree : Tree) : Printed :=
  match tree.tagged? with
  | some (kind, record) => printer.statementOf kind record
  | none => .error (cannotPrint "untagged statement")

end SqlTree.Print.Printer

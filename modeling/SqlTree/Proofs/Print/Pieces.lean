import SqlTree.Parser
import SqlTree.Print.Printer

/-!
# Printing as concatenation

A clause prints its parts one after another and puts their texts behind one another. `Print.concat`
is this on a list of pieces, and each printer of a record is shown to be the concatenation of
pieces that read one field each. Arguments about a whole statement then need to look at one piece
at a time.

Three printers report the faults of their parts in another order than they write the texts:
`Printer.subquery`, `Printer.createTable` and `Printer.alterTable`. They have no such form.
-/

namespace SqlTree.Print

section Outcomes

variable {α β : Type} (value : α) (fault : PrintError)

@[simp]
theorem ok_bind (next : α → Except PrintError β) : (Except.ok value >>= next) = next value := rfl

@[simp]
theorem error_bind (next : α → Except PrintError β) :
    (Except.error fault >>= next) = Except.error fault := rfl

@[simp]
theorem map_ok (change : α → β) :
    (change <$> Except.ok value : Except PrintError β) = Except.ok (change value) := rfl

@[simp]
theorem map_error (change : α → β) :
    (change <$> Except.error fault : Except PrintError β) = Except.error fault := rfl

end Outcomes

/-- The texts of the pieces behind one another, or the first fault among them. -/
def concat : List Printed → Printed
  | [] => .ok ""
  | piece :: rest => do
      let text ← piece
      let texts ← concat rest
      return text ++ texts

@[simp]
theorem concat_nil : concat [] = pure "" := rfl

@[simp]
theorem concat_cons (piece : Printed) (rest : List Printed) :
    concat (piece :: rest) = do
      let text ← piece
      let texts ← concat rest
      return text ++ texts := rfl

theorem concat_singleton (piece : Printed) : concat [piece] = piece := by
  simp only [concat_cons, concat_nil, pure_bind, String.append_empty, bind_pure]

theorem concat_append (front back : List Printed) :
    concat (front ++ back) = concat [concat front, concat back] := by
  induction front with
  | nil =>
      simp only [List.nil_append, concat_cons, concat_nil, pure_bind, String.append_empty,
        String.empty_append, bind_pure]
  | cons piece rest ih =>
      simp only [List.cons_append, concat_cons, concat_nil, ih, bind_assoc, pure_bind,
        String.append_empty, String.append_assoc]

/-- The pieces behind the first one can be put together on their own. -/
theorem concat_cons_concat (piece : Printed) (rest : List Printed) :
    concat (piece :: rest) = concat [piece, concat rest] := by
  have parts := concat_append [piece] rest
  rwa [concat_singleton] at parts

theorem concat_map_ok (texts : List String) :
    concat (texts.map .ok) = .ok (String.join texts) := by
  induction texts with
  | nil => rfl
  | cons text rest ih =>
      rw [List.map_cons, concat_cons, ok_bind, ih, ok_bind, String.join_cons]
      rfl

/-- The texts of the items with a separator between them. -/
def joined (separator : String) (items : List Tree) (print : Tree → Printed) : Printed := do
  return Text.join separator (← items.mapM print)

@[simp]
theorem joined_nil (separator : String) (print : Tree → Printed) :
    joined separator [] print = pure "" := rfl

@[simp]
theorem joined_singleton (separator : String) (item : Tree) (print : Tree → Printed) :
    joined separator [item] print = print item := by
  simp [joined, Text.join]

theorem joined_cons_cons (separator : String) (item next : Tree) (rest : List Tree)
    (print : Tree → Printed) :
    joined separator (item :: next :: rest) print = do
      return (← print item) ++ separator ++ (← joined separator (next :: rest) print) := by
  simp [joined, Text.join]

/-! ## Expressions -/

/-- A record that is not the constant of any other type, printed as a string. -/
def textLiteral (record : Tree) : Printed :=
  match record.get? "sval" with
  | some value => .ok (quote (textOrEmpty value "sval"))
  | none => .error (cannotPrint "A_Const")

theorem constant_eq (record : Tree) :
    constant record =
      if record.flagAt "isnull" then .ok "NULL"
      else (record.get? "ival").elim
        ((record.get? "fval").elim
          ((record.get? "boolval").elim (textLiteral record)
            fun value => .ok (if value.flagAt "boolval" then "true" else "false"))
          fun value => .ok ((value.textAt? "fval").getD "0"))
        fun value => .ok (toString (((value.get? "ival").bind (·.int?)).getD 0)) := by
  unfold constant textLiteral
  cases record.get? "ival" <;> cases record.get? "fval" <;> cases record.get? "boolval" <;> rfl

namespace Printer

variable (printer : Printer)

theorem rightHandSide_eq (record : Tree) (left : String) (right : Tree) :
    printer.rightHandSide record left right =
      concat [pure left, printer.rightHandSide record "" right] := by
  unfold rightHandSide
  split <;> simp [String.append_assoc]

theorem binary_eq (record : Tree) :
    printer.binary record =
      concat
        [required record "lexpr" >>= printer.expression,
          required record "rexpr" >>= printer.rightHandSide record ""] := by
  unfold binary
  simp only [concat_cons, concat_nil, bind_assoc, pure_bind, String.append_empty]
  congr 1
  funext left
  congr 1
  funext leftText
  congr 1
  funext right
  rw [rightHandSide_eq]
  simp

theorem cast_eq (record : Tree) :
    printer.cast record =
      concat
        [required record "arg" >>= printer.expression,
          required record "typeName" >>= fun type => pure ("::" ++ printer.typeName type)] := by
  simp [cast, String.append_assoc]

/-! ## Queries -/

theorem target_eq (tree : Tree) :
    printer.target tree =
      (tree.recordOf? "ResTarget").elim (printer.expression tree) printer.targetRecord := by
  unfold target
  cases tree.recordOf? "ResTarget" <;> rfl

def sortRecord (record : Tree) : Printed := do
  let text ← printer.expression (← required record "node")
  return text ++ directionText (record.textAt? "sortby_dir") ++
    nullsText (record.textAt? "sortby_nulls")

theorem sortItem_eq (tree : Tree) :
    printer.sortItem tree =
      (tree.recordOf? "SortBy").elim (printer.expression tree) printer.sortRecord := by
  unfold sortItem
  cases tree.recordOf? "SortBy" <;> rfl

theorem join_eq (record : Tree) :
    printer.join record =
      concat
        [required record "larg" >>= printer.source, pure (" " ++ joinWords record ++ " "),
          required record "rarg" >>= printer.source,
          optionalClause "ON" (record.get? "quals") printer.expression] := by
  simp [join, String.append_assoc]

theorem setOperation_eq (record : Tree) (keyword : String) :
    printer.setOperation record keyword =
      concat
        [required record "larg" >>= printer.select,
          pure (" " ++ keyword ++ flagText record "all" " ALL" ++ " "),
          required record "rarg" >>= printer.select] := by
  simp [setOperation, String.append_assoc]

theorem selectClauses_eq (record : Tree) :
    printer.selectClauses record =
      concat
        [pure "SELECT", printer.distinctClause (record.get? "distinctClause"),
          printer.targetClause (record.itemsAt "targetList"),
          listClause "FROM" (record.itemsAt "fromClause") printer.source,
          optionalClause "WHERE" (record.get? "whereClause") printer.expression,
          listClause "GROUP BY" (record.itemsAt "groupClause") printer.expression,
          optionalClause "HAVING" (record.get? "havingClause") printer.expression,
          listClause "ORDER BY" (record.itemsAt "sortClause") printer.sortItem,
          optionalClause "LIMIT" (record.get? "limitCount") printer.expression,
          optionalClause "OFFSET" (record.get? "limitOffset") printer.expression,
          joined "" (record.itemsAt "lockingClause") lock] := by
  simp [selectClauses, joined, String.append_assoc]

theorem selectLevel_eq (record : Tree) :
    printer.selectLevel record =
      concat [printer.withClause (record.get? "withClause"), printer.selectBody record] := by
  simp [selectLevel]

/-! ## Changes of rows -/

/-- A list in parentheses, behind a blank and a word. An empty list prints nothing. -/
def enclosed (word : String) (items : List Tree) (print : Tree → Printed) : Printed :=
  if items.isEmpty then pure ""
  else do return " " ++ word ++ "(" ++ (← commaList items print) ++ ")"

def insertSource (source : Option Tree) : Printed :=
  match source with
  | some source => do return " " ++ (← printer.statement source)
  | none => pure " DEFAULT VALUES"

theorem insert_eq (record : Tree) :
    printer.insert record =
      concat
        [pure "INSERT INTO ", targetRelation record,
          enclosed "" (record.itemsAt "cols") printer.target,
          printer.insertSource (record.get? "selectStmt"),
          printer.conflictClause (record.get? "onConflictClause"), printer.returning record] := by
  simp only [insert, enclosed, insertSource]
  cases record.get? "selectStmt" <;> split <;> simp [String.append_assoc]

theorem update_eq (record : Tree) :
    printer.update record =
      concat
        [pure "UPDATE ", targetRelation record, pure " SET ",
          commaList (record.itemsAt "targetList") printer.assignment,
          listClause "FROM" (record.itemsAt "fromClause") printer.source,
          optionalClause "WHERE" (record.get? "whereClause") printer.expression,
          printer.returning record] := by
  simp [update, String.append_assoc]

theorem delete_eq (record : Tree) :
    printer.delete record =
      concat
        [pure "DELETE FROM ", targetRelation record,
          listClause "USING" (record.itemsAt "usingClause") printer.source,
          optionalClause "WHERE" (record.get? "whereClause") printer.expression,
          printer.returning record] := by
  simp [delete, String.append_assoc]

/-! ## Definitions -/

theorem columnDefinition_eq (record : Tree) :
    printer.columnDefinition record =
      concat
        [required record "typeName" >>= fun type =>
            pure (textOrEmpty record "colname" ++ " " ++ printer.typeName type),
          joined "" (record.itemsAt "constraints") printer.columnConstraint] := by
  simp [columnDefinition, joined, String.append_assoc]

/-- The command of a word, with the record of the definition that it adds. -/
def alterCommandOf (word : Option String) (name : String) (definition : Option Tree) : Printed :=
  let fault : Printed := .error (cannotPrint "AlterTableCmd subtype")
  match word with
  | some "AT_AddColumn" =>
      definition.elim fault fun record => ("ADD COLUMN " ++ ·) <$> printer.columnDefinition record
  | some "AT_DropColumn" => return "DROP COLUMN " ++ name
  | some "AT_SetNotNull" => return "ALTER COLUMN " ++ name ++ " SET NOT NULL"
  | some "AT_DropNotNull" => return "ALTER COLUMN " ++ name ++ " DROP NOT NULL"
  | some "AT_AddConstraint" =>
      definition.elim fault fun record => ("ADD " ++ ·) <$> printer.constraint record true
  | some "AT_DropConstraint" => return "DROP CONSTRAINT " ++ name
  | _ => fault

theorem alterCommand_eq (tree : Tree) :
    printer.alterCommand tree = requiredRecord tree "AlterTableCmd" >>= fun record =>
      printer.alterCommandOf (record.textAt? "subtype") (textOrEmpty record "name")
        ((record.get? "def").bind (·.record?)) := by
  unfold alterCommand alterCommandOf
  congr 1
  funext record
  dsimp only
  generalize record.textAt? "subtype" = word
  generalize (record.get? "def").bind (·.record?) = definition
  cases definition <;> split <;> (try split) <;> simp_all

def indexStart (record : Tree) : String :=
  "CREATE " ++ flagText record "unique" "UNIQUE " ++ "INDEX " ++
    flagText record "concurrent" "CONCURRENTLY " ++
    flagText record "if_not_exists" "IF NOT EXISTS " ++ textOrEmpty record "idxname" ++ " ON "

theorem createIndex_eq (record : Tree) :
    printer.createIndex record =
      concat
        [pure (indexStart record), targetRelation record,
          pure (methodText (record.textAt? "accessMethod") ++ " ("),
          commaList (record.itemsAt "indexParams") indexElement, pure ")",
          enclosed "INCLUDE " (record.itemsAt "indexIncludingParams") indexElement,
          optionalClause "WHERE" (record.get? "whereClause") printer.expression] := by
  simp only [createIndex, enclosed, indexStart]
  split <;> simp [String.append_assoc]

end Printer

/-! ## Shells -/

/-- A shell whose only entry holds a statement is printed as this statement. -/
theorem shell_of_entry {tree entry body : Tree} (entries : tree.itemsAt "stmts" = [entry])
    (holds : entry.get? "stmt" = some body) : shell tree = statement body := by
  change joined "; " (tree.itemsAt "stmts") shellEntry = _
  rw [entries, joined_singleton, shellEntry, holds]

theorem shell_singleton (tree : Tree) : shell (.shell [tree]) = statement tree :=
  shell_of_entry rfl rfl

end SqlTree.Print

import SqlTree.Proofs.Statement.SelectCalls
import SqlTree.Statement.Builder

/-!
# Statements in the making

`Builder.Updated` relates a statement to what one of its updates makes of it, for arguments and
functions of any kind, and `Builder.Reached` holds of every statement that a start and updates lead
to. Nothing is said about the arguments: a column list may be empty, a condition may be any tree,
and a function may drop whatever is in a clause.

Each kind of statement has fields that are there from the start and that no update touches, and
fields that updates write. `Query.Shaped` says that a record has the former and at most the latter
in addition. Every statement that is reached has this shape.
-/

namespace SqlTree

namespace Builder

/--
One update of a statement, kind by kind. The updates of SELECT are calls. The two renamings of
ALTER TABLE always fail and are left out.
-/
inductive Updated : Builder → Builder → Prop
  | select {before after : Select} (call : Select.Call) (done : call.applyTo before = .ok after) :
      Updated (.select before) (.select after)
  | insertColumns (insert : Insert) (columns : List String) :
      Updated (.insert insert) (.insert (insert.columns columns))
  | mapInsertColumns (insert : Insert) (change : List Tree → List Tree) :
      Updated (.insert insert) (.insert (insert.mapColumns change))
  | values (insert : Insert) (row : List Operand) :
      Updated (.insert insert) (.insert (insert.values row))
  | addValues (insert : Insert) (row : List Operand) :
      Updated (.insert insert) (.insert (insert.addValues row))
  | fromSelect (insert : Insert) (source : Tree) :
      Updated (.insert insert) (.insert (insert.fromSelect source))
  | onConflict (insert : Insert) (clause : OnConflict) :
      Updated (.insert insert) (.insert (insert.onConflict clause))
  | insertReturning (insert : Insert) (columns : List Operand) :
      Updated (.insert insert) (.insert (insert.returning columns))
  | mapInsertReturning (insert : Insert) (change : List Tree → List Tree) :
      Updated (.insert insert) (.insert (insert.mapReturning change))
  | assign (update : Update) (assignments : List (String × Operand)) :
      Updated (.update update) (.update (update.set assignments))
  | mapAssignments (update : Update) (change : List Tree → List Tree) :
      Updated (.update update) (.update (update.mapAssignments change))
  | updateFilter (update : Update) (condition : Option Tree) :
      Updated (.update update) (.update (update.filter condition))
  | mapUpdateFilter (update : Update) (change : Option Tree → Option Tree) :
      Updated (.update update) (.update (update.mapFilter change))
  | updateFrom (update : Update) (table : TableRef) :
      Updated (.update update) (.update (update.fromTable table))
  | mapUpdateFrom (update : Update) (change : List Tree → List Tree) :
      Updated (.update update) (.update (update.mapFrom change))
  | updateReturning (update : Update) (columns : List Operand) :
      Updated (.update update) (.update (update.returning columns))
  | mapUpdateReturning (update : Update) (change : List Tree → List Tree) :
      Updated (.update update) (.update (update.mapReturning change))
  | deleteFilter (delete : Delete) (condition : Option Tree) :
      Updated (.delete delete) (.delete (delete.filter condition))
  | mapDeleteFilter (delete : Delete) (change : Option Tree → Option Tree) :
      Updated (.delete delete) (.delete (delete.mapFilter change))
  | usingTable (delete : Delete) (table : TableRef) :
      Updated (.delete delete) (.delete (delete.usingTable table))
  | mapUsing (delete : Delete) (change : List Tree → List Tree) :
      Updated (.delete delete) (.delete (delete.mapUsing change))
  | deleteReturning (delete : Delete) (columns : List Operand) :
      Updated (.delete delete) (.delete (delete.returning columns))
  | mapDeleteReturning (delete : Delete) (change : List Tree → List Tree) :
      Updated (.delete delete) (.delete (delete.mapReturning change))
  | column (table : CreateTable) (name type : String) :
      Updated (.createTable table) (.createTable (table.column name type))
  | constrainedColumn (table : CreateTable) (name type : String)
      (change : ColumnConstraints → ColumnConstraints) :
      Updated (.createTable table) (.createTable (table.constrainedColumn name type change))
  | alterDefinition (table : CreateTable) (name : String)
      (change : ColumnConstraints → ColumnConstraints) :
      Updated (.createTable table) (.createTable (table.alterColumn name change))
  | mapDefinitions (table : CreateTable) (change : List Tree → List Tree) :
      Updated (.createTable table) (.createTable (table.mapColumns change))
  | dropDefinition (table : CreateTable) (name : String) :
      Updated (.createTable table) (.createTable (table.dropColumn name))
  | primaryKey (table : CreateTable) (columns : List String) :
      Updated (.createTable table) (.createTable (table.primaryKey columns))
  | unique (table : CreateTable) (columns : List String) :
      Updated (.createTable table) (.createTable (table.unique columns))
  | check (table : CreateTable) (condition : Tree) :
      Updated (.createTable table) (.createTable (table.check condition))
  | foreignKey (table : CreateTable) (columns : List String) (other : String)
      (referenced : List String) :
      Updated (.createTable table) (.createTable (table.foreignKey columns other referenced))
  | tableIfNotExists (table : CreateTable) :
      Updated (.createTable table) (.createTable table.ifNotExists)
  | addColumn (table : AlterTable) (name type : String) :
      Updated (.alterTable table) (.alterTable (table.addColumn name type))
  | addConstrainedColumn (table : AlterTable) (name type : String)
      (change : ColumnConstraints → ColumnConstraints) :
      Updated (.alterTable table) (.alterTable (table.addConstrainedColumn name type change))
  | dropColumn (table : AlterTable) (name : String) :
      Updated (.alterTable table) (.alterTable (table.dropColumn name))
  | alterColumn {before after : AlterTable} (name : String)
      (change : ColumnChanges → Except Error ColumnChanges)
      (done : before.alterColumn name change = .ok after) :
      Updated (.alterTable before) (.alterTable after)
  | addConstraint (table : AlterTable) (constraint : Tree) :
      Updated (.alterTable table) (.alterTable (table.addConstraint constraint))
  | dropConstraint (table : AlterTable) (name : String) :
      Updated (.alterTable table) (.alterTable (table.dropConstraint name))
  | ifExists (table : AlterTable) : Updated (.alterTable table) (.alterTable table.ifExists)
  | on (index : CreateIndex) (table : String) :
      Updated (.createIndex index) (.createIndex (index.on table))
  | onSchema (index : CreateIndex) (table schema : String) :
      Updated (.createIndex index) (.createIndex (index.onSchema table schema))
  | indexColumns (index : CreateIndex) (columns : List String) :
      Updated (.createIndex index) (.createIndex (index.columns columns))
  | mapIndexColumns (index : CreateIndex) (change : List Tree → List Tree) :
      Updated (.createIndex index) (.createIndex (index.mapColumns change))
  | including (index : CreateIndex) (columns : List String) :
      Updated (.createIndex index) (.createIndex (index.including columns))
  | usingMethod (index : CreateIndex) (method : String) :
      Updated (.createIndex index) (.createIndex (index.usingMethod method))
  | uniqueIndex (index : CreateIndex) :
      Updated (.createIndex index) (.createIndex index.unique)
  | concurrently (index : CreateIndex) :
      Updated (.createIndex index) (.createIndex index.concurrently)
  | indexIfNotExists (index : CreateIndex) :
      Updated (.createIndex index) (.createIndex index.ifNotExists)
  | indexFilter (index : CreateIndex) (condition : Option Tree) :
      Updated (.createIndex index) (.createIndex (index.filter condition))
  | mapIndexFilter (index : CreateIndex) (change : Option Tree → Option Tree) :
      Updated (.createIndex index) (.createIndex (index.mapFilter change))

/--
The statements that a start and updates lead to. A set operation makes a new statement over the one
that is there.
-/
inductive Reached : Builder → Prop
  | select (columns : List Operand) : Reached (.select (.start columns))
  | insert (table : TableRef) : Reached (.insert (.start table))
  | update (table : TableRef) : Reached (.update (.start table))
  | delete (table : TableRef) : Reached (.delete (.start table))
  | createTable (table : TableRef) : Reached (.createTable (.start table))
  | alterTable (table : TableRef) : Reached (.alterTable (.start table))
  | createIndex (name : String) : Reached (.createIndex (.start name))
  | combine {select : Select} (operation : SetOperation) (all : Bool) (other : Tree) :
      Reached (.select select) → Reached (.select (select.combine operation all other))
  | step {before after : Builder} : Reached before → Updated before after → Reached after

end Builder

/-! ## The fields of each kind -/

namespace StatementKind

/-- The fields that are there from the start and stay. -/
def keptFields : StatementKind → List String
  | .select => ["op"]
  | .insert => ["relation", "override"]
  | .update | .delete => ["relation"]
  | .createTable => ["relation", "oncommit"]
  | .alterTable => ["relation", "objtype"]
  | .createIndex => ["idxname"]

/-- The fields that updates write, and those of the arms of a set operation. -/
def clauseFields : StatementKind → List String
  | .select =>
      ["targetList", "distinctClause", "fromClause", "whereClause", "havingClause", "groupClause",
        "sortClause", "limitCount", "limitOption", "limitOffset", "withClause", "lockingClause",
        "all", "larg", "rarg"]
  | .insert => ["cols", "selectStmt", "onConflictClause", "returningList"]
  | .update => ["targetList", "whereClause", "fromClause", "returningList"]
  | .delete => ["whereClause", "usingClause", "returningList"]
  | .createTable => ["tableElts", "if_not_exists"]
  | .alterTable => ["cmds", "missing_ok"]
  | .createIndex =>
      ["relation", "accessMethod", "indexParams", "indexIncludingParams", "unique", "concurrent",
        "if_not_exists", "whereClause"]

def fields (kind : StatementKind) : List String := kind.keptFields ++ kind.clauseFields

theorem not_mem_clauseFields_of_mem_keptFields {kind : StatementKind} :
    ∀ key ∈ kind.keptFields, key ∉ kind.clauseFields := by
  cases kind <;> decide

end StatementKind

theorem Select.Clause.mem_clauseFields_of_ofField? {key : String} {clause : Select.Clause}
    (belongs : ofField? key = some clause) : key ∈ StatementKind.select.clauseFields := by
  unfold ofField? at belongs
  split at belongs
  case h_13 => cases belongs
  all_goals decide

open Query (ChangedIn)

theorem Select.Call.changedIn {call : Select.Call} {before after : Select}
    (done : call.applyTo before = .ok after) :
    ChangedIn StatementKind.select.clauseFields before.query after.query := by
  rcases exists_writes done with ⟨writes, own, written⟩
  refine ⟨writes, ?_, written⟩
  intro write mem
  exact Clause.mem_clauseFields_of_ofField? (own write mem)

/-- Altering a column that is not defined does nothing. -/
theorem CreateTable.alterColumn_cases (table : CreateTable) (name : String)
    (change : ColumnConstraints → ColumnConstraints) :
    table.alterColumn name change = table ∨
      ∃ redefine, table.alterColumn name change = ⟨table.query.mapList "tableElts" redefine⟩ := by
  unfold alterColumn
  split
  · exact .inl rfl
  · exact .inr ⟨_, rfl⟩

theorem CreateTable.changedIn_alterColumn (table : CreateTable) (name : String)
    (change : ColumnConstraints → ColumnConstraints) :
    ChangedIn StatementKind.createTable.clauseFields table.query
      (table.alterColumn name change).query := by
  rcases table.alterColumn_cases name change with same | ⟨redefine, altered⟩
  · rw [same]
    exact .refl _
  · rw [altered]
    exact .mapList (by decide) _ _

theorem AlterTable.exists_commands_of_alterColumn {before after : AlterTable} {name : String}
    {change : ColumnChanges → Except Error ColumnChanges}
    (done : before.alterColumn name change = .ok after) :
    ∃ commands, after = ⟨before.query.append "cmds" commands⟩ := by
  unfold alterColumn at done
  cases changed : change (.empty name) with
  | error error =>
      rw [changed] at done
      cases done
  | ok changes =>
      rw [changed] at done
      cases done
      exact ⟨_, rfl⟩

theorem AlterTable.changedIn_alterColumn {before after : AlterTable} {name : String}
    {change : ColumnChanges → Except Error ColumnChanges}
    (done : before.alterColumn name change = .ok after) :
    ChangedIn StatementKind.alterTable.clauseFields before.query after.query := by
  rcases exists_commands_of_alterColumn done with ⟨commands, rfl⟩
  exact .append (by decide) _ _

namespace Builder

/-- An update changes no more than the clauses of its kind of statement. -/
theorem Updated.changedIn {before after : Builder} (updated : Updated before after) :
    ∃ kind, before.statement? = some kind ∧ after.statement? = some kind ∧
      ChangedIn kind.clauseFields before.toQuery after.toQuery := by
  cases updated with
  | select call done => exact ⟨.select, rfl, rfl, Select.Call.changedIn done⟩
  | insertColumns | insertReturning => exact ⟨.insert, rfl, rfl, .append (by decide) _ _⟩
  | mapInsertColumns | mapInsertReturning => exact ⟨.insert, rfl, rfl, .mapList (by decide) _ _⟩
  | values | addValues | fromSelect | onConflict =>
      exact ⟨.insert, rfl, rfl, .set (by decide) _ _⟩
  | assign => exact ⟨.update, rfl, rfl, .setList (by decide) _ _⟩
  | updateFrom | updateReturning => exact ⟨.update, rfl, rfl, .append (by decide) _ _⟩
  | mapAssignments | mapUpdateFrom | mapUpdateReturning =>
      exact ⟨.update, rfl, rfl, .mapList (by decide) _ _⟩
  | updateFilter => exact ⟨.update, rfl, rfl, .restrict (by decide) _ _⟩
  | mapUpdateFilter => exact ⟨.update, rfl, rfl, .mapOption (by decide) _ _⟩
  | usingTable | deleteReturning => exact ⟨.delete, rfl, rfl, .append (by decide) _ _⟩
  | mapUsing | mapDeleteReturning => exact ⟨.delete, rfl, rfl, .mapList (by decide) _ _⟩
  | deleteFilter => exact ⟨.delete, rfl, rfl, .restrict (by decide) _ _⟩
  | mapDeleteFilter => exact ⟨.delete, rfl, rfl, .mapOption (by decide) _ _⟩
  | column | constrainedColumn | mapDefinitions | dropDefinition =>
      exact ⟨.createTable, rfl, rfl, .mapList (by decide) _ _⟩
  | alterDefinition table name change =>
      exact ⟨.createTable, rfl, rfl, table.changedIn_alterColumn name change⟩
  | primaryKey | unique | check | foreignKey =>
      exact ⟨.createTable, rfl, rfl, .append (by decide) _ _⟩
  | tableIfNotExists => exact ⟨.createTable, rfl, rfl, .set (by decide) _ _⟩
  | addColumn | addConstrainedColumn | dropColumn | addConstraint | dropConstraint =>
      exact ⟨.alterTable, rfl, rfl, .append (by decide) _ _⟩
  | alterColumn name change done =>
      exact ⟨.alterTable, rfl, rfl, AlterTable.changedIn_alterColumn done⟩
  | ifExists => exact ⟨.alterTable, rfl, rfl, .set (by decide) _ _⟩
  | on | onSchema | usingMethod | uniqueIndex | concurrently | indexIfNotExists =>
      exact ⟨.createIndex, rfl, rfl, .set (by decide) _ _⟩
  | indexColumns | including => exact ⟨.createIndex, rfl, rfl, .append (by decide) _ _⟩
  | mapIndexColumns => exact ⟨.createIndex, rfl, rfl, .mapList (by decide) _ _⟩
  | indexFilter => exact ⟨.createIndex, rfl, rfl, .restrict (by decide) _ _⟩
  | mapIndexFilter => exact ⟨.createIndex, rfl, rfl, .mapOption (by decide) _ _⟩

end Builder

/-! ## The shape of a statement -/

/-- A statement of a kind in the making: its record has the fields of the kind and no other. -/
structure Query.Shaped (kind : StatementKind) (query : Query) : Prop where
  kindName : query.kind = some kind.name
  parser : query.parser = none
  object : query.record.isObject = true
  known : ∀ key ∈ Fields.keys query.record.fields, key ∈ kind.fields
  kept : ∀ key ∈ kind.keptFields, key ∈ Fields.keys query.record.fields

namespace Query.Shaped

variable {kind : StatementKind}

theorem of_names {query : Query} {pairs : List (String × Tree)}
    (kindName : query.kind = some kind.name) (parser : query.parser = none)
    (record : query.record = .object pairs) (names : List String)
    (keys : Fields.keys pairs = names) (known : ∀ key ∈ names, key ∈ kind.fields)
    (kept : ∀ key ∈ kind.keptFields, key ∈ names) : Shaped kind query := by
  subst keys
  refine ⟨kindName, parser, ?_, ?_, ?_⟩
  · rw [record]
    rfl
  · rw [record]
    exact known
  · rw [record]
    exact kept

theorem ofKind {pairs : List (String × Tree)} (names : List String)
    (keys : Fields.keys pairs = names) (known : ∀ key ∈ names, key ∈ kind.fields)
    (kept : ∀ key ∈ kind.keptFields, key ∈ names) :
    Shaped kind (.ofKind kind (.object pairs)) :=
  of_names rfl rfl rfl names keys known kept

/-- The step: what changes only clauses of its kind keeps the shape. -/
theorem changed {before after : Query} (shaped : Shaped kind before)
    (changed : ChangedIn kind.clauseFields before after) : Shaped kind after where
  kindName := changed.kind.trans shaped.kindName
  parser := changed.parser.trans shaped.parser
  object := changed.isObject shaped.object
  known := by
    intro key mem
    by_cases clause : key ∈ kind.clauseFields
    · exact List.mem_append_right _ clause
    · rw [← Fields.get?_isSome, ← Tree.get?, changed.get?_of_not_mem clause] at mem
      exact shaped.known key ((Fields.get?_isSome key _).mp mem)
  kept := by
    intro key mem
    have stays := StatementKind.not_mem_clauseFields_of_mem_keptFields key mem
    rw [← Fields.get?_isSome, ← Tree.get?, changed.get?_of_not_mem stays]
    exact (Fields.get?_isSome key _).mpr (shaped.kept key mem)

theorem select_start (columns : List Operand) : Shaped .select (Select.start columns).query := by
  unfold Select.start
  dsimp only
  split
  · exact .ofKind ["limitOption", "op"] rfl (by decide) (by decide)
  · exact .ofKind ["targetList", "limitOption", "op"] rfl (by decide) (by decide)

/-- A set operation starts from a record of its own. -/
theorem select_combine {select : Select} (shaped : Shaped .select select.query)
    (operation : SetOperation) (all : Bool) (other : Tree) :
    Shaped .select (select.combine operation all other).query := by
  cases all with
  | true =>
      exact .of_names shaped.kindName shaped.parser rfl
        ["op", "all", "larg", "rarg", "limitOption"] rfl (by decide) (by decide)
  | false =>
      exact .of_names shaped.kindName shaped.parser rfl
        ["op", "larg", "rarg", "limitOption"] rfl (by decide) (by decide)

end Query.Shaped

open Query (Shaped)

/-- The run: every statement that is reached has the shape of its kind. -/
theorem Builder.Reached.shaped {builder : Builder} (reached : Reached builder) :
    ∃ kind, builder.statement? = some kind ∧ Shaped kind builder.toQuery := by
  induction reached with
  | select columns => exact ⟨.select, rfl, .select_start columns⟩
  | insert => exact ⟨.insert, rfl, .ofKind ["relation", "override"] rfl (by decide) (by decide)⟩
  | update => exact ⟨.update, rfl, .ofKind ["relation"] rfl (by decide) (by decide)⟩
  | delete => exact ⟨.delete, rfl, .ofKind ["relation"] rfl (by decide) (by decide)⟩
  | createTable =>
      exact ⟨.createTable, rfl, .ofKind ["relation", "oncommit"] rfl (by decide) (by decide)⟩
  | alterTable =>
      exact ⟨.alterTable, rfl, .ofKind ["relation", "objtype"] rfl (by decide) (by decide)⟩
  | createIndex =>
      exact ⟨.createIndex, rfl, .ofKind ["idxname", "accessMethod"] rfl (by decide) (by decide)⟩
  | combine operation all other reached ih =>
      rcases ih with ⟨kind, same, shaped⟩
      cases same
      exact ⟨.select, rfl, shaped.select_combine operation all other⟩
  | step reached updated ih =>
      rcases ih with ⟨kind, same, shaped⟩
      rcases updated.changedIn with ⟨found, before, after, changed⟩
      obtain rfl : kind = found := Option.some.inj (same.symm.trans before)
      exact ⟨kind, after, shaped.changed changed⟩

end SqlTree

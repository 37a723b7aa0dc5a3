import SqlTree.Statement.Builder

/-!
# What can be built

`Built` describes everything that the factories and the updates of the library give: expressions
from columns, constants, parameters, calls, casts, operators and subqueries; tables from names and
subqueries; and statements from a start and updates in any order. The parts of a statement are
built in turn, and a statement may stand inside another one.

Left out are the updates by a function of what is there, since such a function can put anything into
a statement, and constraints that are given as nodes. The comparisons and the arithmetic operators
are `Expr.binary` at their names. A column whose constraints are changed takes a function, but only
one that is put together from the updates of `ColumnConstraints` and `ColumnChanges`.
-/

namespace SqlTree

/-- What can be built: the parts of statements, and statements. -/
inductive Construct where
  | operand (operand : Operand)
  | expression (tree : Tree)
  | condition (condition : Option Tree)
  /-- An operand as an output column, which may have a name. -/
  | output (operand : Operand)
  /-- An operand as an item of ORDER BY, which may have a direction. -/
  | order (operand : Operand)
  | table (table : TableRef)
  | conflict (clause : OnConflict)
  | constraints (change : ColumnConstraints → ColumnConstraints)
  | changes (change : ColumnChanges → ColumnChanges)
  /-- An index, which has a table from some point on. -/
  | index (hasTable : Bool) (index : CreateIndex)
  | statement (builder : Builder)

/--
The values that the factories and the updates give: operands, expressions and conditions, then what
stands in a clause, then the statements, kind by kind, each with what only its updates take.
-/
inductive Built : Construct → Prop where
  | text (value : String) : Built (.operand (.text value))
  | int (value : Int) : Built (.operand (.int value))
  | float (value : Binary64) : Built (.operand (.float value))
  | bool (value : Bool) : Built (.operand (.bool value))
  | null : Built (.operand .null)
  | node {tree : Tree} : Built (.expression tree) → Built (.operand (.node tree))
  | column (name : String) : Built (.expression (Node.column name))
  | star : Built (.expression Node.star)
  | starOf (table : String) : Built (.expression (Node.starOf table))
  | value {value : Operand} : Built (.operand value) → Built (.expression value.literal)
  | parameter (number : Nat) : Built (.expression (Node.parameter number))
  | call (name : String) {operands : List Operand} :
      (∀ operand ∈ operands, Built (.operand operand)) →
      Built (.expression (Node.call name operands))
  | cast {value : Operand} (type : String) :
      Built (.operand value) → Built (.expression (Node.cast value type))
  | binary (operator : String) {left right : Operand} :
      Built (.operand left) → Built (.operand right) →
      Built (.expression (Expr.binary operator left right))
  | like {value pattern : Operand} :
      Built (.operand value) → Built (.operand pattern) →
      Built (.expression (Expr.like value pattern))
  | likeIgnoringCase {value pattern : Operand} :
      Built (.operand value) → Built (.operand pattern) →
      Built (.expression (Expr.likeIgnoringCase value pattern))
  | between {value low high : Operand} :
      Built (.operand value) → Built (.operand low) → Built (.operand high) →
      Built (.expression (Expr.between value low high))
  | isIn {value : Operand} {values : List Operand} :
      Built (.operand value) → (∀ item ∈ values, Built (.operand item)) →
      Built (.expression (Expr.isIn value values))
  | negation {value : Operand} :
      Built (.operand value) → Built (.expression (Expr.negation value))
  | isNull {value : Operand} : Built (.operand value) → Built (.expression (Expr.isNull value))
  | isNotNull {value : Operand} :
      Built (.operand value) → Built (.expression (Expr.isNotNull value))
  | rowExists {select : Select} :
      Built (.statement (.select select)) →
      Built (.expression (Expr.rowExists (Statement.toNode select)))
  | isInQuery {value : Operand} {select : Select} :
      Built (.operand value) → Built (.statement (.select select)) →
      Built (.expression (Expr.isInQuery value (Statement.toNode select)))
  | present {tree : Tree} : Built (.condition (some tree)) → Built (.expression tree)
  | absent : Built (.condition none)
  | given {tree : Tree} : Built (.expression tree) → Built (.condition (some tree))
  | conjunction {conditions : List (Option Tree)} :
      (∀ item ∈ conditions, Built (.condition item)) →
      Built (.condition (Expr.conjunction conditions))
  | disjunction {conditions : List (Option Tree)} :
      (∀ item ∈ conditions, Built (.condition item)) →
      Built (.condition (Expr.disjunction conditions))
  | unnamed {value : Operand} : Built (.operand value) → Built (.output value)
  | aliased {value : Operand} (name : String) :
      Built (.operand value) → Built (.output (.node (Node.aliased value name)))
  | unsorted {value : Operand} : Built (.operand value) → Built (.order value)
  | sorted {value : Operand} (direction : SortDirection) (nulls : NullsOrder) :
      Built (.operand value) → Built (.order (.node (Node.sortItem value direction nulls)))
  | named (name : String) : Built (.table (.named name))
  | tableAs (name otherName : String) : Built (.table (.node (Node.tableAs name otherName)))
  | subselect {select : Select} (name : String) :
      Built (.statement (.select select)) →
      Built (.table (.node (Node.subselect (Statement.toNode select) name)))
  | select {columns : List Operand} :
      (∀ column ∈ columns, Built (.output column)) → Built (.statement (.select (.start columns)))
  | selectColumns {select : Select} {columns : List Operand} :
      Built (.statement (.select select)) → (∀ column ∈ columns, Built (.output column)) →
      Built (.statement (.select (select.columns columns)))
  | selectReturning {select : Select} {columns : List Operand} :
      Built (.statement (.select select)) → (∀ column ∈ columns, Built (.output column)) →
      Built (.statement (.select (select.returning columns)))
  | distinct {select : Select} :
      Built (.statement (.select select)) → Built (.statement (.select select.distinct))
  | distinctOn {select : Select} {expressions : List Operand} :
      Built (.statement (.select select)) → (∀ item ∈ expressions, Built (.operand item)) →
      Built (.statement (.select (select.distinctOn expressions)))
  | selectFrom {select : Select} {item : TableRef} :
      Built (.statement (.select select)) → Built (.table item) →
      Built (.statement (.select (select.fromTable item)))
  | join {select joined : Select} {type : JoinType} {item : TableRef} {on : Option Tree} :
      Built (.statement (.select select)) → Built (.table item) → Built (.condition on) →
      select.join type item on = .ok joined → Built (.statement (.select joined))
  | selectFilter {select : Select} {filter : Option Tree} :
      Built (.statement (.select select)) → Built (.condition filter) →
      Built (.statement (.select (select.filter filter)))
  | having {select : Select} {filter : Option Tree} :
      Built (.statement (.select select)) → Built (.condition filter) →
      Built (.statement (.select (select.having filter)))
  | groupBy {select : Select} {expressions : List Operand} :
      Built (.statement (.select select)) → (∀ item ∈ expressions, Built (.operand item)) →
      Built (.statement (.select (select.groupBy expressions)))
  | orderBy {select : Select} {items : List Operand} :
      Built (.statement (.select select)) → (∀ item ∈ items, Built (.order item)) →
      Built (.statement (.select (select.orderBy items)))
  | limit {select : Select} {count : Operand} :
      Built (.statement (.select select)) → Built (.operand count) →
      Built (.statement (.select (select.limit count)))
  | offset {select : Select} {count : Operand} :
      Built (.statement (.select select)) → Built (.operand count) →
      Built (.statement (.select (select.offset count)))
  | withTable {select : Select} {body : Builder} (name : String) (isRecursive : Bool) :
      Built (.statement (.select select)) → Built (.statement body) →
      Built (.statement (.select (select.withTable name (Statement.toNode body) isRecursive)))
  | combine {select other : Select} (operation : SetOperation) (all : Bool) :
      Built (.statement (.select select)) → Built (.statement (.select other)) →
      Built (.statement (.select (select.combine operation all (Statement.toNode other))))
  | lock {select : Select} (strength : LockStrength) :
      Built (.statement (.select select)) → Built (.statement (.select (select.lock strength)))
  | insert {target : TableRef} :
      Built (.table target) → Built (.statement (.insert (.start target)))
  | insertColumns {insert : Insert} (columns : List String) :
      Built (.statement (.insert insert)) → Built (.statement (.insert (insert.columns columns)))
  | values {insert : Insert} {row : List Operand} :
      Built (.statement (.insert insert)) → (∀ item ∈ row, Built (.operand item)) →
      Built (.statement (.insert (insert.values row)))
  | addValues {insert : Insert} {row : List Operand} :
      Built (.statement (.insert insert)) → (∀ item ∈ row, Built (.operand item)) →
      Built (.statement (.insert (insert.addValues row)))
  | fromSelect {insert : Insert} {source : Builder} :
      Built (.statement (.insert insert)) → Built (.statement source) →
      Built (.statement (.insert (insert.fromSelect (Statement.toNode source))))
  | conflictDefault : Built (.conflict .default)
  | onColumns {clause : OnConflict} (columns : List String) :
      Built (.conflict clause) → Built (.conflict (clause.onColumns columns))
  | doNothing {clause : OnConflict} : Built (.conflict clause) → Built (.conflict clause.doNothing)
  | doUpdate {clause : OnConflict} {assignments : List (String × Operand)} :
      Built (.conflict clause) → (∀ assignment ∈ assignments, Built (.operand assignment.2)) →
      Built (.conflict (clause.doUpdate assignments))
  | onConflict {insert : Insert} {clause : OnConflict} :
      Built (.statement (.insert insert)) → Built (.conflict clause) →
      Built (.statement (.insert (insert.onConflict clause)))
  | insertReturning {insert : Insert} {columns : List Operand} :
      Built (.statement (.insert insert)) → (∀ column ∈ columns, Built (.output column)) →
      Built (.statement (.insert (insert.returning columns)))
  | update {target : TableRef} :
      Built (.table target) → Built (.statement (.update (.start target)))
  | set {update : Update} {assignments : List (String × Operand)} :
      Built (.statement (.update update)) →
      (∀ assignment ∈ assignments, Built (.operand assignment.2)) →
      Built (.statement (.update (update.set assignments)))
  | updateFilter {update : Update} {filter : Option Tree} :
      Built (.statement (.update update)) → Built (.condition filter) →
      Built (.statement (.update (update.filter filter)))
  | updateFrom {update : Update} {item : TableRef} :
      Built (.statement (.update update)) → Built (.table item) →
      Built (.statement (.update (update.fromTable item)))
  | updateReturning {update : Update} {columns : List Operand} :
      Built (.statement (.update update)) → (∀ column ∈ columns, Built (.output column)) →
      Built (.statement (.update (update.returning columns)))
  | delete {target : TableRef} :
      Built (.table target) → Built (.statement (.delete (.start target)))
  | deleteFilter {delete : Delete} {filter : Option Tree} :
      Built (.statement (.delete delete)) → Built (.condition filter) →
      Built (.statement (.delete (delete.filter filter)))
  | usingTable {delete : Delete} {item : TableRef} :
      Built (.statement (.delete delete)) → Built (.table item) →
      Built (.statement (.delete (delete.usingTable item)))
  | deleteReturning {delete : Delete} {columns : List Operand} :
      Built (.statement (.delete delete)) → (∀ column ∈ columns, Built (.output column)) →
      Built (.statement (.delete (delete.returning columns)))
  | unconstrained : Built (.constraints fun _ => .empty)
  | keptConstraints : Built (.constraints id)
  | notNull {change : ColumnConstraints → ColumnConstraints} :
      Built (.constraints change) → Built (.constraints fun column => (change column).notNull)
  | columnPrimaryKey {change : ColumnConstraints → ColumnConstraints} :
      Built (.constraints change) → Built (.constraints fun column => (change column).primaryKey)
  | columnUnique {change : ColumnConstraints → ColumnConstraints} :
      Built (.constraints change) → Built (.constraints fun column => (change column).unique)
  | columnDefault {change : ColumnConstraints → ColumnConstraints} {value : Operand} :
      Built (.constraints change) → Built (.operand value) →
      Built (.constraints fun column => (change column).default value)
  | references {change : ColumnConstraints → ColumnConstraints} (table referenced : String) :
      Built (.constraints change) →
      Built (.constraints fun column => (change column).references table referenced)
  | columnCheck {change : ColumnConstraints → ColumnConstraints} {tree : Tree} :
      Built (.constraints change) → Built (.expression tree) →
      Built (.constraints fun column => (change column).check tree)
  | createTable {name : TableRef} :
      Built (.table name) → Built (.statement (.createTable (.start name)))
  | defineColumn {table : CreateTable} (name type : String) :
      Built (.statement (.createTable table)) →
      Built (.statement (.createTable (table.column name type)))
  | defineConstrainedColumn {table : CreateTable}
      {change : ColumnConstraints → ColumnConstraints} (name type : String) :
      Built (.statement (.createTable table)) → Built (.constraints change) →
      Built (.statement (.createTable (table.constrainedColumn name type change)))
  | alterDefinition {table : CreateTable} {change : ColumnConstraints → ColumnConstraints}
      (name : String) :
      Built (.statement (.createTable table)) → Built (.constraints change) →
      Built (.statement (.createTable (table.alterColumn name change)))
  | dropDefinition {table : CreateTable} (name : String) :
      Built (.statement (.createTable table)) →
      Built (.statement (.createTable (table.dropColumn name)))
  | primaryKey {table : CreateTable} (columns : List String) :
      Built (.statement (.createTable table)) →
      Built (.statement (.createTable (table.primaryKey columns)))
  | unique {table : CreateTable} (columns : List String) :
      Built (.statement (.createTable table)) →
      Built (.statement (.createTable (table.unique columns)))
  | check {table : CreateTable} {tree : Tree} :
      Built (.statement (.createTable table)) → Built (.expression tree) →
      Built (.statement (.createTable (table.check tree)))
  | foreignKey {table : CreateTable} (columns : List String) (other : String)
      (referenced : List String) :
      Built (.statement (.createTable table)) →
      Built (.statement (.createTable (table.foreignKey columns other referenced)))
  | tableIfNotExists {table : CreateTable} :
      Built (.statement (.createTable table)) → Built (.statement (.createTable table.ifNotExists))
  | alterTable {name : TableRef} :
      Built (.table name) → Built (.statement (.alterTable (.start name)))
  | addColumn {table : AlterTable} (name type : String) :
      Built (.statement (.alterTable table)) →
      Built (.statement (.alterTable (table.addColumn name type)))
  | addConstrainedColumn {table : AlterTable} {change : ColumnConstraints → ColumnConstraints}
      (name type : String) :
      Built (.statement (.alterTable table)) → Built (.constraints change) →
      Built (.statement (.alterTable (table.addConstrainedColumn name type change)))
  | dropColumn {table : AlterTable} (name : String) :
      Built (.statement (.alterTable table)) →
      Built (.statement (.alterTable (table.dropColumn name)))
  | unchanged : Built (.changes id)
  | setNotNull {change : ColumnChanges → ColumnChanges} :
      Built (.changes change) → Built (.changes fun column => (change column).setNotNull)
  | dropNotNull {change : ColumnChanges → ColumnChanges} :
      Built (.changes change) → Built (.changes fun column => (change column).dropNotNull)
  | alterColumn {table altered : AlterTable} {change : ColumnChanges → ColumnChanges}
      {name : String} :
      Built (.statement (.alterTable table)) → Built (.changes change) →
      table.alterColumn name (fun column => .ok (change column)) = .ok altered →
      Built (.statement (.alterTable altered))
  | dropConstraint {table : AlterTable} (name : String) :
      Built (.statement (.alterTable table)) →
      Built (.statement (.alterTable (table.dropConstraint name)))
  | ifExists {table : AlterTable} :
      Built (.statement (.alterTable table)) → Built (.statement (.alterTable table.ifExists))
  | createIndex (name : String) : Built (.index false (.start name))
  | on {hasTable : Bool} {index : CreateIndex} (table : String) :
      Built (.index hasTable index) → Built (.index true (index.on table))
  | onSchema {hasTable : Bool} {index : CreateIndex} (table schema : String) :
      Built (.index hasTable index) → Built (.index true (index.onSchema table schema))
  | indexColumns {hasTable : Bool} {index : CreateIndex} (columns : List String) :
      Built (.index hasTable index) → Built (.index hasTable (index.columns columns))
  | including {hasTable : Bool} {index : CreateIndex} (columns : List String) :
      Built (.index hasTable index) → Built (.index hasTable (index.including columns))
  | usingMethod {hasTable : Bool} {index : CreateIndex} (method : String) :
      Built (.index hasTable index) → Built (.index hasTable (index.usingMethod method))
  | uniqueIndex {hasTable : Bool} {index : CreateIndex} :
      Built (.index hasTable index) → Built (.index hasTable index.unique)
  | concurrently {hasTable : Bool} {index : CreateIndex} :
      Built (.index hasTable index) → Built (.index hasTable index.concurrently)
  | indexIfNotExists {hasTable : Bool} {index : CreateIndex} :
      Built (.index hasTable index) → Built (.index hasTable index.ifNotExists)
  | indexFilter {hasTable : Bool} {index : CreateIndex} {filter : Option Tree} :
      Built (.index hasTable index) → Built (.condition filter) →
      Built (.index hasTable (index.filter filter))
  | indexStatement {index : CreateIndex} :
      Built (.index true index) → Built (.statement (.createIndex index))

end SqlTree

import SqlTree.Proofs.Print.Updates
import SqlTree.Proofs.Statement.Built
import SqlTree.Recorded

/-!
# What is built can be printed

The printer and the factories agree on the names and the shapes of fields by convention only. The
main statement here is that they do agree: every statement that is built can be printed. The
induction is over how it was built, with one demand for each sort of construct.
-/

namespace SqlTree.Print

/-- What printing needs to know of what is built. -/
def ConstructPrints : Construct → Prop
  | .operand operand => OperandPrints operand
  | .expression tree => Succeeds (expression tree)
  | .condition condition => ∀ tree ∈ condition, Succeeds (expression tree)
  | .output operand => Succeeds (expression operand.reference)
  | .order operand => Succeeds (printer.sortItem (Select.orderItem operand))
  | .table table => Succeeds (source table.item)
  | .conflict clause => ConflictPrints clause
  | .constraints change => ConstraintsChange change
  | .changes change => ∀ column, ChangesPrint column → ChangesPrint (change column)
  | .index hasTable index => CreateIndexPrints hasTable index
  | .statement (.plain _) => False
  | .statement (.select select) => SelectPrints select
  | .statement (.insert insert) => InsertPrints insert
  | .statement (.update update) => UpdatePrints update
  | .statement (.delete delete) => DeletePrints delete
  | .statement (.createTable table) => CreateTablePrints table
  | .statement (.alterTable table) => AlterTablePrints table
  | .statement (.createIndex index) => CreateIndexPrints true index

theorem statementPrints_toNode {builder : Builder} (prints : ConstructPrints (.statement builder)) :
    StatementPrints (Statement.toNode builder) := by
  cases builder with
  | plain query => exact prints.elim
  | select select => exact QueryPrints.statementPrints prints
  | insert insert => exact QueryPrints.statementPrints prints
  | update update => exact QueryPrints.statementPrints prints
  | delete delete => exact QueryPrints.statementPrints prints
  | createTable table => exact QueryPrints.statementPrints prints
  | alterTable table => exact QueryPrints.statementPrints prints
  | createIndex index => exact QueryPrints.statementPrints prints

/--
Whatever is built meets the demand of its sort. Each factory and each update is a case of its own,
and the hypotheses of the induction are named after the construct that they are about.
-/
theorem constructPrints_of_built {construct : Construct} (built : Built construct) :
    ConstructPrints construct := by
  induction built with
  | text value => exact operandPrints_text value
  | int value => exact operandPrints_int value
  | float value => exact operandPrints_float value
  | bool value => exact operandPrints_bool value
  | null => exact operandPrints_null
  | node _ tree => exact operandPrints_node tree
  | column name => exact ⟨name, expression_column name⟩
  | star => exact succeeds_columnRef _
  | starOf table => exact succeeds_columnRef _
  | value _ operand => exact operand.literal
  | parameter number => exact succeeds_parameter number
  | call name _ operands => exact succeeds_call name operands
  | cast type _ operand => exact succeeds_cast operand.reference
  | binary operator _ _ left right =>
      exact succeeds_binaryNode (Or.inl rfl) left.reference right.literal
  | like _ _ operand pattern =>
      exact succeeds_binaryNode (Or.inr (Or.inl rfl)) operand.reference pattern.literal
  | likeIgnoringCase _ _ operand pattern =>
      exact succeeds_binaryNode (Or.inr (Or.inr rfl)) operand.reference pattern.literal
  | between _ _ _ operand low high =>
      exact succeeds_between operand.reference low.literal high.literal
  | isIn _ _ operand values =>
      exact succeeds_isIn operand.reference
        (List.forall_mem_map.mpr fun value mem => (values value mem).literal)
  | negation _ operand =>
      exact succeeds_booleanNode.mpr (List.forall_mem_singleton.mpr operand.reference)
  | isNull _ operand => exact succeeds_nullTest operand
  | isNotNull _ operand => exact succeeds_nullTest operand
  | rowExists _ select => exact succeeds_rowExists (QueryPrints.statementPrints select).succeeds
  | isInQuery _ _ operand select =>
      exact succeeds_isInQuery operand (QueryPrints.statementPrints select).succeeds
  | present _ condition => exact condition _ rfl
  | absent => exact nofun
  | given _ tree => exact fun _ same => Option.some.inj same ▸ tree
  | conjunction _ conditions =>
      exact fun _ built => succeeds_combine (fun operand mem => conditions _ mem operand rfl) built
  | disjunction _ conditions =>
      exact fun _ built => succeeds_combine (fun operand mem => conditions _ mem operand rfl) built
  | unnamed _ operand => exact operand.reference
  | aliased name _ operand => exact succeeds_assigned operand.reference
  | unsorted _ operand => exact succeeds_orderItem operand.reference
  | sorted direction nulls _ operand => exact succeeds_sortItem operand.reference
  | named name => exact succeeds_relation _
  | tableAs name otherName => exact succeeds_relation _
  | subselect name _ select =>
      exact succeeds_subselect (QueryPrints.statementPrints select).succeeds name
  | select _ columns => exact SelectPrints.start columns
  | selectColumns _ _ select columns => exact select.columns columns
  | selectReturning _ _ select columns => exact select.columns columns
  | distinct _ select => exact select.distinct
  | distinctOn _ _ select expressions => exact select.distinctOn expressions
  | selectFrom _ _ select table => exact QueryPrints.add select rfl rfl table
  | join _ _ _ done select table condition => exact select.join table condition done
  | selectFilter _ _ select condition => exact QueryPrints.restrict select rfl rfl condition
  | having _ _ select condition => exact QueryPrints.restrict select rfl rfl condition
  | groupBy _ _ select expressions =>
      exact QueryPrints.append select rfl rfl
        (List.forall_mem_map.mpr fun operand mem => (expressions operand mem).reference)
  | orderBy _ _ select items =>
      exact QueryPrints.append select rfl rfl (List.forall_mem_map.mpr items)
  | limit _ _ select count => exact select.limit count
  | offset _ _ select count => exact QueryPrints.set select rfl count.literal
  | withTable name isRecursive _ _ select body =>
      exact select.withTable (statementPrints_toNode body) name isRecursive
  | combine operation all _ _ select other => exact select.combine other operation all
  | lock strength _ select => exact select.lock strength
  | insert => exact InsertPrints.start _
  | insertColumns columns _ insert => exact insert.columns columns
  | values _ _ insert row => exact insert.values row
  | addValues _ _ insert row => exact insert.addValues row
  | fromSelect _ _ insert source => exact insert.fromSelect (statementPrints_toNode source)
  | conflictDefault => exact nofun
  | onColumns columns _ clause => exact clause
  | doNothing => exact nofun
  | doUpdate _ _ _ assignments => exact conflictPrints_doUpdate _ assignments
  | onConflict _ _ insert clause =>
      exact QueryPrints.set insert rfl (succeeds_conflictClause clause)
  | insertReturning _ _ insert columns => exact QueryPrints.returning insert columns
  | update => exact UpdatePrints.start _
  | set _ _ update assignments => exact update.set assignments
  | updateFilter _ _ update condition => exact QueryPrints.restrict update rfl rfl condition
  | updateFrom _ _ update table => exact QueryPrints.add update rfl rfl table
  | updateReturning _ _ update columns => exact QueryPrints.returning update columns
  | delete => exact DeletePrints.start _
  | deleteFilter _ _ delete condition => exact QueryPrints.restrict delete rfl rfl condition
  | usingTable _ _ delete table => exact QueryPrints.add delete rfl rfl table
  | deleteReturning _ _ delete columns => exact QueryPrints.returning delete columns
  | unconstrained => exact fun _ _ => constraintsPrint_empty
  | keptConstraints => exact fun _ prints => prints
  | notNull _ change => exact change.push (constraintPrints_plain (by decide) [] false)
  | columnPrimaryKey _ change => exact change.push (constraintPrints_plain (by decide) [] false)
  | columnUnique _ change => exact change.push (constraintPrints_plain (by decide) [] false)
  | columnDefault _ _ change value =>
      exact change.push (constraintPrints_expression (Or.inl rfl) value.literal [] false)
  | references table referenced _ change =>
      exact change.push (constraintPrints_foreignKey none table [referenced] false)
  | columnCheck _ _ change tree =>
      exact change.push (constraintPrints_expression (Or.inr rfl) tree _ false)
  | createTable => exact CreateTablePrints.start _
  | defineColumn name type _ table =>
      exact table.defineColumn (columnPrints_columnDefinition name type)
  | defineConstrainedColumn name type _ _ table change =>
      exact table.defineColumn
        ((columnPrints_columnDefinition name type).constrain (change _ constraintsPrint_empty))
  | alterDefinition name _ _ table change => exact table.alterColumn change name
  | dropDefinition name _ table => exact table.dropColumn name
  | primaryKey columns _ table =>
      exact table.addConstraint (constraintPrints_plain (by decide) _ true)
  | unique columns _ table =>
      exact table.addConstraint (constraintPrints_plain (by decide) _ true)
  | check _ _ table tree =>
      exact table.addConstraint (constraintPrints_expression (Or.inr rfl) tree _ true)
  | foreignKey columns other referenced _ table =>
      exact table.addConstraint (constraintPrints_foreignKey _ other referenced true)
  | tableIfNotExists _ table => exact QueryPrints.set table rfl trivial
  | alterTable => exact AlterTablePrints.start _
  | addColumn name type _ table =>
      exact QueryPrints.add table rfl rfl
        (succeeds_addColumn (columnPrints_columnDefinition name type))
  | addConstrainedColumn name type _ _ table change =>
      exact QueryPrints.add table rfl rfl (succeeds_addColumn
        ((columnPrints_columnDefinition name type).constrained (change _ constraintsPrint_empty)))
  | dropColumn name _ table =>
      exact QueryPrints.add table rfl rfl (succeeds_namedCommand (by decide) name)
  | unchanged => exact fun _ prints => prints
  | setNotNull _ change => exact fun column prints => (change column prints).push (by decide)
  | dropNotNull _ change => exact fun column prints => (change column prints).push (by decide)
  | alterColumn _ _ done table change => exact table.alterColumn change done
  | dropConstraint name _ table =>
      exact QueryPrints.add table rfl rfl (succeeds_namedCommand (by decide) name)
  | ifExists _ table => exact QueryPrints.set table rfl trivial
  | createIndex name => exact CreateIndexPrints.start name
  | on table _ index => exact QueryPrints.place index _
  | onSchema table schema _ index => exact QueryPrints.place index _
  | indexColumns columns _ index =>
      exact QueryPrints.append index rfl rfl (succeeds_indexElements columns)
  | including columns _ index =>
      exact QueryPrints.append index rfl rfl (succeeds_indexElements columns)
  | usingMethod method _ index => exact QueryPrints.set index rfl trivial
  | uniqueIndex _ index => exact QueryPrints.set index rfl trivial
  | concurrently _ index => exact QueryPrints.set index rfl trivial
  | indexIfNotExists _ index => exact QueryPrints.set index rfl trivial
  | indexFilter _ _ index condition => exact QueryPrints.restrict index rfl rfl condition
  | indexStatement _ index => exact index

theorem succeeds_shell {tree : Tree} (printed : Succeeds (statement tree)) :
    Succeeds (shell (.shell [tree])) := by
  rw [shell_singleton]
  exact printed

/-- Every statement that is built can be printed. -/
theorem built_statement_prints {builder : Builder} (built : Built (.statement builder)) :
    ∃ sql, Recorded.parser.print (.shell [Statement.toNode builder]) = .ok sql := by
  have prints := statementPrints_toNode (constructPrints_of_built built)
  exact succeeds_shell prints.succeeds

def bannedUsers : Select := (Select.start [.text "user_id"]).fromTable (.named "bans")

theorem built_bannedUsers : Built (.statement (.select bannedUsers)) :=
  .selectFrom (.select (List.forall_mem_singleton.mpr (.unnamed (.text "user_id"))))
    (.named "bans")

def usersWithOrders : Select :=
  let users := (Select.start [.node (Node.aliased (.text "u.id") "id")]).fromTable
    (.node (Node.tableAs "users" "u"))
  let condition := Expr.equal (.text "o.user_id") (.node (Node.column "u.id"))
  ((users.join .left (.node (Node.tableAs "orders" "o")) (some condition)).toOption).getD users

theorem built_usersWithOrders : Built (.statement (.select usersWithOrders)) := by
  have users : Built (.statement (.select ((Select.start
      [.node (Node.aliased (.text "u.id") "id")]).fromTable
        (.node (Node.tableAs "users" "u"))))) :=
    .selectFrom (.select (List.forall_mem_singleton.mpr (.aliased "id" (.text "u.id"))))
      (.tableAs "users" "u")
  exact .join users (.tableAs "orders" "o")
    (.given (.binary "=" (.text "o.user_id") (.node (.column "u.id")))) rfl

/--
Archives the users with orders who are not banned, and then all who are: the rows come from a set
operation whose left arm has a join and a condition with a subquery.
-/
def archive : Insert :=
  let condition := Expr.conjunction
    [some (Expr.negation (.node (Expr.isInQuery (.text "u.id") (Statement.toNode bannedUsers)))),
      none, some (Expr.isNull (.text "o.deleted"))]
  let everyone :=
    (usersWithOrders.filter condition).combine .union true (Statement.toNode bannedUsers)
  ((Insert.start (.named "app.archive")).fromSelect
    (Statement.toNode (Builder.select everyone))).onConflict
      ((OnConflict.default.onColumns ["id"]).doUpdate [("times", .int 2)])

theorem archive_prints :
    Built (.statement (.insert archive)) ∧
      ∃ sql, Recorded.parser.print (.shell [Statement.toNode (Builder.insert archive)]) =
        .ok sql := by
  have allowed := Built.negation (.node (.isInQuery (.text "u.id") built_bannedUsers))
  have condition := Built.conjunction (List.forall_mem_cons.mpr ⟨.given allowed,
    List.forall_mem_cons.mpr ⟨.absent,
      List.forall_mem_singleton.mpr (.given (.isNull (.text "o.deleted")))⟩⟩)
  have everyone := Built.combine .union true (.selectFilter built_usersWithOrders condition)
    built_bannedUsers
  have built : Built (.statement (.insert archive)) :=
    .onConflict (.fromSelect (.insert (.named "app.archive")) everyone)
      (.doUpdate (.onColumns ["id"] .conflictDefault) (List.forall_mem_singleton.mpr (.int 2)))
  exact ⟨built, built_statement_prints built⟩

end SqlTree.Print

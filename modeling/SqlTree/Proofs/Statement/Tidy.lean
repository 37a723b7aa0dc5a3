import SqlTree.Proofs.Json.Decoded
import SqlTree.Proofs.Json.Routes
import SqlTree.Proofs.Statement.Distinct
import SqlTree.Proofs.Statement.Lineage
import SqlTree.Proofs.Traverse.Distinct

/-!
# Nothing repeats a name

`Mutator` lists the operations on statements and on parts of statements. Beside them stand the
operations on trees, the factories, replacements and decoding. No tree that comes out of any of them
repeats a name, unless one that went in does, and a text may repeat as many names as it likes.
-/

namespace SqlTree

open Builder (View)

/--
The operations on statements: those on statements of any kind, then for each kind its start and its
updates, along with what collects the parts of a clause.
-/
inductive Mutator : {α : Type} → [Tidy α] → α → Prop
  | merge {β : Type} [inst : Statement β] {build : β → Builder} (view : View β inst build) :
      Mutator (@Statement.merge β inst)
  | withParser {β : Type} [inst : Statement β] {build : β → Builder} (view : View β inst build) :
      Mutator (@Statement.withParser β inst)
  | toNode {β : Type} [inst : Statement β] {build : β → Builder} (view : View β inst build) :
      Mutator (@Statement.toNode β inst)
  | select : Mutator Select.start
  | selectColumns : Mutator Select.columns
  | mapSelectColumns : Mutator Select.mapColumns
  | selectReturning : Mutator Select.returning
  | distinct : Mutator Select.distinct
  | distinctOn : Mutator Select.distinctOn
  | selectFrom : Mutator Select.fromTable
  | mapSelectFrom : Mutator Select.mapFrom
  | join : Mutator Select.join
  | selectFilter : Mutator Select.filter
  | mapSelectFilter : Mutator Select.mapFilter
  | having : Mutator Select.having
  | mapHaving : Mutator Select.mapHaving
  | groupBy : Mutator Select.groupBy
  | mapGroupBy : Mutator Select.mapGroupBy
  | orderBy : Mutator Select.orderBy
  | mapOrderBy : Mutator Select.mapOrderBy
  | limit : Mutator Select.limit
  | mapLimit : Mutator Select.mapLimit
  | offset : Mutator Select.offset
  | mapOffset : Mutator Select.mapOffset
  | withTable : Mutator Select.withTable
  | combine : Mutator Select.combine
  | lock : Mutator Select.lock
  | insert : Mutator Insert.start
  | insertColumns : Mutator Insert.columns
  | mapInsertColumns : Mutator Insert.mapColumns
  | values : Mutator Insert.values
  | addValues : Mutator Insert.addValues
  | fromSelect : Mutator Insert.fromSelect
  | conflict : Mutator OnConflict.default
  | conflictColumns : Mutator OnConflict.onColumns
  | doNothing : Mutator OnConflict.doNothing
  | doUpdate : Mutator OnConflict.doUpdate
  | onConflict : Mutator Insert.onConflict
  | insertReturning : Mutator Insert.returning
  | mapInsertReturning : Mutator Insert.mapReturning
  | update : Mutator Update.start
  | assign : Mutator Update.set
  | mapAssignments : Mutator Update.mapAssignments
  | updateFilter : Mutator Update.filter
  | mapUpdateFilter : Mutator Update.mapFilter
  | updateFrom : Mutator Update.fromTable
  | mapUpdateFrom : Mutator Update.mapFrom
  | updateReturning : Mutator Update.returning
  | mapUpdateReturning : Mutator Update.mapReturning
  | delete : Mutator Delete.start
  | deleteFilter : Mutator Delete.filter
  | mapDeleteFilter : Mutator Delete.mapFilter
  | usingTable : Mutator Delete.usingTable
  | mapUsing : Mutator Delete.mapUsing
  | deleteReturning : Mutator Delete.returning
  | mapDeleteReturning : Mutator Delete.mapReturning
  | unconstrained : Mutator ColumnConstraints.empty
  | notNull : Mutator ColumnConstraints.notNull
  | columnPrimaryKey : Mutator ColumnConstraints.primaryKey
  | columnUnique : Mutator ColumnConstraints.unique
  | columnDefault : Mutator ColumnConstraints.default
  | references : Mutator ColumnConstraints.references
  | columnCheck : Mutator ColumnConstraints.check
  | setNotNull : Mutator ColumnChanges.setNotNull
  | dropNotNull : Mutator ColumnChanges.dropNotNull
  | rename : Mutator ColumnChanges.rename
  | createTable : Mutator CreateTable.start
  | column : Mutator CreateTable.column
  | constrainedColumn : Mutator CreateTable.constrainedColumn
  | alterDefinition : Mutator CreateTable.alterColumn
  | mapDefinitions : Mutator CreateTable.mapColumns
  | dropDefinition : Mutator CreateTable.dropColumn
  | primaryKey : Mutator CreateTable.primaryKey
  | unique : Mutator CreateTable.unique
  | check : Mutator CreateTable.check
  | foreignKey : Mutator CreateTable.foreignKey
  | tableIfNotExists : Mutator CreateTable.ifNotExists
  | alterTable : Mutator AlterTable.start
  | addColumn : Mutator AlterTable.addColumn
  | addConstrainedColumn : Mutator AlterTable.addConstrainedColumn
  | dropColumn : Mutator AlterTable.dropColumn
  | alterColumn : Mutator AlterTable.alterColumn
  | addConstraint : Mutator AlterTable.addConstraint
  | dropConstraint : Mutator AlterTable.dropConstraint
  | ifExists : Mutator AlterTable.ifExists
  | renameColumn : Mutator AlterTable.renameColumn
  | renameTo : Mutator AlterTable.renameTo
  | createIndex : Mutator CreateIndex.start
  | on : Mutator CreateIndex.on
  | onSchema : Mutator CreateIndex.onSchema
  | indexColumns : Mutator CreateIndex.columns
  | mapIndexColumns : Mutator CreateIndex.mapColumns
  | including : Mutator CreateIndex.including
  | usingMethod : Mutator CreateIndex.usingMethod
  | uniqueIndex : Mutator CreateIndex.unique
  | concurrently : Mutator CreateIndex.concurrently
  | indexIfNotExists : Mutator CreateIndex.ifNotExists
  | indexFilter : Mutator CreateIndex.filter
  | mapIndexFilter : Mutator CreateIndex.mapFilter

theorem Mutator.isTidy {α : Type} [Tidy α] {make : α} (mutator : Mutator make) : IsTidy make := by
  cases mutator with
  | merge view =>
      intro statement tidy pairs pairsTidy
      change (Statement.record _).Distinct
      rw [Statement.merge, view.record_ofQuery]
      exact Tree.Distinct.merge tidy fun pair mem => (pairsTidy pair mem).2
  | withParser view =>
      intro statement tidy parser _
      change (Statement.record _).Distinct
      rw [Statement.withParser, view.record_ofQuery]
      exact tidy
  | toNode => exact fun statement tidy => Query.distinct_toNode tidy
  | select => exact fun columns => Select.tidy_start
  | selectColumns | selectReturning =>
      exact fun select tidy columns columnsTidy =>
        Query.tidy_append tidy "targetList" (Node.distinct_targets columnsTidy)
  | mapSelectColumns | mapSelectFrom | mapGroupBy | mapOrderBy | mapInsertColumns
  | mapInsertReturning | mapAssignments | mapUpdateFrom | mapUpdateReturning | mapUsing
  | mapDeleteReturning | mapDefinitions | mapIndexColumns =>
      exact fun statement tidy change => Query.tidy_mapList tidy _
  | mapSelectFilter | mapHaving | mapOffset | mapUpdateFilter | mapDeleteFilter | mapIndexFilter =>
      exact fun statement tidy change => Query.tidy_mapOption tidy _
  | selectFilter | having | updateFilter | deleteFilter | indexFilter =>
      exact fun statement tidy condition => Query.tidy_restrict tidy _
  | selectFrom | updateFrom | usingTable =>
      exact fun statement tidy table tableTidy =>
        Query.tidy_add tidy _ (TableRef.distinct_item tableTidy)
  | insertReturning | updateReturning | deleteReturning =>
      exact fun statement tidy columns columnsTidy =>
        Query.tidy_append tidy _ (Node.distinct_targets columnsTidy)
  | distinct =>
      exact fun select tidy => Query.tidy_set tidy "distinctClause" (by decide)
  | distinctOn =>
      exact fun select tidy expressions expressionsTidy =>
        Query.tidy_setList tidy "distinctClause" (Node.distinct_references expressionsTidy)
  | join =>
      exact fun select tidy type _ table tableTidy condition =>
        Select.tidy_join tidy type tableTidy
  | groupBy =>
      exact fun select tidy expressions expressionsTidy =>
        Query.tidy_append tidy "groupClause" (Node.distinct_references expressionsTidy)
  | orderBy =>
      exact fun select tidy items itemsTidy =>
        Query.tidy_append tidy "sortClause" (List.forall_mem_map.mpr fun item mem =>
          Select.distinct_orderItem (itemsTidy item mem))
  | mapLimit => exact fun select tidy change => Select.tidy_mapLimit tidy
  | limit =>
      exact fun select tidy count countTidy => Select.tidy_mapLimit tidy fun _ _ =>
        Tree.distinct_of_mem_some (Operand.distinct_literal countTidy)
  | offset =>
      exact fun select tidy count countTidy =>
        Query.tidy_set tidy "limitOffset" (Operand.distinct_literal countTidy)
  | withTable =>
      exact fun select tidy name _ body distinct isRecursive _ =>
        Select.tidy_withTable tidy name distinct isRecursive
  | combine =>
      exact fun select tidy operation _ all _ other => Select.tidy_combine tidy operation all
  | lock =>
      exact fun select tidy strength _ =>
        Query.tidy_add tidy "lockingClause" (Select.distinct_lockNode strength)
  | insert | update | delete | createTable | alterTable =>
      exact fun table tidy => Query.tidy_ofTarget _ tidy (by decide) (by decide)
  | createIndex => exact fun name _ => CreateIndex.tidy_start name
  | insertColumns =>
      exact fun insert tidy columns _ => Query.tidy_append tidy "cols"
        (List.forall_mem_map.mpr fun name _ => Node.distinct_assigned name nofun)
  | values =>
      exact fun insert tidy row rowTidy =>
        Insert.tidy_withRows tidy (List.forall_mem_singleton.mpr (Insert.distinct_rowNode rowTidy))
  | addValues =>
      exact fun insert tidy row rowTidy => Insert.tidy_withRows tidy (List.forall_mem_append.mpr
        ⟨fun _ => Insert.distinct_of_mem_rows tidy,
          List.forall_mem_singleton.mpr (Insert.distinct_rowNode rowTidy)⟩)
  | fromSelect => exact fun insert tidy source => Insert.tidy_fromSelect tidy
  | conflict => exact nofun
  | conflictColumns => exact fun clause tidy columns _ => tidy
  | doNothing => exact fun clause _ => nofun
  | doUpdate => exact fun clause _ assignments => clause.tidy_doUpdate
  | onConflict =>
      exact fun insert tidy clause clauseTidy =>
        Query.tidy_set tidy "onConflictClause" (OnConflict.distinct_toRecord clauseTidy)
  | assign => exact fun update tidy assignments => Update.tidy_set tidy
  | unconstrained => exact nofun
  | notNull | columnPrimaryKey | columnUnique =>
      exact fun column tidy => column.tidy_push tidy (by decide)
  | columnDefault =>
      exact fun column tidy value valueTidy =>
        column.tidy_push tidy (ColumnConstraints.distinct_default valueTidy)
  | references =>
      exact fun column tidy table _ referenced _ =>
        column.tidy_push tidy (Node.distinct_foreignKey none table [referenced])
  | columnCheck =>
      exact fun column tidy condition distinct =>
        column.tidy_push tidy (Node.distinct_checkConstraint.mpr distinct)
  | setNotNull | dropNotNull => exact fun changes tidy => changes.tidy_push tidy _
  | rename => exact fun changes _ new _ => nofun
  | column =>
      exact fun table tidy name _ type _ =>
        CreateTable.tidy_defineColumn tidy (Node.distinct_columnDefinition name type)
  | constrainedColumn =>
      exact fun table tidy name _ type _ change changeTidy =>
        CreateTable.tidy_defineColumn tidy (CreateTable.distinct_constrain
          (Node.distinct_columnDefinition name type) (changeTidy .empty nofun))
  | alterDefinition =>
      exact fun table tidy name _ change => CreateTable.tidy_alterColumn tidy name
  | dropDefinition =>
      exact fun table tidy name _ =>
        Query.tidy_mapList tidy "tableElts" fun _ elements element mem =>
          elements element (List.mem_of_mem_filter mem)
  | primaryKey | unique =>
      exact fun table tidy columns _ =>
        Query.tidy_add tidy "tableElts" (Node.distinct_keyConstraint _ columns)
  | check =>
      exact fun table tidy condition distinct =>
        Query.tidy_add tidy "tableElts" (Node.distinct_checkConstraint.mpr distinct)
  | foreignKey =>
      exact fun table tidy columns _ other _ referenced _ =>
        Query.tidy_add tidy "tableElts" (Node.distinct_foreignKey (some columns) other referenced)
  | tableIfNotExists | ifExists | uniqueIndex | concurrently | indexIfNotExists =>
      exact fun statement tidy => Query.tidy_set tidy _ trivial
  | addColumn =>
      exact fun table tidy name _ type _ =>
        AlterTable.tidy_addConstrainedColumn tidy name type fun _ constraintsTidy => constraintsTidy
  | addConstrainedColumn =>
      exact fun table tidy name _ type _ change =>
        AlterTable.tidy_addConstrainedColumn tidy name type
  | dropColumn | dropConstraint =>
      exact fun table tidy name _ => AlterTable.tidy_pushCommand tidy _ (some name) nofun
  | alterColumn => exact fun table tidy name _ change => AlterTable.tidy_alterColumn tidy name
  | addConstraint =>
      exact fun table tidy constraint distinct =>
        AlterTable.tidy_pushCommand tidy _ none (Tree.distinct_of_mem_some distinct)
  | renameColumn => exact fun table _ old _ new _ => nofun
  | renameTo => exact fun table _ new _ => nofun
  | on =>
      exact fun index tidy table _ =>
        Query.tidy_set tidy "relation" (Node.distinct_relation table)
  | onSchema =>
      exact fun index tidy table _ schema _ =>
        Query.tidy_set tidy "relation" (Node.distinct_relationRecord (some schema) table)
  | indexColumns | including =>
      exact fun index tidy columns _ => Query.tidy_append tidy _
        (List.forall_mem_map.mpr fun name _ => Node.distinct_indexElement name)
  | usingMethod => exact fun index tidy method _ => Query.tidy_set tidy "accessMethod" trivial

/-- A statement of whatever type keeps names distinct in a replacement, as its record does. -/
theorem Builder.View.distinct_of_replaceNodes {β : Type} [inst : Statement β] {build : β → Builder}
    (view : View β inst build) {σ : Type} {statement result : β} {kind : String}
    {predicate : Option Predicate} {replace : Builder → ExceptT Error (StateM σ) Tree}
    {firstOnly : Bool} (tidy : IsTidy statement)
    (given : ∀ position ∈ (Statement.record statement).positions,
      position.matches kind predicate = true →
      ∀ new, Returns (replace (.ofRecord kind position.record (Statement.parser? statement))) new →
        new.Distinct)
    (returns : Returns (Statement.replaceNodes statement kind predicate replace firstOnly) result) :
    IsTidy result := by
  rw [Statement.replaceNodes, bind_pure_comp] at returns
  rcases returns.exists_of_map with ⟨record, replaced, rfl⟩
  change (Statement.record _).Distinct
  rw [view.record_ofQuery]
  refine Replacement.distinct_of_returns _ tidy ?_ replaced
  exact given

/--
No operation makes an object that repeats a name. Operations on trees, factories and updates of
statements make tidy results of tidy arguments, and so does an update that is given a function, if
the function does so. A replacement does, of a tree or of a statement, if the results of its calls
are tidy. What is decoded is tidy whatever the text says.
-/
theorem nothing_repeats_a_name :
    (∀ {α : Type} [Tidy α] {operation : α},
      TreeOperation operation ∨ Factory operation ∨ Mutator operation → IsTidy operation) ∧
    (∀ {σ ε : Type} (replacement : Replacement (ExceptT ε (StateM σ))) (tree result : Tree),
      tree.Distinct →
      (∀ position ∈ tree.positions, replacement.selects position = true →
        ∀ new, Returns (replacement.replace position) new → new.Distinct) →
      Returns (replacement.applyTo tree) result → result.Distinct) ∧
    (∀ {β : Type} [inst : Statement β] {build : β → Builder}, View β inst build →
      ∀ {σ : Type} (statement result : β) (kind : String) (predicate : Option Predicate)
        (replace : Builder → ExceptT Error (StateM σ) Tree) (firstOnly : Bool),
      IsTidy statement →
      (∀ position ∈ (Statement.record statement).positions,
        position.matches kind predicate = true →
        ∀ new,
          Returns (replace (.ofRecord kind position.record (Statement.parser? statement))) new →
          new.Distinct) →
      Returns (Statement.replaceNodes statement kind predicate replace firstOnly) result →
      IsTidy result) ∧
    (∀ text tree, Tree.ofJson? text = some tree → tree.Distinct) ∧
    ∀ document : Document, document.toTree.Distinct ∧ document.decode.Distinct := by
  refine ⟨?_, ?_, ?_, ?_, ?_⟩
  · rintro α _ operation (onTrees | factory | mutator)
    · exact onTrees.isTidy
    · exact factory.isTidy
    · exact mutator.isTidy
  · intro σ ε replacement tree result distinct given returns
    exact replacement.distinct_of_returns distinct given returns
  · intro β _ build view σ statement result kind predicate replace firstOnly tidy given returns
    exact view.distinct_of_replaceNodes tidy given returns
  · intro text tree read
    exact (Json.decoded_of_ofJson? read).distinct
  · intro document
    rw [document.toTree_eq_feed]
    exact ⟨document.distinct_feed, document.distinct_feed⟩

def selectUsers : Select := (Select.start [.text "id"]).fromTable (.named "users")

/-- Counts its calls, and has the same table as the answer to all of them. -/
def countedOrders : ExceptT Error (StateM Nat) Tree := do
  modify (· + 1)
  pure (Node.table "orders")

def ordersInstead : Replacement (ExceptT Error (StateM Nat)) where
  kind := "RangeVar"
  predicate := none
  replace := fun _ => countedOrders
  firstOnly := false
  identity := .ofContent

def selectOrders : Select := (Select.start [.text "id"]).fromTable (.named "orders")

def repeatedClauses : String :=
  "\x7b\"op\": 1, \"larg\": \x7b\"all\": null, \"all\": true\x7d, \"op\": \"SETOP_UNION\"\x7d"

theorem selectOrders_distinct :
    IsTidy selectUsers ∧
      Returns (ordersInstead.applyTo selectUsers.query.record) selectOrders.query.record ∧
      Returns (Statement.replaceNodes selectUsers "RangeVar" none (fun _ => countedOrders) false)
        selectOrders ∧
      selectOrders.query.record.Distinct ∧ IsTidy selectOrders ∧
      ∃ tree, Tree.ofJson? repeatedClauses = some tree ∧ tree.fields.length = 2 ∧
        tree.Distinct := by
  have column : IsTidy [Operand.text "id"] := List.forall_mem_singleton.mpr nofun
  have start := nothing_repeats_a_name.1 (.inr (.inr .select)) [.text "id"] column
  have users : IsTidy selectUsers :=
    nothing_repeats_a_name.1 (.inr (.inr .selectFrom)) _ start (.named "users") nofun
  have answers : ∀ new, Returns countedOrders new → new.Distinct := by
    rintro new ⟨first, last, ran⟩
    cases ran
    decide
  have onTree : Returns (ordersInstead.applyTo selectUsers.query.record)
      selectOrders.query.record := by
    have outcome : ((ordersInstead.applyTo selectUsers.query.record).run.run 0).run.1.toOption =
        some selectOrders.query.record := by
      decide +kernel
    rcases ran : (ordersInstead.applyTo selectUsers.query.record).run.run 0 with ⟨_ | tree, last⟩
    · rw [ran] at outcome
      cases outcome
    · rw [ran] at outcome
      exact ⟨0, last, Option.some.inj outcome ▸ ran⟩
  have onStatement : Returns
      (Statement.replaceNodes selectUsers "RangeVar" none (fun _ => countedOrders) false)
      selectOrders := by
    rcases onTree with ⟨first, last, ran⟩
    refine ⟨first, last, ?_⟩
    rw [Statement.replaceNodes, bind_pure_comp, Closure.run_map]
    exact congrArg (fun outcome => (outcome.1.map fun record =>
      Select.mk (selectUsers.query.withRecord record), outcome.2)) ran
  have orders : selectOrders.query.record.Distinct :=
    nothing_repeats_a_name.2.1 ordersInstead _ _ users (fun _ _ _ => answers) onTree
  have ordersAgain : IsTidy selectOrders :=
    nothing_repeats_a_name.2.2.1 .select _ _ _ _ _ _ users (fun _ _ _ => answers) onStatement
  have read : ((Tree.ofJson? repeatedClauses).map (·.fields.length)) = some 2 := by decide +kernel
  rcases Option.map_eq_some_iff.mp read with ⟨tree, decoded, two⟩
  exact ⟨users, onTree, onStatement, orders, ordersAgain, tree, decoded, two,
    nothing_repeats_a_name.2.2.2.1 _ _ decoded⟩

end SqlTree

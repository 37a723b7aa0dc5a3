import SqlTree.Proofs.Statement.Reached
import SqlTree.Proofs.Statement.RowSource

/-!
# Lists with items in them

A clause that is a list is either there with items or not there at all. A statement in the making
keeps to this, whatever its functions make of a clause: an update that takes the last item away
takes the field away. Not all updates go through the one that does so. Some write their field
directly, as do the starts, and these never write a list without items.

`Query.Filled` is the invariant. It is about all fields of a record and not only about those that
are found, since erasing a field uncovers another of the same name. The rows of an INSERT stand one
level below its record, in a source that may also be a query of any form. `Insert.SetByRows` tells
the sources that were made from rows.
-/

namespace SqlTree

/-- The clauses that are lists, over all kinds of statements. -/
def listClauses : List String :=
  ["targetList", "fromClause", "groupClause", "sortClause", "distinctClause", "lockingClause",
    "cols", "returningList", "usingClause", "tableElts", "cmds", "indexParams",
    "indexIncludingParams"]

/-- A field does not hold a list clause without items, or a WITH clause without expressions. -/
structure FilledField (field : String × Tree) : Prop where
  list : field.1 ∈ listClauses → field.2 ≠ .list []
  expressions : field.1 = "withClause" → field.2.itemsAt "ctes" ≠ []

namespace FilledField

theorem of_other {key : String} (other : key ∉ "withClause" :: listClauses) (value : Tree) :
    FilledField (key, value) where
  list clause := absurd (List.mem_cons_of_mem _ clause) other
  expressions same := absurd (List.mem_cons.mpr (.inl same)) other

theorem of_items {key : String} (other : key ≠ "withClause") {items : List Tree}
    (present : items ≠ []) : FilledField (key, .list items) where
  list _ empty := present (Tree.list.inj empty)
  expressions same := absurd same other

theorem of_expressions {clause : Tree} (present : clause.itemsAt "ctes" ≠ []) :
    FilledField ("withClause", clause) where
  list named := absurd named (show "withClause" ∉ listClauses by decide)
  expressions _ := present

end FilledField

/-! ## One update -/

def Query.Filled (query : Query) : Prop := ∀ field ∈ query.record.fields, FilledField field

namespace Query.Filled

variable {query : Query} {key : String}

/-- The step: a write keeps the lists filled if what it writes is, and an erasure always does. -/
theorem write (filled : Filled query) {value : Option Tree}
    (written : ∀ content, value = some content → FilledField (key, content)) :
    Filled (query.withRecord (query.record.write key value)) := by
  intro field mem
  cases value with
  | none =>
      rw [withRecord, Tree.write, Tree.fields_erase] at mem
      exact filled field (Fields.mem_of_mem_erase mem)
  | some content =>
      rcases Fields.mem_of_mem_insert mem with rfl | old
      · exact written content rfl
      · exact filled field old

theorem set (filled : Filled query) {value : Tree} (written : FilledField (key, value)) :
    Filled (query.set key value) := by
  have all : ∀ content, some value = some content → FilledField (key, content) := by
    rintro content ⟨⟩
    exact written
  exact filled.write all

/-- Whatever the items are: without any, the clause is erased. -/
theorem setList (filled : Filled query) (other : key ≠ "withClause") (items : List Tree) :
    Filled (query.setList key items) := by
  rw [setList_eq_write]
  apply filled.write
  intro content made
  cases items with
  | nil => cases made
  | cons first rest =>
      cases made
      exact .of_items other (List.cons_ne_nil first rest)

theorem append (filled : Filled query) (other : key ≠ "withClause") (items : List Tree) :
    Filled (query.append key items) :=
  filled.setList other _

theorem mapList (filled : Filled query) (other : key ≠ "withClause")
    (change : List Tree → List Tree) : Filled (query.mapList key change) :=
  filled.setList other _

/-- A clause that is no list may hold anything. -/
theorem mapOption (filled : Filled query) (other : key ∉ "withClause" :: listClauses)
    (change : Option Tree → Option Tree) : Filled (query.mapOption key change) := by
  rw [Query.mapOption, setOption_eq_write]
  exact filled.write fun content _ => .of_other other content

theorem restrict (filled : Filled query) (other : key ∉ "withClause" :: listClauses)
    (condition : Option Tree) : Filled (query.restrict key condition) := by
  rw [restrict_eq_write]
  exact filled.write fun content _ => .of_other other content

/-- A record without any of the clauses has none that is empty. -/
theorem of_names (names : List String) (keys : Fields.keys query.record.fields = names)
    (other : ∀ key ∈ names, key ∉ "withClause" :: listClauses) : Filled query := by
  subst keys
  intro field mem
  exact .of_other (other field.1 (List.mem_map_of_mem mem)) field.2

/-! ## What is found -/

theorem get?_ne_nil (filled : Filled query) (clause : key ∈ listClauses) :
    query.record.get? key ≠ some (.list []) := by
  intro found
  exact (filled _ (Fields.mem_of_get? found)).list clause rfl

theorem exists_expressions (filled : Filled query) {clause : Tree}
    (found : query.record.get? "withClause" = some clause) :
    ∃ first rest, clause.get? "ctes" = some (.list (first :: rest)) := by
  have present := (filled _ (Fields.mem_of_get? found)).expressions rfl
  have items : Query.ofItems (clause.itemsAt "ctes") = clause.get? "ctes" :=
    ofItems_itemsOf present
  rcases List.exists_cons_of_ne_nil present with ⟨first, rest, split⟩
  rw [split] at items
  exact ⟨first, rest, items.symm⟩

end Query.Filled

open Query (Filled)

/-! ## Every update -/

theorem Select.expressions_withTable (clause expression : Tree) (isRecursive : Bool) :
    let extended := clause.set "ctes" (.list (clause.itemsAt "ctes" ++ [expression]))
    (if isRecursive then extended.set "recursive" (.bool true) else extended).itemsAt "ctes" ≠
      [] := by
  cases isRecursive <;> simp [Tree.itemsAt, Tree.get?_set, Tree.items]

theorem Select.Call.filled {call : Select.Call} {before after : Select}
    (filled : Filled before.query) (done : call.applyTo before = .ok after) :
    Filled after.query := by
  cases call with
  | columns | returning | fromTable | groupBy | orderBy | lock =>
      cases done
      exact filled.append (by decide) _
  | mapColumns | mapFrom | mapGroupBy | mapOrderBy =>
      cases done
      exact filled.mapList (by decide) _
  | distinct =>
      cases done
      exact filled.set (.of_items (by decide) (by decide))
  | distinctOn =>
      cases done
      exact filled.setList (by decide) _
  | join =>
      simp only [applyTo, Select.join] at done
      split at done
      · cases done
      · cases done
        exact filled.setList (by decide) _
  | filter | having =>
      cases done
      exact filled.restrict (by decide) _
  | mapFilter | mapHaving | offset | mapOffset =>
      cases done
      exact filled.mapOption (by decide) _
  | limit | mapLimit =>
      cases done
      exact (filled.mapOption (by decide) _).set (.of_other (by decide) _)
  | withTable =>
      cases done
      exact filled.set (.of_expressions (Select.expressions_withTable _ _ _))

namespace Builder

/-- The step: an update of any kind of statement leaves no list without items. -/
theorem Updated.filled {before after : Builder} (updated : Updated before after)
    (filled : Filled before.toQuery) : Filled after.toQuery := by
  cases updated with
  | select call done => exact Select.Call.filled filled done
  | alterDefinition table name change =>
      rw [toQuery]
      rcases table.alterColumn_cases name change with same | ⟨redefine, altered⟩
      · rw [same]
        exact filled
      · rw [altered]
        exact filled.mapList (by decide) redefine
  | alterColumn name change done =>
      rcases AlterTable.exists_commands_of_alterColumn done with ⟨commands, rfl⟩
      exact filled.append (by decide) commands
  | assign => exact filled.setList (by decide) _
  | insertColumns | insertReturning | updateFrom | updateReturning | usingTable | deleteReturning
  | primaryKey | unique | check | foreignKey
  | addColumn | addConstrainedColumn | dropColumn | addConstraint | dropConstraint
  | indexColumns | including => exact filled.append (by decide) _
  | mapInsertColumns | mapInsertReturning | mapAssignments | mapUpdateFrom | mapUpdateReturning
  | mapUsing | mapDeleteReturning | column | constrainedColumn | mapDefinitions | dropDefinition
  | mapIndexColumns => exact filled.mapList (by decide) _
  | updateFilter | deleteFilter | indexFilter => exact filled.restrict (by decide) _
  | mapUpdateFilter | mapDeleteFilter | mapIndexFilter => exact filled.mapOption (by decide) _
  | values | addValues | fromSelect | onConflict | tableIfNotExists | ifExists
  | on | onSchema | usingMethod | uniqueIndex | concurrently | indexIfNotExists =>
      exact filled.set (.of_other (by decide) _)

/-- The first targets are written directly, but only where there are any. -/
theorem filled_select_start (columns : List Operand) : Filled (Select.start columns).query := by
  unfold Select.start
  dsimp only
  split
  · exact .of_names ["limitOption", "op"] rfl (by decide)
  · next present =>
    intro field mem
    rcases List.mem_cons.mp mem with rfl | word
    · exact .of_items (by decide) fun none => present (List.isEmpty_iff.mpr none)
    · rcases List.mem_cons.mp word with rfl | last
      · exact .of_other (by decide) _
      · rw [List.mem_singleton.mp last]
        exact .of_other (by decide) _

theorem filled_select_combine (select : Select) (operation : SetOperation) (all : Bool)
    (other : Tree) : Filled (select.combine operation all other).query := by
  cases all with
  | true => exact .of_names ["op", "all", "larg", "rarg", "limitOption"] rfl (by decide)
  | false => exact .of_names ["op", "larg", "rarg", "limitOption"] rfl (by decide)

/-- The run: no statement that is reached has a list without items. -/
theorem Reached.filled {builder : Builder} (reached : Reached builder) :
    Filled builder.toQuery := by
  induction reached with
  | select columns => exact filled_select_start columns
  | insert => exact .of_names ["relation", "override"] rfl (by decide)
  | update | delete => exact .of_names ["relation"] rfl (by decide)
  | createTable => exact .of_names ["relation", "oncommit"] rfl (by decide)
  | alterTable => exact .of_names ["relation", "objtype"] rfl (by decide)
  | createIndex => exact .of_names ["idxname", "accessMethod"] rfl (by decide)
  | combine operation all other => exact filled_select_combine _ operation all other
  | step _ updated filled => exact updated.filled filled

end Builder

/-! ## The rows of an INSERT -/

namespace Insert

/-- An update of an INSERT that leaves its source alone. -/
inductive UpdatedElsewhere : Insert → Insert → Prop
  | columns (insert : Insert) (columns : List String) :
      UpdatedElsewhere insert (insert.columns columns)
  | mapColumns (insert : Insert) (change : List Tree → List Tree) :
      UpdatedElsewhere insert (insert.mapColumns change)
  | onConflict (insert : Insert) (clause : OnConflict) :
      UpdatedElsewhere insert (insert.onConflict clause)
  | returning (insert : Insert) (columns : List Operand) :
      UpdatedElsewhere insert (insert.returning columns)
  | mapReturning (insert : Insert) (change : List Tree → List Tree) :
      UpdatedElsewhere insert (insert.mapReturning change)

theorem UpdatedElsewhere.source_eq {before after : Insert}
    (updated : UpdatedElsewhere before after) :
    after.query.record.get? "selectStmt" = before.query.record.get? "selectStmt" := by
  have clauses : "selectStmt" ∉ ["cols", "onConflictClause", "returningList"] := by decide
  cases updated with
  | columns | returning =>
      exact (Query.ChangedIn.append (by decide) _ _).get?_of_not_mem clauses
  | mapColumns | mapReturning =>
      exact (Query.ChangedIn.mapList (by decide) _ _).get?_of_not_mem clauses
  | onConflict => exact (Query.ChangedIn.set (by decide) _ _).get?_of_not_mem clauses

/-- The source was last set by giving a row, whatever it was before. -/
inductive SetByRows : Insert → Prop
  | values (insert : Insert) (row : List Operand) : SetByRows (insert.values row)
  | addValues (insert : Insert) (row : List Operand) : SetByRows (insert.addValues row)
  | elsewhere {before after : Insert} (given : SetByRows before)
      (updated : UpdatedElsewhere before after) : SetByRows after

theorem exists_rows_withRows (insert : Insert) (rows : List Tree) (row : Tree) :
    ∃ source first rest,
      (insert.withRows (rows ++ [row])).query.record.get? "selectStmt" =
        some (.node "SelectStmt" source) ∧
      source.get? "valuesLists" = some (.list (first :: rest)) := by
  rcases List.exists_cons_of_ne_nil (List.concat_ne_nil row rows) with ⟨first, rest, split⟩
  rw [get?_withRows, if_pos rfl, split]
  exact ⟨_, first, rest, rfl, by rw [get?_rowSource, if_pos rfl]⟩

theorem SetByRows.exists_rows {insert : Insert} (given : SetByRows insert) :
    ∃ source first rest,
      insert.query.record.get? "selectStmt" = some (.node "SelectStmt" source) ∧
      source.get? "valuesLists" = some (.list (first :: rest)) := by
  induction given with
  | values insert row => exact exists_rows_withRows insert [] (rowNode row)
  | addValues insert row => exact exists_rows_withRows insert insert.rows (rowNode row)
  | elsewhere _ updated ih =>
      rw [updated.source_eq]
      exact ih

end Insert

namespace Builder

/--
No list is left without items in any statement that a start and updates lead to: a clause that is a
list has an item or is not there, a WITH clause has a table expression, and a source that was set by
giving rows has a row.
-/
theorem clauses_have_items {builder : Builder} (reached : Reached builder) :
    let record := builder.toQuery.record
    (∀ key ∈ listClauses, record.get? key ≠ some (.list [])) ∧
    (∀ clause, record.get? "withClause" = some clause →
      ∃ first rest, clause.get? "ctes" = some (.list (first :: rest))) ∧
    ∀ insert, builder = .insert insert → insert.SetByRows →
      ∃ source first rest, record.get? "selectStmt" = some (.node "SelectStmt" source) ∧
        source.get? "valuesLists" = some (.list (first :: rest)) := by
  intro record
  refine ⟨?_, ?_, ?_⟩
  · intro key clause
    exact reached.filled.get?_ne_nil clause
  · intro clause found
    exact reached.filled.exists_expressions found
  · rintro insert rfl given
    exact given.exists_rows

/-- A query that is a list of rows without any row. -/
def noRows : Tree := Insert.rowSource []

/--
A SELECT whose columns were all taken away, and an INSERT from no rows at all, whose columns were
taken away and to which a row was added.
-/
theorem emptied_clauses_have_items :
    let chosen := ((Select.start [.text "id"]).withTable "none" noRows false).mapColumns fun _ => []
    let named := (Insert.start (.named "readings")).columns ["level"]
    let emptied := ((named.fromSelect noRows).addValues [.int 3]).mapColumns fun _ => []
    Reached (.select chosen) ∧ Reached (.insert emptied) ∧ emptied.SetByRows ∧
      chosen.query.record.get? "targetList" ≠ some (.list []) ∧
      (∃ clause first rest, chosen.query.record.get? "withClause" = some clause ∧
        clause.get? "ctes" = some (.list (first :: rest))) ∧
      emptied.query.record.get? "cols" ≠ some (.list []) ∧
      ∃ source first rest,
        emptied.query.record.get? "selectStmt" = some (.node "SelectStmt" source) ∧
        source.get? "valuesLists" = some (.list (first :: rest)) := by
  intro chosen named emptied
  have chosenReached : Reached (.select chosen) :=
    .step (.step (.select [.text "id"]) (.select (.withTable "none" noRows false) rfl))
      (.select (.mapColumns fun _ => []) rfl)
  have emptiedReached : Reached (.insert emptied) :=
    .step (.step (.step (.step (.insert (.named "readings")) (.insertColumns _ ["level"]))
      (.fromSelect _ noRows)) (.addValues _ [.int 3])) (.mapInsertColumns _ fun _ => [])
  have given : emptied.SetByRows := .elsewhere (.addValues _ [.int 3]) (.mapColumns _ fun _ => [])
  rcases clauses_have_items chosenReached with ⟨chosenLists, withClause, _⟩
  rcases clauses_have_items emptiedReached with ⟨emptiedLists, _, rows⟩
  refine ⟨chosenReached, emptiedReached, given, ?_, ?_, ?_, ?_⟩
  · exact chosenLists "targetList" (by decide)
  · rcases withClause _ rfl with ⟨first, rest, expressions⟩
    exact ⟨_, first, rest, rfl, expressions⟩
  · exact emptiedLists "cols" (by decide)
  · exact rows emptied rfl given

end Builder

end SqlTree

import Mathlib.Data.List.Induction
import SqlTree.Proofs.Print.Nodes
import SqlTree.Proofs.Statement.NamedItems
import SqlTree.Proofs.Statement.Writes

/-!
# The columns of a table and their calls

The columns of a table and its own constraints stand in one list, which is changed by defining,
altering and dropping columns and by adding constraints. This file says what the list holds in terms
of the calls alone. What a column is like depends on the calls that name it and on no others:
`columnAfter?` follows one column through all calls, and remembers when it was first defined since
it was last dropped. The list shows the columns that are there in the order of these times, each as
its calls tell, and the constraints of the table in the order in which they were added.

`Shows` is the invariant: it relates the list to what is told about every column. There is one lemma
for each way to change the list.
-/

namespace SqlTree.CreateTable

open NamedItems (names unnamed place)

/-! ## Calls -/

inductive Call where
  | column (name type : String)
  | constrainedColumn (name type : String) (change : ColumnConstraints → ColumnConstraints)
  | alterColumn (name : String) (change : ColumnConstraints → ColumnConstraints)
  | dropColumn (name : String)
  | primaryKey (columns : List String)
  | unique (columns : List String)
  | check (condition : Tree)
  | foreignKey (columns : List String) (other : String) (referenced : List String)
  | ifNotExists

namespace Call

def applyTo (call : Call) (table : CreateTable) : CreateTable :=
  match call with
  | .column name type => table.column name type
  | .constrainedColumn name type change => table.constrainedColumn name type change
  | .alterColumn name change => table.alterColumn name change
  | .dropColumn name => table.dropColumn name
  | .primaryKey columns => table.primaryKey columns
  | .unique columns => table.unique columns
  | .check condition => table.check condition
  | .foreignKey columns other referenced => table.foreignKey columns other referenced
  | .ifNotExists => table.ifNotExists

/-- The column that a call names. -/
def column? : Call → Option String
  | .column name _ | .constrainedColumn name _ _ | .alterColumn name _ | .dropColumn name =>
      some name
  | _ => none

/-- The constraint of the table that a call adds. -/
def constraint? : Call → Option Tree
  | .primaryKey columns => some (Node.keyConstraint "CONSTR_PRIMARY" columns)
  | .unique columns => some (Node.keyConstraint "CONSTR_UNIQUE" columns)
  | .check condition => some (Node.checkConstraint condition)
  | .foreignKey columns other referenced => some (Node.foreignKey (some columns) other referenced)
  | _ => none

end Call

def run (table : CreateTable) (calls : List Call) : CreateTable :=
  calls.foldl (fun current call => call.applyTo current) table

/-! ## What the calls tell about a column -/

/-- A column as its calls tell. -/
structure Column where
  /-- The number of calls before its first definition since it was last dropped. -/
  definedAt : Nat
  /-- The type of its last definition. -/
  type : String
  /-- The constraints of its last definition, as changed since then. -/
  constraints : ColumnConstraints

namespace Column

/-- A column that is defined now. One that is there keeps its time. -/
def define (old : Option Column) (now : Nat) (type : String) (constraints : ColumnConstraints) :
    Column :=
  ⟨(old.map definedAt).getD now, type, constraints⟩

/-- The element of the table that stands for a column. -/
def element (column : Column) (name : String) : Tree :=
  constrain (Node.columnDefinition name column.type) column.constraints

end Column

/-- What one call makes of a column, if so many calls came before. -/
def Call.onColumn (call : Call) (name : String) (now : Nat) (old : Option Column) :
    Option Column :=
  match call with
  | .column other type => if other = name then some (.define old now type .empty) else old
  | .constrainedColumn other type change =>
      if other = name then some (.define old now type (change .empty)) else old
  | .alterColumn other change =>
      if other = name then
        old.map fun column => { column with constraints := change column.constraints }
      else old
  | .dropColumn other => if other = name then none else old
  | _ => old

/-- A call changes no column but the one that it names. -/
theorem Call.onColumn_of_ne {call : Call} {name : String} (other : call.column? ≠ some name)
    (now : Nat) (old : Option Column) : call.onColumn name now old = old := by
  cases call with
  | column found | constrainedColumn found | alterColumn found | dropColumn found =>
      have differs : found ≠ name := fun same => other (congrArg some same)
      simp only [onColumn, if_neg differs]
  | _ => rfl

/-- A column after some calls. There is none if it was never defined, or dropped since then. -/
def columnAfter? (calls : List Call) (name : String) : Option Column :=
  calls.zipIdx.foldl (fun old (call, now) => call.onColumn name now old) none

theorem columnAfter?_concat (calls : List Call) (call : Call) (name : String) :
    columnAfter? (calls ++ [call]) name =
      call.onColumn name calls.length (columnAfter? calls name) := by
  simp [columnAfter?, List.zipIdx_append]

/-! ## Elements of a table -/

section Element

variable (name type : String) (constraints : ColumnConstraints)

theorem constrain_columnDefinition :
    constrain (Node.columnDefinition name type) constraints =
      .node "ColumnDef" (constraints.applyTo (.object
        [("colname", .text name), ("typeName", Node.writtenType type),
          ("is_local", .bool true)])) := by
  unfold constrain Node.columnDefinition
  rw [Tree.record?, Tree.tagged?_node (by decide)]
  rfl

theorem constrain_empty :
    constrain (Node.columnDefinition name type) .empty = Node.columnDefinition name type := by
  rw [constrain_columnDefinition]
  rfl

theorem definedColumn?_constrain :
    definedColumn? (constrain (Node.columnDefinition name type) constraints) = some name := by
  rw [constrain_columnDefinition, definedColumn?, Tree.recordOf?, Tree.tagged?_node (by decide)]
  rcases constraints with ⟨_ | ⟨first, rest⟩⟩ <;> rfl

theorem constraintsOf_constrain :
    constraintsOf (constrain (Node.columnDefinition name type) constraints) = constraints := by
  rw [constrain_columnDefinition, constraintsOf, Tree.record?, Tree.tagged?_node (by decide)]
  rcases constraints with ⟨_ | ⟨first, rest⟩⟩ <;> rfl

theorem constrain_constrain (changed : ColumnConstraints) :
    constrain (constrain (Node.columnDefinition name type) constraints) changed =
      constrain (Node.columnDefinition name type) changed := by
  rw [constrain_columnDefinition, constrain_columnDefinition, constrain, Tree.record?,
    Tree.tagged?_node (by decide)]
  rcases constraints with ⟨_ | ⟨first, rest⟩⟩ <;> rcases changed with ⟨_ | ⟨other, others⟩⟩ <;> rfl

/-- A definition has the type and the constraints that it was given. -/
theorem exists_record_constrain :
    ∃ record, constrain (Node.columnDefinition name type) constraints = .node "ColumnDef" record ∧
      record.get? "typeName" = some (Node.writtenType type) ∧
      record.itemsAt "constraints" = constraints.constraints := by
  refine ⟨_, constrain_columnDefinition name type constraints, ?_, ?_⟩
  · rcases constraints with ⟨_ | ⟨first, rest⟩⟩ <;> rfl
  · rcases constraints with ⟨_ | ⟨first, rest⟩⟩ <;> rfl

end Element

/-- The constraint of a table is no definition of a column. -/
theorem definedColumn?_constraint (type : String) (fields : List (String × Tree)) :
    definedColumn? (Node.constraint type fields) = none := by
  rw [definedColumn?, Node.constraint, Tree.recordOf?, Tree.tagged?_node (by decide)]
  rfl

/-! ## The elements after a call -/

def elements (table : CreateTable) : List Tree := table.query.record.itemsAt "tableElts"

/-- What a call makes of the elements. -/
def Call.rewrite (call : Call) (elements : List Tree) : List Tree :=
  match call with
  | .column name type =>
      place definedColumn? name (constrain (Node.columnDefinition name type) .empty) elements
  | .constrainedColumn name type change =>
      place definedColumn? name (constrain (Node.columnDefinition name type) (change .empty))
        elements
  | .alterColumn name change =>
      match NamedItems.find? definedColumn? name elements with
      | some definition =>
          define (constrain definition (change (constraintsOf definition))) elements
      | none => elements
  | .dropColumn name => elements.filter fun element => definedColumn? element != some name
  | call => elements ++ call.constraint?.toList

section Elements

variable {table : CreateTable}

theorem elements_defineColumn (distinct : Fields.Distinct table.query.record.fields)
    (definition : Tree) :
    (table.defineColumn definition).elements = define definition table.elements :=
  Query.itemsAt_setList distinct _ _

theorem elements_applyTo (distinct : Fields.Distinct table.query.record.fields) (call : Call) :
    (call.applyTo table).elements = call.rewrite table.elements := by
  cases call with
  | column name type =>
      rw [Call.applyTo, column, ← constrain_empty]
      exact (elements_defineColumn distinct _).trans
        (define_eq_place (definedColumn?_constrain name type _) _)
  | constrainedColumn name type change =>
      exact (elements_defineColumn distinct _).trans
        (define_eq_place (definedColumn?_constrain name type _) _)
  | alterColumn name change =>
      change (table.alterColumn name change).elements = _
      have same : NamedItems.find? definedColumn? name table.elements = table.definition? name :=
        rfl
      cases found : table.definition? name with
      | none => simp only [alterColumn, Call.rewrite, same, found]
      | some definition =>
          simp only [alterColumn, Call.rewrite, same, found]
          exact elements_defineColumn distinct _
  | dropColumn name => exact Query.itemsAt_setList distinct _ _
  | primaryKey | unique | check | foreignKey => exact Query.itemsAt_setList distinct _ _
  | ifNotExists =>
      simp [Call.applyTo, ifNotExists, elements, Tree.itemsAt, Query.set, Query.withRecord,
        Tree.get?_set, Call.rewrite, Call.constraint?]

theorem distinct_applyTo (distinct : Fields.Distinct table.query.record.fields) (call : Call) :
    Fields.Distinct (call.applyTo table).query.record.fields := by
  cases call with
  | alterColumn name change =>
      change Fields.Distinct (table.alterColumn name change).query.record.fields
      unfold alterColumn
      split
      · exact distinct
      · exact Query.distinct_setList distinct _ _
  | ifNotExists => exact distinct.insert _ _
  | _ => exact Query.distinct_setList distinct _ _

end Elements

/-! ## The invariant -/

/-- The elements show what is told about every column, and the constraints of the table. -/
structure Shows (columns : String → Option Column) (now : Nat) (constraints : List Tree)
    (elements : List Tree) : Prop where
  column : ∀ name,
    NamedItems.find? definedColumn? name elements = (columns name).map (·.element name)
  past : ∀ name, ∀ column ∈ columns name, column.definedAt < now
  ordered : (names definedColumn? elements).Pairwise fun first second =>
    ∀ earlier ∈ columns first, ∀ later ∈ columns second, earlier.definedAt < later.definedAt
  constraints : unnamed definedColumn? elements = constraints

namespace Shows

variable {columns after : String → Option Column} {now : Nat} {constraints elements : List Tree}
  {name : String}

theorem mem_names_iff (shown : Shows columns now constraints elements) :
    name ∈ names definedColumn? elements ↔ (columns name).isSome = true := by
  rw [← NamedItems.isSome_find?_iff, shown.column, Option.isSome_map]

theorem nodup (shown : Shows columns now constraints elements) :
    (names definedColumn? elements).Nodup := by
  apply shown.ordered.imp_of_mem
  rintro first second mem _ ordered rfl
  rcases Option.isSome_iff_exists.mp (shown.mem_names_iff.mp mem) with ⟨column, found⟩
  exact Nat.lt_irrefl _ (ordered column found column found)

section Define

variable {column : Column} (shown : Shows columns now constraints elements)
  (own : after name = some column) (others : ∀ other, other ≠ name → after other = columns other)
  (time : column.definedAt = ((columns name).map (·.definedAt)).getD now)

include shown own others time

/-- A column that is there keeps its time, whether it is the one that is defined or not. -/
theorem exists_same_time {other : String} (mem : other ∈ names definedColumn? elements)
    {new : Column} (found : after other = some new) :
    ∃ old ∈ columns other, old.definedAt = new.definedAt := by
  rcases Option.isSome_iff_exists.mp (shown.mem_names_iff.mp mem) with ⟨old, before⟩
  by_cases same : other = name
  · subst same
    rw [own] at found
    cases found
    exact ⟨old, before, by rw [time, before]; rfl⟩
  · rw [others other same] at found
    exact ⟨new, found, rfl⟩

theorem ordered_define : (names definedColumn? elements).Pairwise fun first second =>
    ∀ earlier ∈ after first, ∀ later ∈ after second, earlier.definedAt < later.definedAt := by
  apply shown.ordered.imp_of_mem
  intro first second firstMem secondMem ordered earlier earlierFound later laterFound
  rcases shown.exists_same_time own others time firstMem earlierFound with
    ⟨oldEarlier, earlierMem, sameEarlier⟩
  rcases shown.exists_same_time own others time secondMem laterFound with
    ⟨oldLater, laterMem, sameLater⟩
  rw [← sameEarlier, ← sameLater]
  exact ordered oldEarlier earlierMem oldLater laterMem

theorem past_define {other : String} {new : Column} (found : after other = some new) :
    new.definedAt < now + 1 := by
  by_cases same : other = name
  · subst same
    rw [own] at found
    cases found
    rw [time]
    cases before : columns other with
    | none => exact Nat.lt_succ_self now
    | some old => exact Nat.lt_succ_of_lt (shown.past other old before)
  · rw [others other same] at found
    exact Nat.lt_succ_of_lt (shown.past other new found)

/-- A column is defined, or its definition is changed. -/
theorem define : Shows after (now + 1) constraints
    (place definedColumn? name (column.element name) elements) := by
  have named : definedColumn? (column.element name) = some name :=
    definedColumn?_constrain name column.type column.constraints
  have ordered := shown.ordered_define own others time
  refine ⟨?_, fun other new found => shown.past_define own others time found, ?_, ?_⟩
  · intro other
    rw [NamedItems.find?_place named, shown.column]
    by_cases same : name = other
    · subst same
      simp [own]
    · simp [same, others other (Ne.symm same)]
  · rw [NamedItems.names_place named]
    split
    · exact ordered
    · next absent =>
      have new : columns name = none := by
        simpa using shown.mem_names_iff.not.mp absent
      rw [List.pairwise_append]
      refine ⟨ordered, List.pairwise_singleton _ _, ?_⟩
      intro first mem second last earlier earlierFound later laterFound
      rw [List.mem_singleton.mp last, own] at laterFound
      cases laterFound
      rcases shown.exists_same_time own others time mem earlierFound with ⟨old, before, same⟩
      rw [← same, time, new]
      exact shown.past first old before
  · rw [NamedItems.unnamed_place named, shown.constraints]

end Define

theorem drop (shown : Shows columns now constraints elements) (own : after name = none)
    (others : ∀ other, other ≠ name → after other = columns other) :
    Shows after (now + 1) constraints
      (elements.filter fun element => definedColumn? element != some name) := by
  refine ⟨?_, ?_, ?_, ?_⟩
  · intro other
    rw [NamedItems.find?_filter_ne, shown.column]
    by_cases same : name = other
    · subst same
      simp [own]
    · simp [same, others other (Ne.symm same)]
  · intro other column found
    by_cases same : other = name
    · subst same
      rw [own] at found
      cases found
    · rw [others other same] at found
      exact Nat.lt_succ_of_lt (shown.past other column found)
  · rw [NamedItems.names_filter_ne]
    apply (shown.ordered.filter _).imp_of_mem
    intro first second firstMem secondMem ordered
    rw [others first (by simpa using (List.mem_filter.mp firstMem).2),
      others second (by simpa using (List.mem_filter.mp secondMem).2)]
    exact ordered
  · rw [NamedItems.unnamed_filter_ne, shown.constraints]

theorem add (shown : Shows columns now constraints elements) {constraint : Tree}
    (nameless : definedColumn? constraint = none) :
    Shows columns (now + 1) (constraints ++ [constraint]) (elements ++ [constraint]) := by
  refine ⟨?_, ?_, ?_, ?_⟩
  · intro other
    rw [NamedItems.find?_concat_of_none nameless, shown.column]
  · intro other column found
    exact Nat.lt_succ_of_lt (shown.past other column found)
  · rw [NamedItems.names_concat_of_none nameless]
    exact shown.ordered
  · rw [NamedItems.unnamed_concat_of_none nameless, shown.constraints]

theorem wait (shown : Shows columns now constraints elements) :
    Shows columns (now + 1) constraints elements :=
  ⟨shown.column, fun other column found => Nat.lt_succ_of_lt (shown.past other column found),
    shown.ordered, shown.constraints⟩

/-- The constraints of a column are changed, if the column is there. -/
theorem alter (shown : Shows columns now constraints elements)
    {change : ColumnConstraints → ColumnConstraints}
    (own : after name = (columns name).map fun column =>
      { column with constraints := change column.constraints })
    (others : ∀ other, other ≠ name → after other = columns other) :
    Shows after (now + 1) constraints ((Call.alterColumn name change).rewrite elements) := by
  have found := shown.column name
  cases before : columns name with
  | none =>
      rw [before] at own found
      have same : after = columns := by
        funext other
        by_cases here : other = name
        · rw [here, own, before]
          rfl
        · exact others other here
      rw [same, Call.rewrite, found]
      exact shown.wait
  | some column =>
      rw [before] at own found
      have altered := shown.define own others (by rw [before]; rfl)
      have named := definedColumn?_constrain name column.type (change column.constraints)
      rw [Call.rewrite, found]
      simp only [Option.map_some, Column.element, constraintsOf_constrain, constrain_constrain]
      rwa [define_eq_place named]

end Shows

/-- The step: a call changes the elements as it changes what is told about the columns. -/
theorem Shows.step {calls : List Call} {elements : List Tree}
    (shown : Shows (columnAfter? calls) calls.length (calls.filterMap Call.constraint?) elements)
    (call : Call) :
    Shows (columnAfter? (calls ++ [call])) (calls.length + 1)
      ((calls ++ [call]).filterMap Call.constraint?) (call.rewrite elements) := by
  have others {name : String} (named : call.column? = some name) :
      ∀ other, other ≠ name →
        columnAfter? (calls ++ [call]) other = columnAfter? calls other := by
    intro other differs
    rw [columnAfter?_concat, Call.onColumn_of_ne]
    rw [named]
    exact fun same => differs (Option.some.inj same).symm
  have all (unnamed : call.column? = none) :
      columnAfter? (calls ++ [call]) = columnAfter? calls := by
    funext name
    rw [columnAfter?_concat, Call.onColumn_of_ne]
    rw [unnamed]
    exact nofun
  have quiet (adds : call.constraint? = none) :
      (calls ++ [call]).filterMap Call.constraint? = calls.filterMap Call.constraint? := by
    simp [adds]
  have defined {name type : String} {given : ColumnConstraints} (named : call.column? = some name)
      (adds : call.constraint? = none)
      (own : columnAfter? (calls ++ [call]) name =
        some (.define (columnAfter? calls name) calls.length type given)) :
      Shows (columnAfter? (calls ++ [call])) (calls.length + 1)
        ((calls ++ [call]).filterMap Call.constraint?)
        (place definedColumn? name (constrain (Node.columnDefinition name type) given)
          elements) := by
    have shows := shown.define own (others named) rfl
    rw [quiet adds]
    exact shows
  cases call with
  | column name type =>
      rw [Call.rewrite]
      refine defined rfl rfl ?_
      rw [columnAfter?_concat, Call.onColumn, if_pos rfl]
  | constrainedColumn name type change =>
      rw [Call.rewrite]
      refine defined rfl rfl ?_
      rw [columnAfter?_concat, Call.onColumn, if_pos rfl]
  | alterColumn name change =>
      rw [quiet rfl]
      apply shown.alter _ (others rfl)
      rw [columnAfter?_concat, Call.onColumn, if_pos rfl]
  | dropColumn name =>
      rw [quiet rfl]
      apply shown.drop _ (others rfl)
      rw [columnAfter?_concat, Call.onColumn, if_pos rfl]
  | primaryKey | unique | check | foreignKey =>
      rw [all rfl, List.filterMap_append]
      exact shown.add (definedColumn?_constraint _ _)
  | ifNotExists =>
      have same : Call.ifNotExists.rewrite elements = elements := List.append_nil elements
      rw [all rfl, quiet rfl, same]
      exact shown.wait

/-! ## Runs -/

/-- The run: after any calls the elements show what the calls tell. -/
theorem shows_run (reference : TableRef) (calls : List Call) :
    Fields.Distinct ((start reference).run calls).query.record.fields ∧
      Shows (columnAfter? calls) calls.length (calls.filterMap Call.constraint?)
        ((start reference).run calls).elements := by
  induction calls using List.reverseRecOn with
  | nil =>
      refine ⟨?_, fun _ => rfl, (fun _ _ found => nomatch found), .nil, rfl⟩
      exact (by decide : ["relation", "oncommit"].Nodup)
  | append_singleton calls call ih =>
      rcases ih with ⟨distinct, shown⟩
      have next : (start reference).run (calls ++ [call]) =
        call.applyTo ((start reference).run calls) := List.foldl_append
      rw [next, elements_applyTo distinct, List.length_append]
      exact ⟨distinct_applyTo distinct call, shown.step call⟩

/-- Altering a column to the definition that it has changes nothing. -/
theorem alterColumn_of_same {table : CreateTable} {name : String}
    {change : ColumnConstraints → ColumnConstraints}
    (same : ∀ definition ∈ table.definition? name,
      constrain definition (change (constraintsOf definition)) = definition) :
    table.alterColumn name change = table := by
  cases found : table.definition? name with
  | none => simp only [alterColumn, found]
  | some definition =>
      have named : definedColumn? definition = some name := NamedItems.name?_of_find? found
      have placed : define definition (table.query.record.itemsAt "tableElts") =
          table.query.record.itemsAt "tableElts" :=
        (define_eq_place named _).trans (NamedItems.place_of_find? found)
      have elements : table.query.record.itemsAt "tableElts" ≠ [] :=
        List.ne_nil_of_mem (List.mem_of_find?_eq_some found)
      simp only [alterColumn, found, same definition found, defineColumn, Query.mapList, placed,
        Query.setList_itemsAt elements]

/--
A table keeps one definition for each column. After any calls its columns have different names, and
they are those that were defined and not dropped since, in the order of their first definitions
since then. Each column has the type of its last definition and the constraints that its last
definition or alteration gave it. The other elements are the constraints of the table, in the order
in which they were added. Altering a column that is not there, or not changing its constraints,
changes nothing.
-/
theorem columns_follow_calls (reference : TableRef) (calls : List Call) :
    let table := (start reference).run calls
    table.columnNames.Nodup ∧
    (∀ name, name ∈ table.columnNames ↔ (columnAfter? calls name).isSome = true) ∧
    (table.columnNames.Pairwise fun first second =>
      ∀ earlier ∈ columnAfter? calls first, ∀ later ∈ columnAfter? calls second,
        earlier.definedAt < later.definedAt) ∧
    (∀ name column, columnAfter? calls name = some column →
      ∃ record, table.definition? name = some (.node "ColumnDef" record) ∧
        record.get? "typeName" = some (Node.writtenType column.type) ∧
        record.itemsAt "constraints" = column.constraints.constraints) ∧
    unnamed definedColumn? table.elements = calls.filterMap Call.constraint? ∧
    (∀ name change, name ∉ table.columnNames → table.alterColumn name change = table) ∧
    ∀ name change, (∀ constraints, change constraints = constraints) →
      table.alterColumn name change = table := by
  intro table
  have shown : Shows (columnAfter? calls) calls.length (calls.filterMap Call.constraint?)
    table.elements := (shows_run reference calls).2
  have definition (name : String) :
      table.definition? name = (columnAfter? calls name).map (·.element name) :=
    shown.column name
  refine ⟨shown.nodup, fun _ => shown.mem_names_iff, shown.ordered, ?_, shown.constraints, ?_, ?_⟩
  · intro name column told
    rcases exists_record_constrain name column.type column.constraints with ⟨record, node, held⟩
    refine ⟨record, ?_, held⟩
    rw [definition, told, ← node]
    rfl
  · intro name change unknown
    apply alterColumn_of_same
    intro found mem
    rw [Option.mem_def, definition, Option.map_eq_some_iff] at mem
    rcases mem with ⟨column, told, _⟩
    exact absurd (shown.mem_names_iff.mpr (by rw [told]; rfl)) unknown
  · intro name change unchanged
    apply alterColumn_of_same
    intro found mem
    rw [Option.mem_def, definition, Option.map_eq_some_iff] at mem
    rcases mem with ⟨column, _, rfl⟩
    rw [unchanged, Column.element, constraintsOf_constrain, constrain_constrain]

/-- A column is dropped and defined again, and another one is altered. -/
def accountCalls : List Call :=
  [.column "id" "int", .constrainedColumn "email" "text" (·.notNull), .primaryKey ["id"],
    .column "note" "text", .dropColumn "id", .alterColumn "email" (·.unique), .unique ["email"],
    .column "id" "bigint"]

theorem accounts_follow_calls :
    let table := (start (.named "accounts")).run accountCalls
    table.columnNames = ["email", "note", "id"] ∧ table.columnNames.Nodup ∧
      (∃ record, table.definition? "email" = some (.node "ColumnDef" record) ∧
        record.get? "typeName" = some (Node.writtenType "text") ∧
        record.itemsAt "constraints" =
          [Node.constraint "CONSTR_NOTNULL" [], Node.constraint "CONSTR_UNIQUE" []]) ∧
      unnamed definedColumn? table.elements =
        [Node.keyConstraint "CONSTR_PRIMARY" ["id"], Node.keyConstraint "CONSTR_UNIQUE" ["email"]] ∧
      table.alterColumn "phone" (·.notNull) = table ∧ table.alterColumn "email" id = table := by
  intro table
  rcases columns_follow_calls (.named "accounts") accountCalls with
    ⟨distinct, _, _, defined, constraints, unknown, unchanged⟩
  have listed : table.columnNames = ["email", "note", "id"] := by decide +kernel
  have absent : "phone" ∉ table.columnNames := by simp [listed]
  have email : columnAfter? accountCalls "email" =
      some ⟨1, "text", ColumnConstraints.empty.notNull.unique⟩ := rfl
  have emailDefined := defined "email" _ email
  exact ⟨listed, distinct, emailDefined, constraints, unknown "phone" _ absent,
    unchanged "email" id fun _ => rfl⟩

end SqlTree.CreateTable

import SqlTree.Proofs.Print.Items

/-!
# Statements that can be printed

A statement can be printed if each of its clauses can, if it has the table that its kind asks for,
and if it has both arms when it says that it is a set operation. `ClausePrints` is the table of what
each clause has to hold, and `RecordPrints` puts the three demands together.

Updates of a query write or erase one clause and leave the others alone. So each of them keeps
`QueryPrints` as soon as what it writes meets the demand on that clause.
-/

namespace SqlTree

theorem Tree.isSome_get?_set {record : Tree} {name : String}
    (present : (record.get? name).isSome) (key : String) (value : Tree) :
    ((record.set key value).get? name).isSome := by
  rw [Tree.get?_set]
  split
  · rfl
  · exact present

/-- Does a statement of this kind name a table that it works on? -/
def StatementKind.hasTarget : StatementKind → Bool
  | .select => false
  | _ => true

namespace Print

/-! ## What the clauses have to hold -/

def PrintsBy (print : Tree → Printed) (tree : Tree) : Prop := Succeeds (print tree)

/-- The demand on a clause that is a list. -/
def Each (demand : Tree → Prop) (clause : Tree) : Prop := ∀ item ∈ clause.items, demand item

/-- The rows of a source of rows; a query has none. -/
def sourceRows (source : Tree) : List Tree :=
  (source.record?.map (·.itemsAt "valuesLists")).getD []

/--
The demand on the source of the rows of an INSERT. Its rows may be taken over into another source
even if the query does not print them, so they have to be printable for themselves.
-/
def SourcePrints (source : Tree) : Prop :=
  Succeeds (statement source) ∧ ∀ row ∈ sourceRows source, Succeeds (printer.valuesRow row)

def targetPrinter : StatementKind → Tree → Printed
  | .update => printer.assignment
  | _ => printer.target

/-- What a clause has to hold. There is no demand on a field that is no clause. -/
def ClausePrints (kind : StatementKind) (key : String) : Tree → Prop :=
  match key with
  | "withClause" => PrintsBy fun clause => printer.withClause (some clause)
  | "distinctClause" => PrintsBy fun clause => printer.distinctClause (some clause)
  | "onConflictClause" => PrintsBy fun clause => printer.conflictClause (some clause)
  | "targetList" => Each (PrintsBy (targetPrinter kind))
  | "cols" | "returningList" => Each (PrintsBy printer.target)
  | "fromClause" | "usingClause" => Each (PrintsBy source)
  | "whereClause" | "havingClause" | "limitCount" | "limitOffset" => PrintsBy expression
  | "groupClause" => Each (PrintsBy expression)
  | "sortClause" => Each (PrintsBy printer.sortItem)
  | "lockingClause" => Each (PrintsBy Printer.lock)
  | "larg" | "rarg" => PrintsBy select
  | "selectStmt" => SourcePrints
  | "valuesLists" => Each (PrintsBy printer.valuesRow)
  | "tableElts" => Each ElementPrints
  | "cmds" => Each (PrintsBy printer.alterCommand)
  | "indexParams" | "indexIncludingParams" => Each (PrintsBy Printer.indexElement)
  | _ => fun _ => True

structure RecordPrints (kind : StatementKind) (hasTarget : Bool) (record : Tree) : Prop where
  clauses : ∀ field ∈ record.fields, ClausePrints kind field.1 field.2
  target : hasTarget = true → (record.get? "relation").isSome
  arms : (Printer.setKeyword? (record.textAt? "op")).isSome →
    (record.get? "larg").isSome ∧ (record.get? "rarg").isSome

/-- The demands on fields that are written out. -/
def FieldsPrint (kind : StatementKind) : List (String × Tree) → Prop
  | [] => True
  | (key, value) :: rest => ClausePrints kind key value ∧ FieldsPrint kind rest

theorem FieldsPrint.clause {kind : StatementKind} {fields : List (String × Tree)}
    (print : FieldsPrint kind fields) : ∀ field ∈ fields, ClausePrints kind field.1 field.2 := by
  induction fields with
  | nil => exact nofun
  | cons field rest ih => exact List.forall_mem_cons.mpr ⟨print.1, ih print.2⟩

theorem recordPrints_object {kind : StatementKind} {hasTarget : Bool}
    {fields : List (String × Tree)} (clauses : FieldsPrint kind fields)
    (target : hasTarget = true → (Fields.get? "relation" fields).isSome)
    (arms : (Printer.setKeyword? ((Tree.object fields).textAt? "op")).isSome →
      (Fields.get? "larg" fields).isSome ∧ (Fields.get? "rarg" fields).isSome) :
    RecordPrints kind hasTarget (.object fields) :=
  ⟨clauses.clause, target, arms⟩

namespace RecordPrints

variable {kind : StatementKind} {hasTarget : Bool} {record : Tree} {key : String}
  {demand : Tree → Prop}

theorem clause (prints : RecordPrints kind hasTarget record) {value : Tree}
    (found : record.get? key = some value) : ClausePrints kind key value :=
  prints.clauses (key, value) (Fields.mem_of_get? found)

theorem whole (prints : RecordPrints kind hasTarget record)
    (stated : ClausePrints kind key = demand) : ∀ value ∈ record.get? key, demand value := by
  intro value found
  rw [← stated]
  exact prints.clause found

theorem each (prints : RecordPrints kind hasTarget record)
    (stated : ClausePrints kind key = Each demand) : ∀ item ∈ record.itemsAt key, demand item := by
  intro item mem
  unfold Tree.itemsAt at mem
  cases found : record.get? key with
  | none => simp [found] at mem
  | some value =>
      have items := prints.whole stated value found
      exact items item (by simpa [found] using mem)

/-! ## From the clauses to the statement -/

theorem succeeds_targetRelation (prints : RecordPrints kind true record) :
    Succeeds (Printer.targetRelation record) := by
  rcases Option.isSome_iff_exists.mp (prints.target rfl) with ⟨table, found⟩
  exact succeeds_required_bind.mpr ⟨table, found, succeeds_pure _⟩

theorem succeeds_selectClauses (prints : RecordPrints .select hasTarget record) :
    Succeeds (printer.selectClauses record) := by
  rw [Printer.selectClauses_eq, succeeds_concat]
  simp only [List.forall_mem_cons, succeeds_listClause, succeeds_optionalClause, succeeds_joined]
  refine ⟨succeeds_pure _, succeeds_option (succeeds_ok _) (prints.whole rfl), ?_,
    prints.each rfl, prints.whole rfl, prints.each rfl, prints.whole rfl, prints.each rfl,
    prints.whole rfl, prints.whole rfl, prints.each rfl, by simp⟩
  have targets : ∀ item ∈ record.itemsAt "targetList", Succeeds (printer.target item) :=
    prints.each rfl
  unfold Printer.targetClause
  split
  · exact succeeds_ok _
  · simpa using targets

theorem succeeds_selectBody (prints : RecordPrints .select hasTarget record) :
    Succeeds (printer.selectBody record) := by
  unfold Printer.selectBody
  split
  · next keyword operation =>
    rcases prints.arms (by simp [operation]) with ⟨left, right⟩
    rcases Option.isSome_iff_exists.mp left with ⟨leftArm, leftFound⟩
    rcases Option.isSome_iff_exists.mp right with ⟨rightArm, rightFound⟩
    rw [Printer.setOperation_eq, succeeds_concat]
    simp only [List.forall_mem_cons, succeeds_required_bind]
    exact ⟨⟨leftArm, leftFound, prints.whole rfl leftArm leftFound⟩, succeeds_pure _,
      ⟨rightArm, rightFound, prints.whole rfl rightArm rightFound⟩, by simp⟩
  · dsimp only
    split
    · exact prints.succeeds_selectClauses
    · have rows : ∀ row ∈ record.itemsAt "valuesLists", Succeeds (printer.valuesRow row) :=
        prints.each rfl
      simpa using rows

theorem succeeds_select (prints : RecordPrints .select hasTarget record) :
    Succeeds (select record) := by
  rw [select_eq, Printer.selectLevel_eq, succeeds_concat]
  simp only [List.forall_mem_cons]
  exact ⟨succeeds_option (succeeds_ok _) (prints.whole rfl), prints.succeeds_selectBody, by simp⟩

theorem succeeds_insert (prints : RecordPrints .insert true record) :
    Succeeds (printer.insert record) := by
  rw [Printer.insert_eq, succeeds_concat]
  simp only [List.forall_mem_cons, succeeds_enclosed, Printer.returning, succeeds_listClause]
  refine ⟨succeeds_pure _, prints.succeeds_targetRelation, prints.each rfl, ?_,
    succeeds_option (succeeds_ok _) (prints.whole rfl), prints.each rfl, by simp⟩
  apply succeeds_option (succeeds_pure _)
  intro source found
  have printed : SourcePrints source := prints.clause found
  simpa [Printer.insertSource] using printed.1

theorem succeeds_update (prints : RecordPrints .update true record) :
    Succeeds (printer.update record) := by
  rw [Printer.update_eq, succeeds_concat]
  simp only [List.forall_mem_cons, succeeds_commaList, Printer.returning, succeeds_listClause,
    succeeds_optionalClause]
  exact ⟨succeeds_pure _, prints.succeeds_targetRelation, succeeds_pure _, prints.each rfl,
    prints.each rfl, prints.whole rfl, prints.each rfl, by simp⟩

theorem succeeds_delete (prints : RecordPrints .delete true record) :
    Succeeds (printer.delete record) := by
  rw [Printer.delete_eq, succeeds_concat]
  simp only [List.forall_mem_cons, Printer.returning, succeeds_listClause, succeeds_optionalClause]
  exact ⟨succeeds_pure _, prints.succeeds_targetRelation, prints.each rfl, prints.whole rfl,
    prints.each rfl, by simp⟩

theorem succeeds_createTable (prints : RecordPrints .createTable true record) :
    Succeeds (printer.createTable record) := by
  have elements : ∀ element ∈ record.itemsAt "tableElts", ElementPrints element := prints.each rfl
  apply (succeeds_commaList.mpr fun element mem => (elements element mem).succeeds).bind
  intro text
  exact prints.succeeds_targetRelation.bind fun _ => succeeds_pure _

theorem succeeds_alterTable (prints : RecordPrints .alterTable true record) :
    Succeeds (printer.alterTable record) := by
  apply (succeeds_commaList.mpr (prints.each rfl)).bind
  intro text
  exact prints.succeeds_targetRelation.bind fun _ => succeeds_pure _

theorem succeeds_createIndex (prints : RecordPrints .createIndex true record) :
    Succeeds (printer.createIndex record) := by
  rw [Printer.createIndex_eq, succeeds_concat]
  simp only [List.forall_mem_cons, succeeds_commaList, succeeds_enclosed, succeeds_optionalClause]
  exact ⟨succeeds_pure _, prints.succeeds_targetRelation, succeeds_pure _, prints.each rfl,
    succeeds_pure _, prints.each rfl, prints.whole rfl, by simp⟩

/-- A record that meets the demands of its kind can be printed as a statement of that kind. -/
theorem succeeds_statement (prints : RecordPrints kind kind.hasTarget record) :
    Succeeds (statement (.node kind.name record)) := by
  rw [statement_eq, Printer.statementLevel, Tree.tagged?_node kind.isKindName_name]
  cases kind with
  | select => exact prints.succeeds_select
  | insert => exact prints.succeeds_insert
  | update => exact prints.succeeds_update
  | delete => exact prints.succeeds_delete
  | createTable => exact prints.succeeds_createTable
  | alterTable => exact prints.succeeds_alterTable
  | createIndex => exact prints.succeeds_createIndex

/-! ## Updates of a record -/

theorem set (prints : RecordPrints kind hasTarget record) {value : Tree}
    (printed : ClausePrints kind key value) (other : key ≠ "op") :
    RecordPrints kind hasTarget (record.set key value) where
  clauses field mem := by
    rcases Fields.mem_of_mem_insert mem with rfl | old
    · exact printed
    · exact prints.clauses field old
  target needed := Tree.isSome_get?_set (prints.target needed) key value
  arms operation := by
    have arms := prints.arms (by simpa [Tree.textAt?, Tree.get?_set, other] using operation)
    exact ⟨Tree.isSome_get?_set arms.1 key value, Tree.isSome_get?_set arms.2 key value⟩

theorem setNoOperation (prints : RecordPrints kind hasTarget record) :
    RecordPrints kind hasTarget (record.set "op" (.text "SETOP_NONE")) where
  clauses field mem := by
    rcases Fields.mem_of_mem_insert mem with rfl | old
    · exact trivial
    · exact prints.clauses field old
  target needed := Tree.isSome_get?_set (prints.target needed) _ _
  arms operation := by simp [Tree.textAt?, Tree.get?_set, Printer.setKeyword?] at operation

/-- A field that no statement needs to have. -/
def isOptional : String → Bool
  | "relation" | "op" | "larg" | "rarg" => false
  | _ => true

theorem ne_of_optional {name : String} (optional : isOptional key = true)
    (fixed : isOptional name = false) : key ≠ name := by
  rintro rfl
  exact Bool.false_ne_true (fixed.symm.trans optional)

theorem erase (prints : RecordPrints kind hasTarget record) (optional : isOptional key = true) :
    RecordPrints kind hasTarget (record.erase key) := by
  have kept (name : String) (fixed : isOptional name = false) :
      (record.erase key).get? name = record.get? name :=
    Tree.get?_erase_of_ne (ne_of_optional optional fixed) record
  refine ⟨?_, ?_, ?_⟩
  · intro field mem
    rw [Tree.fields_erase] at mem
    exact prints.clauses field (Fields.mem_of_mem_erase mem)
  · rw [kept "relation" rfl]
    exact prints.target
  · rw [Tree.textAt?, kept "op" rfl, kept "larg" rfl, kept "rarg" rfl]
    exact prints.arms

end RecordPrints

/-! ## Updates of a query -/

structure QueryPrints (kind : StatementKind) (hasTarget : Bool) (query : Query) : Prop where
  named : query.kind = some kind.name
  record : RecordPrints kind hasTarget query.record

namespace QueryPrints

open RecordPrints (isOptional ne_of_optional)

variable {kind : StatementKind} {hasTarget : Bool} {query : Query} {key : String}

theorem set (prints : QueryPrints kind hasTarget query) (optional : isOptional key = true)
    {value : Tree} (printed : ClausePrints kind key value) :
    QueryPrints kind hasTarget (query.set key value) :=
  ⟨prints.named, prints.record.set printed (ne_of_optional optional rfl)⟩

theorem setList (prints : QueryPrints kind hasTarget query) (optional : isOptional key = true)
    {items : List Tree} (printed : ClausePrints kind key (.list items)) :
    QueryPrints kind hasTarget (query.setList key items) := by
  unfold Query.setList
  split
  · exact ⟨prints.named, prints.record.erase optional⟩
  · exact prints.set optional printed

theorem append (prints : QueryPrints kind hasTarget query) (optional : isOptional key = true)
    {demand : Tree → Prop} (stated : ClausePrints kind key = Each demand) {items : List Tree}
    (printed : ∀ item ∈ items, demand item) :
    QueryPrints kind hasTarget (query.append key items) := by
  refine prints.setList optional ?_
  rw [stated]
  exact List.forall_mem_append.mpr ⟨prints.record.each stated, printed⟩

theorem add (prints : QueryPrints kind hasTarget query) (optional : isOptional key = true)
    {demand : Tree → Prop} (stated : ClausePrints kind key = Each demand) {item : Tree}
    (printed : demand item) : QueryPrints kind hasTarget (query.append key [item]) :=
  prints.append optional stated (List.forall_mem_singleton.mpr printed)

theorem restrict (prints : QueryPrints kind hasTarget query) (optional : isOptional key = true)
    (stated : ClausePrints kind key = PrintsBy expression) {condition : Option Tree}
    (printed : ∀ tree ∈ condition, Succeeds (expression tree)) :
    QueryPrints kind hasTarget (query.restrict key condition) := by
  cases condition with
  | none => exact prints
  | some tree =>
      have operands : ∀ operand, some operand ∈ [query.record.get? key, some tree] →
          Succeeds (expression operand) := by
        intro operand mem
        rcases List.mem_cons.mp mem with found | added
        · exact prints.record.whole stated operand found.symm
        · exact printed operand (List.mem_singleton.mp added).symm
      unfold Query.restrict Query.setOption
      dsimp only
      split
      · next combined built =>
        refine prints.set optional ?_
        rw [stated]
        exact succeeds_combine operands built
      · exact ⟨prints.named, prints.record.erase optional⟩

/-- Names the table that the statement works on. -/
theorem place (prints : QueryPrints kind hasTarget query) (table : Tree) :
    QueryPrints kind true (query.set "relation" table) where
  named := prints.named
  record :=
    have placed : RecordPrints kind hasTarget (query.record.set "relation" table) :=
      prints.record.set trivial (by decide)
    { placed with target := fun _ => by simp [Query.set, Query.withRecord, Tree.get?_set] }

end QueryPrints

end Print

end SqlTree

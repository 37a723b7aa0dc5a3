import Mathlib.Data.List.Induction
import SqlTree.Proofs.Print.Nodes
import SqlTree.Proofs.Statement.NamedItems
import SqlTree.Proofs.Statement.Writes
import SqlTree.Proofs.Tree.Repeated

/-!
# Assigning to columns

The SET list of an UPDATE is kept by column. Assignments are taken one at a time, and each sees the
items that the earlier ones have left. This file says what they come to when all of them are looked
at together: an old item stays in its place and has the value of the last assignment to its column,
if there is one, and the columns that are new follow in the order of their first assignments. So it
does not matter how assignments are divided among the calls.

The argument goes from the right. What the earlier assignments have left is known in this form, and
the last assignment is put into it, over an item that is there or behind all of them.
-/

namespace SqlTree.Update

open NamedItems (names place mem_names)

/-! ## What assignments come to -/

/-- The value of the last assignment to a column. -/
def lastValue? (assignments : List (String × Operand)) (column : String) : Option Operand :=
  Fields.get? column assignments.reverse

/-- The item that the last assignment to a column asks for. -/
def lastItem? (assignments : List (String × Operand)) (column : String) : Option Tree :=
  (lastValue? assignments column).map (assignmentNode column)

/-- What becomes of an item. One without a name, or whose column is not assigned to, stays. -/
def settled (assignments : List (String × Operand)) (item : Tree) : Tree :=
  ((assignedColumn? item).bind (lastItem? assignments)).getD item

/-- The columns that no item has, in the order of their first assignments. -/
def newColumns (assignments : List (String × Operand)) (items : List Tree) : List String :=
  (Fields.keys assignments).eraseDups.filter (· ∉ names assignedColumn? items)

/-- The old items in their places, and behind them one item for each new column. -/
def merged (assignments : List (String × Operand)) (items : List Tree) : List Tree :=
  items.map (settled assignments) ++
    (newColumns assignments items).filterMap (lastItem? assignments)

/-! ## One assignment more -/

section Step

variable {assignments : List (String × Operand)} {items : List Tree} {column : String}
  {value : Operand}

@[simp]
theorem assignedColumn?_assignmentNode (column : String) (value : Operand) :
    assignedColumn? (assignmentNode column value) = some column := by
  simp [assignedColumn?, assignmentNode, Tree.record?, Tree.textAt?, Fields.get?,
    Tree.tagged?_node (show isKindName "ResTarget" by decide)]

theorem isSome_lastItem?_iff :
    (lastItem? assignments column).isSome = true ↔ column ∈ Fields.keys assignments := by
  simp [lastItem?, lastValue?, Fields.get?_isSome, Fields.keys]

theorem assignedColumn?_of_lastItem? {item : Tree}
    (found : lastItem? assignments column = some item) : assignedColumn? item = some column := by
  rcases Option.map_eq_some_iff.mp found with ⟨value, _, rfl⟩
  exact assignedColumn?_assignmentNode column value

theorem lastItem?_concat (assignments : List (String × Operand)) (column other : String)
    (value : Operand) :
    lastItem? (assignments ++ [(column, value)]) other =
      if column = other then some (assignmentNode column value)
      else lastItem? assignments other := by
  by_cases same : column = other
  · subst same
    simp [lastItem?, lastValue?, Fields.get?]
  · simp [lastItem?, lastValue?, Fields.get?, same]

theorem assignedColumn?_settled (assignments : List (String × Operand)) (item : Tree) :
    assignedColumn? (settled assignments item) = assignedColumn? item := by
  unfold settled
  cases named : assignedColumn? item with
  | none => simp [named]
  | some column =>
      cases found : lastItem? assignments column with
      | none => simp [named, found]
      | some last => simpa [found] using assignedColumn?_of_lastItem? found

/-- The last assignment replaces what the earlier ones have made of its item. -/
theorem settled_concat (assignments : List (String × Operand)) (column : String) (value : Operand)
    (item : Tree) :
    settled (assignments ++ [(column, value)]) item =
      if assignedColumn? (settled assignments item) = some column then assignmentNode column value
      else settled assignments item := by
  rw [assignedColumn?_settled]
  unfold settled
  cases named : assignedColumn? item with
  | none => simp
  | some other =>
      by_cases same : other = column
      · subst same
        simp [lastItem?_concat]
      · simp [lastItem?_concat, same, Ne.symm same]

theorem mem_newColumns {column : String} :
    column ∈ newColumns assignments items ↔
      column ∈ Fields.keys assignments ∧ column ∉ names assignedColumn? items := by
  simp [newColumns, List.mem_eraseDups]

theorem exists_lastItem?_of_mem_newColumns (mem : column ∈ newColumns assignments items) :
    ∃ item, lastItem? assignments column = some item ∧ assignedColumn? item = some column := by
  have assigned := isSome_lastItem?_iff.mpr (mem_newColumns.mp mem).1
  rcases Option.isSome_iff_exists.mp assigned with ⟨item, found⟩
  exact ⟨item, found, assignedColumn?_of_lastItem? found⟩

/-- A column that is neither in the list nor among the new ones is new. -/
theorem newColumns_concat (assignments : List (String × Operand)) (column : String)
    (value : Operand) (items : List Tree) :
    newColumns (assignments ++ [(column, value)]) items =
      if column ∈ names assignedColumn? items ++ newColumns assignments items then
        newColumns assignments items
      else newColumns assignments items ++ [column] := by
  have keys : Fields.keys (assignments ++ [(column, value)]) =
    Fields.keys assignments ++ [column] := by simp [Fields.keys]
  rw [newColumns, keys, Fields.eraseDups_concat]
  simp only [List.mem_append, mem_newColumns]
  by_cases assigned : column ∈ Fields.keys assignments
  · have known : column ∈ names assignedColumn? items ∨
        column ∈ Fields.keys assignments ∧ column ∉ names assignedColumn? items := by tauto
    rw [if_pos assigned, if_pos known, newColumns]
  · by_cases old : column ∈ names assignedColumn? items
    · simp [assigned, old, newColumns]
    · simp [assigned, old, newColumns]

theorem names_merged (assignments : List (String × Operand)) (items : List Tree) :
    names assignedColumn? (merged assignments items) =
      names assignedColumn? items ++ newColumns assignments items := by
  have old : names assignedColumn? (items.map (settled assignments)) =
      names assignedColumn? items := by
    simp only [names, List.filterMap_map, Function.comp_def, assignedColumn?_settled]
  have new : names assignedColumn?
      ((newColumns assignments items).filterMap (lastItem? assignments)) =
        newColumns assignments items := by
    have named : ∀ column ∈ newColumns assignments items,
        (lastItem? assignments column).bind assignedColumn? = some column := by
      intro column mem
      rcases exists_lastItem?_of_mem_newColumns mem with ⟨item, found, itemNamed⟩
      rw [found]
      exact itemNamed
    rw [names, List.filterMap_filterMap, List.filterMap_congr named, List.filterMap_some]
  rw [merged, NamedItems.names_append, old, new]

/-- Names that are distinct stay so. -/
theorem nodup_names_merged (assignments : List (String × Operand))
    (distinct : (names assignedColumn? items).Nodup) :
    (names assignedColumn? (merged assignments items)).Nodup := by
  rw [names_merged]
  induction assignments using List.reverseRecOn with
  | nil => simpa [newColumns] using distinct
  | append_singleton assignments last ih =>
      rw [newColumns_concat]
      split
      · exact ih
      · next unknown =>
        rw [← List.append_assoc, List.nodup_append]
        refine ⟨ih, by simp, ?_⟩
        rintro name known other single rfl
        rw [List.mem_singleton.mp single] at known
        exact unknown known

/-- The step: one assignment more. -/
theorem assign_merged (column : String) (value : Operand)
    (distinct : (names assignedColumn? (merged assignments items)).Nodup) :
    assign column value (merged assignments items) =
      merged (assignments ++ [(column, value)]) items := by
  rw [assign_eq_place]
  by_cases present : column ∈ names assignedColumn? (merged assignments items)
  · have same : newColumns (assignments ++ [(column, value)]) items =
        newColumns assignments items := by
      rw [newColumns_concat, ← names_merged, if_pos present]
    rw [NamedItems.place_of_mem distinct present, merged, merged, List.map_append, same]
    congr 1
    · rw [List.map_map]
      apply List.map_congr_left
      intro item _
      exact (settled_concat assignments column value item).symm
    · rw [List.map_filterMap]
      apply List.filterMap_congr
      intro other mem
      rcases exists_lastItem?_of_mem_newColumns mem with ⟨item, found, itemNamed⟩
      rw [lastItem?_concat, found, Option.map_some, itemNamed]
      by_cases replaced : column = other
      · simp [replaced]
      · simp [replaced, Ne.symm replaced]
  · have added : newColumns (assignments ++ [(column, value)]) items =
        newColumns assignments items ++ [column] := by
      rw [newColumns_concat, ← names_merged, if_neg present]
    have olds : items.map (settled (assignments ++ [(column, value)])) =
        items.map (settled assignments) := by
      apply List.map_congr_left
      intro item mem
      rw [settled_concat, if_neg]
      intro named
      apply present
      exact mem_names.mpr ⟨_, List.mem_append_left _ (List.mem_map_of_mem mem), named⟩
    have news : (newColumns assignments items).filterMap
        (lastItem? (assignments ++ [(column, value)])) =
          (newColumns assignments items).filterMap (lastItem? assignments) := by
      apply List.filterMap_congr
      intro other mem
      rw [lastItem?_concat, if_neg]
      rintro rfl
      apply present
      rw [names_merged]
      exact List.mem_append_right _ mem
    rw [NamedItems.place_of_not_mem present, merged, merged, added, List.filterMap_append, olds,
      news, List.append_assoc]
    simp [lastItem?_concat]

theorem lastItem?_of_not_mem (earlier : List (String × Operand)) (column : String)
    (value : Operand) {later : List (String × Operand)} (last : column ∉ Fields.keys later) :
    lastItem? (earlier ++ (column, value) :: later) column =
      some (assignmentNode column value) := by
  induction later using List.reverseRecOn with
  | nil => rw [lastItem?_concat, if_pos rfl]
  | append_singleton later next ih =>
      simp only [Fields.keys, List.map_append, List.map_cons, List.map_nil, List.mem_append,
        List.mem_singleton, not_or] at last
      rw [← List.cons_append, ← List.append_assoc, lastItem?_concat, if_neg (Ne.symm last.2)]
      exact ih last.1

/-- What a column was last given is in the list, in an old place or in a new one. -/
theorem mem_merged_of_lastItem? {item : Tree} (found : lastItem? assignments column = some item) :
    item ∈ merged assignments items := by
  have assigned : column ∈ Fields.keys assignments := by
    rw [← isSome_lastItem?_iff, found]
    rfl
  by_cases old : column ∈ names assignedColumn? items
  · rcases mem_names.mp old with ⟨before, mem, named⟩
    have replaced : settled assignments before = item := by simp [settled, named, found]
    exact List.mem_append_left _ (List.mem_map.mpr ⟨before, mem, replaced⟩)
  · have new := mem_newColumns.mpr ⟨assigned, old⟩
    exact List.mem_append_right _ (List.mem_filterMap.mpr ⟨column, new, found⟩)

theorem settled_of_unassigned {item : Tree}
    (unassigned : ∀ column, assignedColumn? item = some column →
      column ∉ Fields.keys assignments) : settled assignments item = item := by
  unfold settled
  cases named : assignedColumn? item with
  | none => rfl
  | some column =>
      have absent := isSome_lastItem?_iff.not.mpr (unassigned column named)
      simp only [Bool.not_eq_true, Option.isSome_eq_false_iff, Option.isNone_iff_eq_none] at absent
      simp [absent]

/-- The run: assignments one after another leave the merged list. -/
theorem foldl_assign (distinct : (names assignedColumn? items).Nodup)
    (assignments : List (String × Operand)) :
    assignments.foldl (fun items (column, value) => assign column value items) items =
      merged assignments items := by
  induction assignments using List.reverseRecOn with
  | nil =>
      have untouched : settled [] = id := by
        funext item
        exact settled_of_unassigned fun _ _ => List.not_mem_nil
      simp [merged, newColumns, untouched]
  | append_singleton assignments last ih =>
      rw [List.foldl_append, ih]
      exact assign_merged last.1 last.2 (nodup_names_merged assignments distinct)

end Step

/-! ## Calls -/

/-- The items of the SET list. -/
def assignments (update : Update) : List Tree := update.query.record.itemsAt "targetList"

theorem assignedColumns_eq_names (update : Update) :
    update.assignedColumns = names assignedColumn? update.assignments := rfl

theorem changedIn_set (update : Update) (assigned : List (String × Operand)) :
    Query.ChangedIn ["targetList"] update.query (update.set assigned).query :=
  .setList (List.mem_singleton_self _) _ _

theorem distinct_set {update : Update} (distinct : Fields.Distinct update.query.record.fields)
    (assigned : List (String × Operand)) :
    Fields.Distinct (update.set assigned).query.record.fields :=
  Query.distinct_setList distinct _ _

theorem assignments_set {update : Update} (distinct : Fields.Distinct update.query.record.fields)
    (assigned : List (String × Operand)) :
    (update.set assigned).assignments =
      assigned.foldl (fun items (column, value) => assign column value items)
        update.assignments :=
  Query.itemsAt_setList distinct _ _

/-- Calls one after another take all of their assignments one after another. -/
theorem assignments_foldl_set {update : Update}
    (distinct : Fields.Distinct update.query.record.fields)
    (calls : List (List (String × Operand))) :
    (calls.foldl set update).assignments =
      calls.flatten.foldl (fun items (column, value) => assign column value items)
        update.assignments := by
  induction calls generalizing update with
  | nil => rfl
  | cons call rest ih =>
      rw [List.foldl_cons, ih (distinct_set distinct call), assignments_set distinct,
        List.flatten_cons, List.foldl_append]

theorem changedIn_foldl_set (update : Update) (calls : List (List (String × Operand))) :
    Query.ChangedIn ["targetList"] update.query (calls.foldl set update).query := by
  induction calls generalizing update with
  | nil => exact .refl _
  | cons call rest ih => exact (changedIn_set update call).trans (ih (update.set call))

/--
Calls of SET merge their assignments by column. The items that were there stay in their places and
each new column follows in the order of its first assignment. An item has the value of the last
assignment to its column, and one whose column is not assigned to is as it was. Names that are
distinct stay so, it does not matter how assignments are divided among calls, and nothing changes
outside the SET list. The record is an object like any other and has no field twice.
-/
theorem set_merges_by_column (update : Update) (calls : List (List (String × Operand)))
    (fieldsDistinct : Fields.Distinct update.query.record.fields)
    (columnsDistinct : update.assignedColumns.Nodup) :
    let assigned := calls.flatten
    let final := calls.foldl set update
    final.assignments = merged assigned update.assignments ∧
    final.assignedColumns = update.assignedColumns ++ newColumns assigned update.assignments ∧
    final.assignedColumns.Nodup ∧
    (∀ earlier column value later, assigned = earlier ++ (column, value) :: later →
      column ∉ Fields.keys later → assignmentNode column value ∈ final.assignments) ∧
    (∀ (position : Nat) (item : Tree), update.assignments[position]? = some item →
      (∀ column, assignedColumn? item = some column → column ∉ Fields.keys assigned) →
      final.assignments[position]? = some item) ∧
    (∀ first second : List (String × Operand),
      ((update.set first).set second).assignments = (update.set (first ++ second)).assignments) ∧
    (∀ key, key ≠ "targetList" →
      final.query.record.get? key = update.query.record.get? key) ∧
    final.query.kind = update.query.kind ∧ final.query.parser = update.query.parser := by
  intro assigned final
  have run : final.assignments = merged assigned update.assignments :=
    (assignments_foldl_set fieldsDistinct calls).trans (foldl_assign columnsDistinct assigned)
  have changed : Query.ChangedIn ["targetList"] update.query final.query :=
    changedIn_foldl_set update calls
  have columns : final.assignedColumns =
      update.assignedColumns ++ newColumns assigned update.assignments := by
    rw [assignedColumns_eq_names, run, names_merged]
    rfl
  refine ⟨run, columns, ?_, ?_, ?_, ?_, ?_, changed.kind, changed.parser⟩
  · rw [assignedColumns_eq_names, run]
    exact nodup_names_merged assigned columnsDistinct
  · intro earlier column value later split last
    have found : lastItem? assigned column = some (assignmentNode column value) := by
      rw [split]
      exact lastItem?_of_not_mem earlier column value last
    rw [run]
    exact mem_merged_of_lastItem? found
  · intro position item found unassigned
    rw [run, merged, List.getElem?_append_left, List.getElem?_map, found]
    · exact congrArg some (settled_of_unassigned unassigned)
    · rw [List.length_map]
      exact (List.getElem?_eq_some_iff.mp found).1
  · intro first second
    rw [assignments_set (distinct_set fieldsDistinct first), assignments_set fieldsDistinct,
      assignments_set fieldsDistinct, List.foldl_append]
  · intro key other
    exact changed.get?_of_not_mem (by simpa using other)

/-- An item that gives its value to no single column. -/
def unnamedItem : Tree := .node "ResTarget" (.object [("val", Node.column "defaults")])

/-- An UPDATE as a parser may report it. -/
def restock : Update :=
  ⟨.ofKind .update <| .object
    [("relation", Node.relation "goods"),
      ("targetList", .list
        [assignmentNode "price" (.int 10), unnamedItem, assignmentNode "stock" (.int 2)]),
      ("whereClause", Expr.isNull (.text "sold"))]⟩

/-- Three calls, one of them empty, that assign to one old and to two new columns. -/
theorem restock_merged :
    let calls : List (List (String × Operand)) :=
      [[("stock", .int 5), ("note", .text "new")], [], [("note", .null), ("seen", .bool true)]]
    let final := calls.foldl set restock
    Fields.Distinct restock.query.record.fields ∧ restock.assignedColumns.Nodup ∧
      final.assignments =
        [assignmentNode "price" (.int 10), unnamedItem, assignmentNode "stock" (.int 5),
          assignmentNode "note" .null, assignmentNode "seen" (.bool true)] ∧
      final.assignedColumns = ["price", "stock", "note", "seen"] ∧
      final.query.record.get? "whereClause" = restock.query.record.get? "whereClause" := by
  intro calls final
  have fieldsDistinct : Fields.Distinct restock.query.record.fields := by decide +kernel
  have columnsDistinct : restock.assignedColumns.Nodup := by decide +kernel
  rcases set_merges_by_column restock calls fieldsDistinct columnsDistinct with
    ⟨items, columns, _, _, _, _, others, _⟩
  exact ⟨fieldsDistinct, columnsDistinct, items.trans (by decide +kernel),
    columns.trans (by decide +kernel), others "whereClause" (by decide)⟩

end SqlTree.Update

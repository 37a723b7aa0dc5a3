import SqlTree.Proofs.Print.Nodes

/-!
# Trees that can be printed

When printing gives a text and not a fault. A concatenation succeeds if all its pieces do, a list if
all its items do, and an optional clause if it is absent or its tree can be printed. For each kind
of node this gives what its parts must satisfy.
-/

namespace SqlTree.Print

def Succeeds {α : Type} (result : Except PrintError α) : Prop := ∃ value, result = .ok value

section Outcomes

variable {α β : Type}

@[simp]
theorem succeeds_ok (value : α) : Succeeds (.ok value) := ⟨value, rfl⟩

@[simp]
theorem succeeds_pure (value : α) : Succeeds (pure value) := ⟨value, rfl⟩

@[simp]
theorem not_succeeds_error (fault : PrintError) :
    ¬Succeeds (.error fault : Except PrintError α) := by
  rintro ⟨value, impossible⟩
  cases impossible

theorem Succeeds.bind {result : Except PrintError α} {next : α → Except PrintError β}
    (succeeds : Succeeds result) (further : ∀ value, Succeeds (next value)) :
    Succeeds (result >>= next) := by
  rcases succeeds with ⟨value, rfl⟩
  exact further value

@[simp]
theorem succeeds_map {result : Except PrintError α} {change : α → β} :
    Succeeds (change <$> result) ↔ Succeeds result := by
  cases result <;> simp [Succeeds]

end Outcomes

@[simp]
theorem succeeds_required {record : Tree} {key : String} :
    Succeeds (required record key) ↔ ∃ value, record.get? key = some value := by
  unfold required
  cases record.get? key <;> simp

theorem succeeds_required_bind {record : Tree} {key : String} {print : Tree → Printed} :
    Succeeds (required record key >>= print) ↔
      ∃ value, record.get? key = some value ∧ Succeeds (print value) := by
  rw [Comparison.required_bind_eq]
  cases record.get? key <;> simp

theorem succeeds_requiredRecord {tree : Tree} {part : String} {print : Tree → Printed} :
    Succeeds (requiredRecord tree part >>= print) ↔
      ∃ record, tree.record? = some record ∧ Succeeds (print record) := by
  rw [Comparison.requiredRecord_bind]
  cases tree.record? <;> simp

theorem succeeds_concat {pieces : List Printed} :
    Succeeds (concat pieces) ↔ ∀ piece ∈ pieces, Succeeds piece := by
  induction pieces with
  | nil => simp
  | cons piece rest ih =>
      cases piece with
      | ok text => simpa using ih
      | error fault => simp

@[simp]
theorem succeeds_joined {separator : String} {items : List Tree} {print : Tree → Printed} :
    Succeeds (joined separator items print) ↔ ∀ item ∈ items, Succeeds (print item) := by
  have texts : Succeeds (items.mapM print) ↔ ∀ item ∈ items, Succeeds (print item) := by
    induction items with
    | nil => simp
    | cons item rest ih => cases printed : print item <;> simp [printed, ih]
  simpa [joined] using texts

@[simp]
theorem succeeds_commaList {items : List Tree} {print : Tree → Printed} :
    Succeeds (commaList items print) ↔ ∀ item ∈ items, Succeeds (print item) :=
  succeeds_joined

@[simp]
theorem succeeds_listClause {keyword : String} {items : List Tree} {print : Tree → Printed} :
    Succeeds (listClause keyword items print) ↔ ∀ item ∈ items, Succeeds (print item) := by
  cases items with
  | nil => simp [listClause]
  | cons item rest => simp [listClause]

@[simp]
theorem succeeds_optionalClause {keyword : String} {tree : Option Tree} {print : Tree → Printed} :
    Succeeds (optionalClause keyword tree print) ↔ ∀ part ∈ tree, Succeeds (print part) := by
  cases tree <;> simp [optionalClause]

theorem succeeds_option {print : Option Tree → Printed} {option : Option Tree}
    (absent : Succeeds (print none)) (present : ∀ value ∈ option, Succeeds (print (some value))) :
    Succeeds (print option) := by
  cases option with
  | none => exact absent
  | some value => exact present value rfl

@[simp]
theorem succeeds_enclosed {word : String} {items : List Tree} {print : Tree → Printed} :
    Succeeds (Printer.enclosed word items print) ↔ ∀ item ∈ items, Succeeds (print item) := by
  cases items with
  | nil => simp [Printer.enclosed]
  | cons item rest => simp [Printer.enclosed]

/-! ## Constants and names -/

theorem succeeds_columnRef (parts : List String) : Succeeds (expression (Node.columnRef parts)) :=
  ⟨_, expression_columnRef parts⟩

theorem succeeds_textConstant (text : String) : Succeeds (expression (Node.textConstant text)) :=
  ⟨_, expression_textConstant text⟩

theorem succeeds_intConstant (value : Int) : Succeeds (expression (Node.intConstant value)) := by
  rw [Node.intConstant, Node.constant, expression_node (by decide)]
  exact ⟨_, rfl⟩

theorem succeeds_boolConstant (value : Bool) : Succeeds (expression (Node.boolConstant value)) := by
  rw [Node.boolConstant, Node.constant, expression_node (by decide)]
  exact ⟨_, rfl⟩

theorem succeeds_nullConstant : Succeeds (expression Node.nullConstant) := by
  rw [Node.nullConstant, expression_node (by decide)]
  exact ⟨_, rfl⟩

theorem succeeds_cast {argument type : Tree} (printed : Succeeds (expression argument)) :
    Succeeds (expression (.node "TypeCast" (.object [("arg", argument), ("typeName", type)]))) := by
  rw [expression_node (by decide)]
  change Succeeds (printer.cast _)
  rw [Printer.cast_eq, succeeds_concat]
  simp [succeeds_required_bind, Fields.get?_cons, printed]

theorem succeeds_floatConstant (value : Binary64) :
    Succeeds (expression (Node.floatConstant value)) := by
  unfold Node.floatConstant
  split
  · rw [Node.constant, expression_node (by decide)]
    exact ⟨_, rfl⟩
  · exact succeeds_cast (succeeds_textConstant _)

theorem succeeds_parameter (number : Nat) : Succeeds (expression (Node.parameter number)) := by
  rw [Node.parameter, expression_node (by decide)]
  exact ⟨_, rfl⟩

/-- An operand that can be printed wherever it stands. -/
structure OperandPrints (operand : Operand) : Prop where
  reference : Succeeds (expression operand.reference)
  literal : Succeeds (expression operand.literal)

theorem operandPrints_text (value : String) : OperandPrints (.text value) :=
  ⟨⟨_, expression_column value⟩, succeeds_textConstant value⟩

theorem operandPrints_node {tree : Tree} (printed : Succeeds (expression tree)) :
    OperandPrints (.node tree) :=
  ⟨printed, printed⟩

theorem operandPrints_int (value : Int) : OperandPrints (.int value) :=
  ⟨succeeds_intConstant value, succeeds_intConstant value⟩

theorem operandPrints_float (value : Binary64) : OperandPrints (.float value) :=
  ⟨succeeds_floatConstant value, succeeds_floatConstant value⟩

theorem operandPrints_bool (value : Bool) : OperandPrints (.bool value) :=
  ⟨succeeds_boolConstant value, succeeds_boolConstant value⟩

theorem operandPrints_null : OperandPrints .null := ⟨succeeds_nullConstant, succeeds_nullConstant⟩

/-! ## Operators -/

theorem succeeds_binaryNode {kind operator : String} {left right : Tree}
    (plain : kind = "AEXPR_OP" ∨ kind = "AEXPR_LIKE" ∨ kind = "AEXPR_ILIKE")
    (leftPrinted : Succeeds (expression left)) (rightPrinted : Succeeds (expression right)) :
    Succeeds (expression (Expr.binaryNode kind operator left right)) := by
  rw [expression_binaryNode, succeeds_concat]
  rcases plain with rfl | rfl | rfl <;>
    simp [Printer.rightHandSide, binaryRecord, Tree.textAt?, Fields.get?_cons, leftPrinted,
      rightPrinted]

theorem succeeds_between {operator : String} {left low high : Tree}
    (leftPrinted : Succeeds (expression left)) (lowPrinted : Succeeds (expression low))
    (highPrinted : Succeeds (expression high)) :
    Succeeds (expression (Expr.binaryNode "AEXPR_BETWEEN" operator left
      (Node.list [low, high]))) := by
  rw [expression_binaryNode, succeeds_concat]
  have opened : (Node.list [low, high]).recordOf? "List" =
      some (.object [("items", .list [low, high])]) := rfl
  simp only [Printer.rightHandSide, binaryRecord, Tree.textAt?, Tree.get?_object, Fields.get?_cons,
    if_true, Option.bind_some, Tree.text?_text, printer_expression, Comparison.bounds_eq, opened]
  simp [Comparison.between, Tree.itemsAt, Fields.get?_cons, leftPrinted, lowPrinted, highPrinted]

theorem succeeds_isIn {operator : String} {left : Tree} {items : List Tree}
    (leftPrinted : Succeeds (expression left))
    (itemsPrinted : ∀ item ∈ items, Succeeds (expression item)) :
    Succeeds (expression (Expr.binaryNode "AEXPR_IN" operator left (Node.list items))) := by
  have opened : ((Node.list items).record?.map (·.itemsAt "items")).getD [] = items := rfl
  rw [expression_binaryNode, succeeds_concat]
  simpa [Printer.rightHandSide, binaryRecord, Tree.textAt?, Fields.get?_cons, leftPrinted, opened]
    using itemsPrinted

theorem succeeds_argument {tree : Tree} :
    Succeeds (printer.argument tree) ↔ Succeeds (expression tree) := by
  simp [Printer.argument]

theorem succeeds_boolean {record : Tree} :
    Succeeds (printer.boolean record) ↔
      ∀ operand ∈ record.itemsAt "args", Succeeds (expression operand) := by
  have arguments := @succeeds_joined "" (record.itemsAt "args") printer.argument
  simp only [joined, bind_pure_comp, succeeds_map, succeeds_argument] at arguments
  simpa [Printer.boolean] using arguments

theorem succeeds_booleanNode {operator : String} {operands : List Tree} :
    Succeeds (expression (Expr.boolean operator operands)) ↔
      ∀ operand ∈ operands, Succeeds (expression operand) := by
  rw [Expr.boolean, expression_node (by decide)]
  exact succeeds_boolean

theorem succeeds_of_mem_parts {operator : String} {condition part : Tree}
    (printed : Succeeds (expression condition)) (mem : part ∈ Expr.parts operator condition) :
    Succeeds (expression part) := by
  unfold Expr.parts at mem
  split at mem
  · next record found =>
    split at mem
    · rw [Tree.eq_node_of_recordOf? found, expression_node (by decide)] at printed
      exact succeeds_boolean.mp printed part mem
    · exact List.mem_singleton.mp mem ▸ printed
  · exact List.mem_singleton.mp mem ▸ printed

theorem succeeds_combine {operator : String} {conditions : List (Option Tree)} {condition : Tree}
    (printed : ∀ operand, some operand ∈ conditions → Succeeds (expression operand))
    (built : Expr.combine operator conditions = some condition) :
    Succeeds (expression condition) := by
  have partsPrinted : ∀ part ∈ (conditions.filterMap id).flatMap (Expr.parts operator),
      Succeeds (expression part) := by
    intro part mem
    rcases List.mem_flatMap.mp mem with ⟨operand, operandMem, partMem⟩
    have present : some operand ∈ conditions := by simpa using operandMem
    exact succeeds_of_mem_parts (printed operand present) partMem
  unfold Expr.combine at built
  split at built
  · cases built
  · next part single =>
    have mem : part ∈ (conditions.filterMap id).flatMap (Expr.parts operator) := by
      rw [single]
      exact List.mem_singleton_self part
    exact Option.some.inj built ▸ partsPrinted part mem
  · exact Option.some.inj built ▸ succeeds_booleanNode.mpr partsPrinted

/-! ## Calls, tests and subqueries -/

theorem succeeds_nullTest {test : String} {operand : Operand} (printed : OperandPrints operand) :
    Succeeds (expression (Expr.nullTest test operand)) := by
  rw [Expr.nullTest, expression_node (by decide)]
  change Succeeds (printer.nullTest _)
  simp [Printer.nullTest, succeeds_required_bind, Fields.get?_cons, printed.reference]

theorem succeeds_callRecord {record : Tree}
    (printed : ∀ argument ∈ record.itemsAt "args", Succeeds (expression argument)) :
    Succeeds (printer.call record) := by
  unfold Printer.call
  split
  · simp
  · simpa using printed

theorem succeeds_call (name : String) {operands : List Operand}
    (printed : ∀ operand ∈ operands, OperandPrints operand) :
    Succeeds (expression (Node.call name operands)) := by
  have arguments : ∀ argument ∈ operands.map Operand.reference, Succeeds (expression argument) := by
    intro argument mem
    rcases List.mem_map.mp mem with ⟨operand, operandMem, rfl⟩
    exact (printed operand operandMem).reference
  rw [Node.call, expression_node (by decide)]
  apply succeeds_callRecord
  rcases given : operands.map Operand.reference with _ | ⟨first, _ | ⟨second, rest⟩⟩ <;>
    rw [given] at arguments
  · simp [Tree.itemsAt, Fields.get?]
  · dsimp only
    split
    · simp [Tree.itemsAt, Fields.get?]
    · simpa [Tree.itemsAt, Fields.get?_cons] using arguments
  · simpa [Tree.itemsAt, Fields.get?_cons] using arguments

theorem succeeds_rowExists {query : Tree} (printed : Succeeds (statement query)) :
    Succeeds (expression (Expr.rowExists query)) := by
  rw [Expr.rowExists, expression_node (by decide)]
  change Succeeds (printer.subquery _)
  simp [Printer.subquery, succeeds_required_bind, Tree.textAt?, Fields.get?_cons, printed]

theorem succeeds_isInQuery {operand : Operand} {query : Tree}
    (operandPrinted : OperandPrints operand)
    (queryPrinted : Succeeds (statement query)) :
    Succeeds (expression (Expr.isInQuery operand query)) := by
  rw [Expr.isInQuery, expression_node (by decide)]
  change Succeeds (printer.subquery _)
  unfold Printer.subquery
  rw [← bind_assoc]
  apply Succeeds.bind
  · simpa [succeeds_required_bind, Fields.get?_cons] using queryPrinted
  · intro text
    simp [succeeds_required_bind, Tree.textAt?, Fields.get?_cons, operandPrinted.reference]

end SqlTree.Print

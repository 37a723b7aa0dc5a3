import SqlTree.Node.Condition
import SqlTree.Node.Relation
import SqlTree.Proofs.Print.Fixpoint
import SqlTree.Proofs.Text.Splitting

/-!
# What the nodes of the library print

One equation for each constructor of an expression: what it prints, in terms of what its operands
print. A name comes out as it was written, with its dots.
-/

namespace SqlTree

theorem Fields.get?_cons {α : Type} (key name : String) (value : α) (rest : List (String × α)) :
    get? key ((name, value) :: rest) = if name = key then some value else get? key rest := rfl

namespace Tree

@[simp]
theorem get?_object (fields : List (String × Tree)) (key : String) :
    (object fields).get? key = Fields.get? key fields := rfl

@[simp]
theorem text?_text (value : String) : (text value).text? = some value := rfl

@[simp]
theorem items_list (items : List Tree) : (list items).items = items := rfl

end Tree

@[simp]
theorem Node.nameText?_name (text : String) : Node.nameText? (Node.name text) = some text := rfl

namespace Print

@[simp]
theorem printer_statement : printer.statement = statement := rfl

@[simp]
theorem printer_select : printer.select = select := rfl

@[simp]
theorem printer_source : printer.source = source := rfl

@[simp]
theorem printer_expression : printer.expression = expression := rfl

theorem expression_node {kind : String} (named : isKindName kind = true) (record : Tree) :
    expression (.node kind record) = printer.expressionOf kind record := by
  rw [expression_eq, Printer.expressionLevel, Tree.tagged?_node named]

/-! ## Names and constants -/

@[simp]
theorem columnPart_node (part : String) : columnPart (Node.columnPart part) = part := by
  unfold Node.columnPart
  split
  · next star => exact star.symm
  · rfl

theorem expression_columnRef (parts : List String) :
    expression (Node.columnRef parts) = .ok (Text.join "." parts) := by
  have written : (parts.map Node.columnPart).map columnPart = parts := by
    simp [List.map_map, Function.comp_def]
  rw [Node.columnRef, expression_node (by decide)]
  change Except.ok (Text.join "." ((parts.map Node.columnPart).map columnPart)) = _
  rw [written]

theorem expression_column (text : String) : expression (Node.column text) = .ok text := by
  rw [Node.column, expression_columnRef]
  exact congrArg Except.ok (Text.join_split '.' text)

theorem expression_textConstant (text : String) :
    expression (Node.textConstant text) = .ok (quote text) := by
  rw [Node.textConstant, Node.constant, expression_node (by decide)]
  rfl

theorem expression_intConstant {value : Int} (small : value < 0x8000000000000000) :
    expression (Node.intConstant value) = .ok (toString value) := by
  rw [Node.intConstant, Node.constant, expression_node (by decide)]
  simp [Printer.expressionOf, constant, Tree.flagAt, Fields.get?, Tree.int?, small]

/-- A relation is printed by the name that it was given, with or without a schema. -/
theorem relation_relation (name : String) : relation (Node.relation name) = name := by
  unfold Node.relation
  split
  · next schema table split => exact (Text.eq_append_of_splitFirst? split).symm
  · rfl

theorem source_table (name : String) : source (Node.table name) = .ok name := by
  rw [Node.table, source_eq, Printer.sourceLevel, Tree.tagged?_node (by decide)]
  exact congrArg Except.ok (relation_relation name)

/-! ## Operators -/

def binaryRecord (kind operator : String) (left right : Tree) : Tree :=
  .object
    [("kind", .text kind), ("name", Node.names [operator]), ("lexpr", left), ("rexpr", right)]

theorem expression_binaryNode (kind operator : String) (left right : Tree) :
    expression (Expr.binaryNode kind operator left right) =
      concat [expression left,
        printer.rightHandSide (binaryRecord kind operator left right) "" right] := by
  rw [Expr.binaryNode, expression_node (by decide)]
  exact printer.binary_eq _

theorem expression_operator (operator : String) (left right : Tree) :
    expression (Expr.binaryNode "AEXPR_OP" operator left right) =
      concat [expression left, pure (" " ++ operator ++ " "), expression right] := by
  rw [expression_binaryNode]
  simp [Printer.rightHandSide, Printer.operator, binaryRecord, Tree.textAt?, Tree.itemsAt,
    Fields.get?_cons, Node.names]

theorem expression_negation (condition : Tree) :
    expression (Expr.boolean "NOT_EXPR" [condition]) =
      ("NOT " ++ ·) <$> printer.argument condition := by
  rw [Expr.boolean, expression_node (by decide)]
  change printer.boolean _ = _
  simp [Printer.boolean, Tree.textAt?, Tree.itemsAt, Fields.get?_cons, Text.join]

theorem expression_conjunction (conditions : List Tree) :
    expression (Expr.boolean "AND_EXPR" conditions) =
      joined " AND " conditions printer.argument := by
  rw [Expr.boolean, expression_node (by decide)]
  change printer.boolean _ = _
  simp [Printer.boolean, joined, Tree.textAt?, Tree.itemsAt, Fields.get?_cons]

theorem expression_disjunction (conditions : List Tree) :
    expression (Expr.boolean "OR_EXPR" conditions) =
      joined " OR " conditions printer.argument := by
  rw [Expr.boolean, expression_node (by decide)]
  change printer.boolean _ = _
  simp [Printer.boolean, joined, Tree.textAt?, Tree.itemsAt, Fields.get?_cons]

end Print

end SqlTree

import SqlTree.Node.Condition
import SqlTree.Parser
import SqlTree.Proofs.Tree.Distinct
import SqlTree.Statement.Constraint

/-!
# No factory repeats a name

A factory writes its fields by name, each at most once, so a node that it makes repeats no name
where its arguments repeat none. Some factories look into their arguments: a condition of the same
operator is taken apart, and the record is taken out of a node.
-/

namespace SqlTree

namespace Tidy

instance : Tidy Binary64 := plain Binary64
instance : Tidy SortDirection := plain SortDirection
instance : Tidy NullsOrder := plain NullsOrder

instance : Tidy Operand := ⟨fun operand => ∀ tree, operand = .node tree → tree.Distinct⟩

instance : Tidy TableRef := ⟨fun table => ∀ tree, table = .node tree → tree.Distinct⟩

end Tidy

namespace Node

open SqlTree.Tree (distinct_object)

@[simp]
theorem distinct_name (text : String) : (name text).Distinct := by
  simp [name, distinct_object]

@[simp]
theorem distinct_names (texts : List String) : (names texts).Distinct := by
  simp [names]

@[simp]
theorem distinct_dottedNames (text : String) : (dottedNames text).Distinct := distinct_names _

@[simp]
theorem distinct_list {items : List Tree} :
    (list items).Distinct ↔ ∀ item ∈ items, item.Distinct := by
  simp [list, distinct_object]

theorem distinct_columnPart (part : String) : (columnPart part).Distinct := by
  unfold columnPart
  split <;> simp [distinct_object]

@[simp]
theorem distinct_columnRef (parts : List String) : (columnRef parts).Distinct := by
  simp [columnRef, distinct_object, distinct_columnPart]

@[simp]
theorem distinct_typeRecord {name : String} {modifiers : List Tree} :
    (typeRecord name modifiers).Distinct ↔ ∀ modifier ∈ modifiers, modifier.Distinct := by
  unfold typeRecord
  split
  · next empty => simp [distinct_object, List.isEmpty_iff.mp empty]
  · simp [distinct_object]

@[simp]
theorem distinct_constant {field : String} {value : Tree} :
    (constant field value).Distinct ↔ value.Distinct := by
  simp [constant, distinct_object]

@[simp]
theorem distinct_floatConstant (value : Binary64) : (floatConstant value).Distinct := by
  unfold floatConstant
  split <;> simp [textConstant, distinct_object]

@[simp]
theorem distinct_relationRecord (schema : Option String) (name : String) :
    (relationRecord schema name).Distinct := by
  cases schema <;> simp [relationRecord, distinct_object]

@[simp]
theorem distinct_relation (text : String) : (relation text).Distinct := by
  unfold relation
  split <;> simp [relationIn]

@[simp]
theorem distinct_aliasRecord (name : String) : (aliasRecord name).Distinct := by
  simp [aliasRecord, distinct_object]

theorem distinct_subselect {query : Tree} (distinct : query.Distinct) (name : String) :
    (subselect query name).Distinct := by
  simp [subselect, distinct_object, distinct]

theorem distinct_typeModifier (text : String) : (typeModifier text).Distinct := by
  unfold typeModifier
  split <;> simp [intConstant, textConstant]

theorem distinct_of_mem_typeModifiers {text : String} {modifier : Tree}
    (mem : modifier ∈ typeModifiers text) : modifier.Distinct := by
  rcases List.mem_map.mp mem with ⟨written, -, rfl⟩
  exact distinct_typeModifier written

@[simp]
theorem distinct_writtenType (written : String) : (writtenType written).Distinct := by
  rw [writtenType]
  split
  · simp
  · split
    · simp
    · exact distinct_typeRecord.mpr fun modifier => distinct_of_mem_typeModifiers

@[simp]
theorem distinct_columnDefinition (name type : String) : (columnDefinition name type).Distinct := by
  simp [columnDefinition, distinct_object]

theorem distinct_parameter (number : Nat) : (parameter number).Distinct := by
  simp [parameter, distinct_object]

@[simp]
theorem distinct_indexElement (name : String) : (indexElement name).Distinct := by
  simp [indexElement, distinct_object]

end Node

theorem Operand.distinct_literal {operand : Operand} (tidy : IsTidy operand) :
    operand.literal.Distinct := by
  cases operand with
  | node tree => exact tidy tree rfl
  | _ =>
      simp [literal, Node.textConstant, Node.intConstant, Node.boolConstant, Node.nullConstant,
        Tree.distinct_object]

theorem Operand.distinct_reference {operand : Operand} (tidy : IsTidy operand) :
    operand.reference.Distinct := by
  cases operand with
  | text value => exact Node.distinct_columnRef _
  | _ => exact distinct_literal tidy

theorem TableRef.distinct_relation {table : TableRef} (tidy : IsTidy table) :
    table.relation.Distinct := by
  cases table with
  | named name => exact Node.distinct_relation name
  | node tree =>
      have distinct := tidy tree rfl
      change ((tree.recordOf? "RangeVar").getD tree).Distinct
      cases found : tree.recordOf? "RangeVar" with
      | none => exact distinct
      | some record => exact distinct.recordOf? found

theorem TableRef.distinct_item {table : TableRef} (tidy : IsTidy table) : table.item.Distinct := by
  cases table with
  | named name => simp [item, Node.table]
  | node tree => exact tidy tree rfl

namespace Node

variable {operand : Operand}

theorem distinct_literals {operands : List Operand} (tidy : IsTidy operands) :
    ∀ item ∈ operands.map Operand.literal, item.Distinct :=
  List.forall_mem_map.mpr fun operand mem => Operand.distinct_literal (tidy operand mem)

theorem distinct_references {operands : List Operand} (tidy : IsTidy operands) :
    ∀ item ∈ operands.map Operand.reference, item.Distinct :=
  List.forall_mem_map.mpr fun operand mem => Operand.distinct_reference (tidy operand mem)

theorem distinct_aliased (tidy : IsTidy operand) (name : String) :
    (aliased operand name).Distinct := by
  simp [aliased, Tree.distinct_object, Operand.distinct_reference tidy]

theorem distinct_cast (tidy : IsTidy operand) (type : String) : (cast operand type).Distinct := by
  simp [cast, Tree.distinct_object, Operand.distinct_reference tidy]

theorem distinct_target (tidy : IsTidy operand) : (target operand).Distinct := by
  have reference := Operand.distinct_reference tidy
  rw [target]
  split
  · exact reference
  · simp [Tree.distinct_object, reference]

theorem distinct_targets {operands : List Operand} (tidy : IsTidy operands) :
    ∀ item ∈ operands.map target, item.Distinct :=
  List.forall_mem_map.mpr fun operand mem => distinct_target (tidy operand mem)

theorem distinct_call (name : String) {operands : List Operand} (tidy : IsTidy operands) :
    (call name operands).Distinct := by
  have references := distinct_references tidy
  rw [call]
  generalize operands.map Operand.reference = arguments at *
  split
  · simp [Tree.distinct_object]
  · split <;> simp_all [Tree.distinct_object]
  · simp_all [Tree.distinct_object]

theorem distinct_sortItem (tidy : IsTidy operand) (direction : SortDirection)
    (nulls : NullsOrder) : (sortItem operand direction nulls).Distinct := by
  simp [sortItem, Tree.distinct_object, Operand.distinct_reference tidy]

@[simp]
theorem distinct_keyConstraint (type : String) (columns : List String) :
    (keyConstraint type columns).Distinct := by
  simp [keyConstraint, constraint, Tree.distinct_object]

@[simp]
theorem distinct_checkConstraint {condition : Tree} :
    (checkConstraint condition).Distinct ↔ condition.Distinct := by
  simp [checkConstraint, constraint, Tree.distinct_object]

@[simp]
theorem distinct_foreignKey (columns : Option (List String)) (table : String)
    (referenced : List String) : (foreignKey columns table referenced).Distinct := by
  cases columns <;> simp [foreignKey, constraint, Tree.distinct_object]

theorem distinct_alterCommand (type : String) (name : Option String) {definition : Option Tree}
    (distinct : ∀ tree ∈ definition, tree.Distinct) :
    (alterCommand type name definition).Distinct := by
  cases name <;> cases definition <;> simp_all [alterCommand, Tree.distinct_object]

end Node

namespace Expr

variable {operand : Operand}

theorem distinct_binaryNode (kind operator : String) {left right : Tree}
    (leftDistinct : left.Distinct) (rightDistinct : right.Distinct) :
    (binaryNode kind operator left right).Distinct := by
  simp [binaryNode, Tree.distinct_object, leftDistinct, rightDistinct]

theorem distinct_between {low high : Operand} (tidy : IsTidy operand) (lowTidy : IsTidy low)
    (highTidy : IsTidy high) : (between operand low high).Distinct := by
  apply distinct_binaryNode _ _ (Operand.distinct_reference tidy)
  simp [Operand.distinct_literal lowTidy, Operand.distinct_literal highTidy]

theorem distinct_isIn {values : List Operand} (tidy : IsTidy operand) (valuesTidy : IsTidy values) :
    (isIn operand values).Distinct :=
  distinct_binaryNode _ _ (Operand.distinct_reference tidy)
    (Node.distinct_list.mpr (Node.distinct_literals valuesTidy))

theorem distinct_nullTest {test : String} (tidy : IsTidy operand) :
    (nullTest test operand).Distinct := by
  simp [nullTest, Tree.distinct_object, Operand.distinct_reference tidy]

theorem distinct_rowExists {query : Tree} (distinct : query.Distinct) :
    (rowExists query).Distinct := by
  simp [rowExists, Tree.distinct_object, distinct]

theorem distinct_isInQuery {query : Tree} (tidy : IsTidy operand) (distinct : query.Distinct) :
    (isInQuery operand query).Distinct := by
  simp [isInQuery, Tree.distinct_object, Operand.distinct_reference tidy, distinct]

theorem distinct_boolean {operator : String} {arguments : List Tree} :
    (boolean operator arguments).Distinct ↔ ∀ argument ∈ arguments, argument.Distinct := by
  simp [boolean, Tree.distinct_object]

theorem distinct_of_mem_parts {operator : String} {condition part : Tree}
    (distinct : condition.Distinct) (mem : part ∈ parts operator condition) : part.Distinct := by
  rw [parts] at mem
  split at mem
  · next record found =>
    split at mem
    · exact (distinct.recordOf? found).itemsAt mem
    · exact List.mem_singleton.mp mem ▸ distinct
  · exact List.mem_singleton.mp mem ▸ distinct

theorem distinct_combine {operator : String} {conditions : List (Option Tree)} {combined : Tree}
    (distinct : ∀ condition ∈ conditions, ∀ tree ∈ condition, tree.Distinct)
    (found : combine operator conditions = some combined) : combined.Distinct := by
  have arguments : ∀ argument ∈ (conditions.filterMap id).flatMap (parts operator),
      argument.Distinct := by
    intro argument mem
    rcases List.mem_flatMap.mp mem with ⟨condition, present, inCondition⟩
    rcases List.mem_filterMap.mp present with ⟨option, optionMem, same⟩
    exact distinct_of_mem_parts (distinct option optionMem condition same) inCondition
  rw [combine] at found
  split at found
  · cases found
  · next condition single =>
    rw [single] at arguments
    exact Option.some.inj found ▸ arguments condition List.mem_cons_self
  · exact Option.some.inj found ▸ distinct_boolean.mpr arguments

end Expr

theorem Tree.distinct_shell {statements : List Tree}
    (distinct : ∀ statement ∈ statements, statement.Distinct) : (shell statements).Distinct := by
  simpa [shell, distinct_object] using distinct

/-! ## All factories -/

/--
The functions that make names and operands, relations, items and types, expressions, conditions and
shells.
-/
inductive Factory : {α : Type} → [Tidy α] → α → Prop
  | name : Factory Node.name
  | names : Factory Node.names
  | list : Factory Node.list
  | columnRef : Factory Node.columnRef
  | column : Factory Node.column
  | star : Factory Node.star
  | starOf : Factory Node.starOf
  | literal : Factory Operand.literal
  | reference : Factory Operand.reference
  | relation : Factory Node.relation
  | relationIn : Factory Node.relationIn
  | table : Factory Node.table
  | tableIn : Factory Node.tableIn
  | tableAs : Factory Node.tableAs
  | subselect : Factory Node.subselect
  | target : Factory TableRef.relation
  | source : Factory TableRef.item
  | aliased : Factory Node.aliased
  | output : Factory Node.target
  | call : Factory Node.call
  | parameter : Factory Node.parameter
  | cast : Factory Node.cast
  | sortItem : Factory Node.sortItem
  | typeName : Factory Node.typeName
  | writtenType : Factory Node.writtenType
  | columnDefinition : Factory Node.columnDefinition
  | indexElement : Factory Node.indexElement
  | binary : Factory Expr.binary
  | equal : Factory Expr.equal
  | notEqual : Factory Expr.notEqual
  | greater : Factory Expr.greater
  | greaterOrEqual : Factory Expr.greaterOrEqual
  | less : Factory Expr.less
  | lessOrEqual : Factory Expr.lessOrEqual
  | add : Factory Expr.add
  | subtract : Factory Expr.subtract
  | multiply : Factory Expr.multiply
  | divide : Factory Expr.divide
  | like : Factory Expr.like
  | likeIgnoringCase : Factory Expr.likeIgnoringCase
  | between : Factory Expr.between
  | isIn : Factory Expr.isIn
  | isNotIn : Factory Expr.isNotIn
  | isNull : Factory Expr.isNull
  | isNotNull : Factory Expr.isNotNull
  | rowExists : Factory Expr.rowExists
  | isInQuery : Factory Expr.isInQuery
  | negation : Factory Expr.negation
  | conjunction : Factory Expr.conjunction
  | disjunction : Factory Expr.disjunction
  | shell : Factory Tree.shell

theorem Factory.isTidy {α : Type} [Tidy α] {make : α} (factory : Factory make) : IsTidy make := by
  cases factory with
  | name => exact fun text _ => Node.distinct_name text
  | names => exact fun texts _ => Node.distinct_names texts
  | list => exact fun items tidy => Node.distinct_list.mpr tidy
  | columnRef => exact fun parts _ => Node.distinct_columnRef parts
  | column => exact fun text _ => Node.distinct_columnRef _
  | star => exact Node.distinct_columnRef _
  | starOf => exact fun table _ => Node.distinct_columnRef _
  | literal => exact fun operand => Operand.distinct_literal
  | reference => exact fun operand => Operand.distinct_reference
  | relation => exact fun text _ => Node.distinct_relation text
  | relationIn => exact fun schema _ name _ => Node.distinct_relationRecord (some schema) name
  | table => exact fun text _ => Tree.distinct_node.mpr (Node.distinct_relation text)
  | tableIn =>
      exact fun schema _ name _ =>
        Tree.distinct_node.mpr (Node.distinct_relationRecord (some schema) name)
  | tableAs =>
      exact fun text _ name _ => Tree.distinct_node.mpr
        ((Node.distinct_relation text).set "alias" (Node.distinct_aliasRecord name))
  | subselect => exact fun query distinct name _ => Node.distinct_subselect distinct name
  | target => exact fun table => TableRef.distinct_relation
  | source => exact fun table => TableRef.distinct_item
  | aliased => exact fun operand tidy name _ => Node.distinct_aliased tidy name
  | output => exact fun operand => Node.distinct_target
  | call => exact fun name _ operands => Node.distinct_call name
  | parameter => exact fun number _ => Node.distinct_parameter number
  | cast => exact fun operand tidy type _ => Node.distinct_cast tidy type
  | sortItem =>
      exact fun operand tidy direction _ nulls _ => Node.distinct_sortItem tidy direction nulls
  | typeName =>
      exact fun name _ modifiers _ => Node.distinct_typeRecord.mpr
        (List.forall_mem_map.mpr fun modifier _ => Node.distinct_constant.mpr trivial)
  | writtenType =>
      intro written _
      change (Node.writtenType written).Distinct
      simp
  | columnDefinition => exact fun name _ type _ => Node.distinct_columnDefinition name type
  | indexElement => exact fun name _ => Node.distinct_indexElement name
  | binary =>
      exact fun operator _ left leftTidy right rightTidy => Expr.distinct_binaryNode _ _
        (Operand.distinct_reference leftTidy) (Operand.distinct_literal rightTidy)
  | equal | notEqual | greater | greaterOrEqual | less | lessOrEqual | add | subtract | multiply
  | divide | like | likeIgnoringCase =>
      exact fun left leftTidy right rightTidy => Expr.distinct_binaryNode _ _
        (Operand.distinct_reference leftTidy) (Operand.distinct_literal rightTidy)
  | between => exact fun operand tidy low lowTidy high => Expr.distinct_between tidy lowTidy
  | isIn => exact fun operand tidy values => Expr.distinct_isIn tidy
  | isNotIn =>
      exact fun operand tidy values valuesTidy => Expr.distinct_boolean.mpr
        (List.forall_mem_singleton.mpr (Expr.distinct_isIn tidy valuesTidy))
  | isNull | isNotNull => exact fun operand => Expr.distinct_nullTest
  | rowExists => exact fun query => Expr.distinct_rowExists
  | isInQuery => exact fun operand tidy query => Expr.distinct_isInQuery tidy
  | negation =>
      exact fun operand tidy => Expr.distinct_boolean.mpr
        (List.forall_mem_singleton.mpr (Operand.distinct_reference tidy))
  | conjunction | disjunction => exact fun conditions tidy _ => Expr.distinct_combine tidy
  | shell => exact fun statements => Tree.distinct_shell

end SqlTree

import SqlTree.Proofs.Print.Nodes
import SqlTree.Proofs.Text.Integer

/-!
# Printed conditions can be read in one way only

Conditions are built from comparisons of a column with an integer by AND, OR and NOT. Their printed
text determines them: the grouping, the operators and the order of the operands.

Building flattens and collapses, so the built trees are described first, as `Normal`: no AND and no
OR has fewer than two operands. Every operand that is a combination itself is printed in
parentheses. So the text of an operand ends before a blank or a closing parenthesis, and a text that
goes on differently cannot be the text of another operand. `normal_readable` says this with an
arbitrary rest behind the two texts, which is the form that carries the induction.
-/

namespace SqlTree

/-! ## Conditions -/

def isColumnCharacter (character : Char) : Bool :=
  character.isLower || character.isDigit || character == '_'

/-- One or more lower-case ASCII letters, digits and underscores. -/
def isColumnName (name : String) : Bool :=
  !name.toList.isEmpty && name.toList.all isColumnCharacter

namespace Expr

def comparisons : List (Operand → Operand → Tree) :=
  [equal, notEqual, greater, greaterOrEqual, less, lessOrEqual]

/-- The conditions that are built from comparisons of a column with an integer. -/
inductive Condition : Tree → Prop
  | comparison {compare : Operand → Operand → Tree} {name : String} {value : Int}
      (mem : compare ∈ comparisons) (named : isColumnName name = true)
      (fits : Text.fitsInt64 value = true) : Condition (compare (.text name) (.int value))
  | negation {condition : Tree} (operand : Condition condition) :
      Condition (negation (.node condition))
  | conjunction {conditions : List (Option Tree)} {condition : Tree}
      (operands : ∀ operand, some operand ∈ conditions → Condition operand)
      (built : conjunction conditions = some condition) : Condition condition
  | disjunction {conditions : List (Option Tree)} {condition : Tree}
      (operands : ∀ operand, some operand ∈ conditions → Condition operand)
      (built : disjunction conditions = some condition) : Condition condition

/-! ## Built conditions -/

def operators : List String := ["=", "<>", ">", ">=", "<", "<="]

inductive Connective where
  | conjunction
  | disjunction

def Connective.word : Connective → String
  | .conjunction => "AND_EXPR"
  | .disjunction => "OR_EXPR"

/-- Conditions as they are built: a connective has two operands or more. -/
inductive Normal : Tree → Prop
  | comparison {operator name : String} {value : Int} (known : operator ∈ operators)
      (named : isColumnName name = true) (fits : Text.fitsInt64 value = true) :
      Normal (binaryNode "AEXPR_OP" operator (Node.column name) (Node.intConstant value))
  | negation {condition : Tree} (operand : Normal condition) :
      Normal (boolean "NOT_EXPR" [condition])
  | chain (connective : Connective) {first : Tree} {others : List Tree} (more : others ≠ [])
      (operands : ∀ operand ∈ first :: others, Normal operand) :
      Normal (boolean connective.word (first :: others))

theorem parts_boolean (operator word : String) (arguments : List Tree) :
    parts operator (boolean word arguments) =
      if word = operator then arguments else [boolean word arguments] := by
  simp only [parts, boolean, Tree.recordOf?,
    Tree.tagged?_node (show isKindName "BoolExpr" by decide)]
  simp [Tree.textAt?, Tree.itemsAt, Fields.get?_cons]

theorem Normal.of_mem_parts {condition part : Tree} (normal : Normal condition)
    (connective : Connective) (mem : part ∈ parts connective.word condition) : Normal part := by
  cases normal with
  | comparison known named fits =>
      have single : part = _ := List.mem_singleton.mp mem
      exact single ▸ .comparison known named fits
  | negation operand =>
      rw [parts_boolean, if_neg (by cases connective <;> decide)] at mem
      exact List.mem_singleton.mp mem ▸ .negation operand
  | chain other more operands =>
      rw [parts_boolean] at mem
      split at mem
      · exact operands part mem
      · exact List.mem_singleton.mp mem ▸ .chain other more operands

theorem Normal.of_combine {conditions : List (Option Tree)} {condition : Tree}
    (operands : ∀ operand, some operand ∈ conditions → Normal operand) (connective : Connective)
    (built : combine connective.word conditions = some condition) : Normal condition := by
  have partsNormal : ∀ part ∈ (conditions.filterMap id).flatMap (parts connective.word),
      Normal part := by
    intro part mem
    rcases List.mem_flatMap.mp mem with ⟨operand, operandMem, partMem⟩
    have present : some operand ∈ conditions := by simpa using operandMem
    exact (operands operand present).of_mem_parts connective partMem
  unfold combine at built
  split at built
  · cases built
  · next argument single =>
    have mem : argument ∈ (conditions.filterMap id).flatMap (parts connective.word) := by
      rw [single]
      exact List.mem_singleton_self argument
    exact Option.some.inj built ▸ partsNormal argument mem
  · next arguments notNil notSingle =>
    obtain rfl : boolean connective.word _ = condition := Option.some.inj built
    rcases parted : (conditions.filterMap id).flatMap (parts connective.word) with
      _ | ⟨first, _ | ⟨second, rest⟩⟩
    · exact absurd parted notNil
    · exact absurd parted (notSingle first)
    · rw [parted] at partsNormal
      exact .chain connective (by simp) partsNormal

/-- Building keeps conditions in this form. -/
theorem Condition.normal {condition : Tree} (built : Condition condition) : Normal condition := by
  induction built with
  | comparison mem named fits =>
      simp only [comparisons, List.mem_cons, List.not_mem_nil, or_false] at mem
      rcases mem with rfl | rfl | rfl | rfl | rfl | rfl <;>
        exact .comparison (by decide) named fits
  | negation operand ih => exact .negation ih
  | conjunction operands built ih => exact .of_combine ih .conjunction built
  | disjunction operands built ih => exact .of_combine ih .disjunction built

def Connective.separator : Connective → String
  | .conjunction => " AND "
  | .disjunction => " OR "

end Expr

namespace Print

open SqlTree.Expr

/-! ## Spelling -/

/-- The characters of a result. A fault has none. -/
def spelling (printed : Printed) : List Char := (printed.toOption.getD "").toList

@[simp]
theorem spelling_ok (text : String) : spelling (.ok text) = text.toList := rfl

def spelled (condition : Tree) : List Char := spelling (expression condition)

def spelledArgument (condition : Tree) : List Char := spelling (printer.argument condition)

/-- The operands behind the first one, each with the connective in front of it. -/
def spelledTail (connective : Connective) (operands : List Tree) : List Char :=
  operands.flatMap fun operand => connective.separator.toList ++ spelledArgument operand

theorem expression_boolean (connective : Connective) (operands : List Tree) :
    expression (boolean connective.word operands) =
      joined connective.separator operands printer.argument := by
  cases connective with
  | conjunction => exact expression_conjunction operands
  | disjunction => exact expression_disjunction operands

theorem argument_of_expression {condition : Tree} {text : String}
    (printed : expression condition = .ok text) :
    printer.argument condition =
      .ok (if condition.kind? = some "BoolExpr" then "(" ++ text ++ ")" else text) := by
  simp only [Printer.argument, printer_expression, printed, ok_bind]
  rfl

theorem joined_argument {operands : List Tree} {first : Tree} (separator : String)
    (printed : ∀ operand ∈ first :: operands, ∃ text, printer.argument operand = .ok text) :
    ∃ text, joined separator (first :: operands) printer.argument = .ok text ∧
      text.toList = spelledArgument first ++
        operands.flatMap fun operand => separator.toList ++ spelledArgument operand := by
  induction operands generalizing first with
  | nil =>
      rcases printed first List.mem_cons_self with ⟨text, firstPrinted⟩
      exact ⟨text, by simpa using firstPrinted, by simp [spelledArgument, firstPrinted]⟩
  | cons next rest ih =>
      rcases printed first List.mem_cons_self with ⟨firstText, firstPrinted⟩
      rcases ih fun operand mem => printed operand (List.mem_cons_of_mem first mem) with
        ⟨restText, restPrinted, restSpelled⟩
      refine ⟨firstText ++ separator ++ restText, ?_, ?_⟩
      · simp [joined_cons_cons, firstPrinted, restPrinted]
      · simp [spelledArgument, firstPrinted, restSpelled]

theorem expression_comparison {operator name : String} {value : Int}
    (fits : Text.fitsInt64 value = true) :
    expression (binaryNode "AEXPR_OP" operator (Node.column name) (Node.intConstant value)) =
      .ok (name ++ " " ++ operator ++ " " ++ toString value) := by
  have small : value < 0x8000000000000000 := by
    simp only [Text.fitsInt64, Bool.and_eq_true, decide_eq_true_eq] at fits
    exact fits.2
  simp [expression_operator, expression_column, expression_intConstant small, String.append_assoc]

theorem normal_prints {condition : Tree} (normal : Normal condition) :
    ∃ text, expression condition = .ok text := by
  induction normal with
  | comparison known named fits => exact ⟨_, expression_comparison fits⟩
  | negation operand ih =>
      rcases ih with ⟨text, printed⟩
      rw [expression_negation, argument_of_expression printed]
      exact ⟨_, rfl⟩
  | chain connective more operands ih =>
      rw [expression_boolean]
      have arguments := joined_argument connective.separator fun operand mem =>
        (ih operand mem).elim fun text printed => ⟨_, argument_of_expression printed⟩
      exact arguments.imp fun text printed => printed.1

theorem argument_prints {condition : Tree} (normal : Normal condition) :
    ∃ text, printer.argument condition = .ok text :=
  (normal_prints normal).elim fun _ printed => ⟨_, argument_of_expression printed⟩

theorem spelled_comparison {operator name : String} {value : Int}
    (fits : Text.fitsInt64 value = true) :
    spelled (binaryNode "AEXPR_OP" operator (Node.column name) (Node.intConstant value)) =
      name.toList ++ ' ' :: (operator.toList ++ ' ' :: (toString value).toList) := by
  rw [spelled, expression_comparison fits]
  simp

theorem spelled_negation {condition : Tree} (normal : Normal condition) :
    spelled (boolean "NOT_EXPR" [condition]) =
      'N' :: 'O' :: 'T' :: ' ' :: spelledArgument condition := by
  rcases argument_prints normal with ⟨text, printed⟩
  rw [spelled, expression_negation, spelledArgument, printed]
  simp

theorem spelled_chain (connective : Connective) {first : Tree} {others : List Tree}
    (operands : ∀ operand ∈ first :: others, Normal operand) :
    spelled (boolean connective.word (first :: others)) =
      spelledArgument first ++ spelledTail connective others := by
  rcases joined_argument connective.separator fun operand mem =>
    argument_prints (operands operand mem) with ⟨text, printed, characters⟩
  rw [spelled, expression_boolean, printed, spelling_ok, characters]
  rfl

theorem spelledArgument_eq {condition : Tree} (normal : Normal condition) :
    spelledArgument condition =
      if condition.kind? = some "BoolExpr" then '(' :: (spelled condition ++ [')'])
      else spelled condition := by
  rcases normal_prints normal with ⟨text, printed⟩
  rw [spelledArgument, argument_of_expression printed, spelled, printed]
  split <;> simp

/-! ## Where a spelling ends -/

/-- What can stand behind an operand. -/
def EndsOperand (rest : List Char) : Prop :=
  ∀ character ∈ rest.head?, character = ' ' ∨ character = ')'

/-- What can stand behind a whole condition. -/
def EndsCondition (rest : List Char) : Prop := ∀ character ∈ rest.head?, character = ')'

theorem EndsCondition.endsOperand {rest : List Char} (ends : EndsCondition rest) :
    EndsOperand rest := fun character mem => .inr (ends character mem)

/-! ## Reading -/

def isNotBlank (character : Char) : Bool := character != ' '

theorem isNotBlank_of_isColumnCharacter {character : Char}
    (valid : isColumnCharacter character = true) : isNotBlank character = true := by
  by_contra blank
  simp only [isNotBlank, bne_iff_ne, ne_eq, not_not] at blank
  subst blank
  exact absurd valid (by decide)

theorem isColumnName_iff {name : String} :
    isColumnName name = true ↔
      name.toList ≠ [] ∧ ∀ character ∈ name.toList, isColumnCharacter character = true := by
  simp [isColumnName]

theorem isNotBlank_of_mem_operator {operator : String} (known : operator ∈ operators) :
    ∀ character ∈ operator.toList, isNotBlank character = true := by
  have all : operators.all (fun operator => operator.toList.all isNotBlank) = true := by decide
  exact List.all_eq_true.mp (List.all_eq_true.mp all operator known)

/-- Two comparisons that are spelled alike, up to where a comparison can end, are the same. -/
theorem comparison_readable {leftOperator rightOperator leftName rightName : String}
    {leftValue rightValue : Int} (leftKnown : leftOperator ∈ operators)
    (rightKnown : rightOperator ∈ operators) (leftNamed : isColumnName leftName = true)
    (rightNamed : isColumnName rightName = true) {leftRest rightRest : List Char}
    (leftEnds : EndsOperand leftRest) (rightEnds : EndsOperand rightRest)
    (same : leftName.toList ++ ' ' :: (leftOperator.toList ++ ' ' :: (toString leftValue).toList) ++
        leftRest =
      rightName.toList ++ ' ' :: (rightOperator.toList ++ ' ' :: (toString rightValue).toList) ++
        rightRest) :
    leftName = rightName ∧ leftOperator = rightOperator ∧ leftValue = rightValue ∧
      leftRest = rightRest := by
  have blankEnds (rest : List Char) :
      ∀ character ∈ (' ' :: rest).head?, isNotBlank character = false := by
    simp [isNotBlank]
  have integerEnds {rest : List Char} (ends : EndsOperand rest) :
      ∀ character ∈ rest.head?, Text.isIntegerCharacter character = false := by
    intro character mem
    rcases ends character mem with rfl | rfl <;> decide
  have named {name : String} (valid : isColumnName name = true) :
      ∀ character ∈ name.toList, isNotBlank character = true := fun character mem =>
    isNotBlank_of_isColumnCharacter ((isColumnName_iff.mp valid).2 character mem)
  simp only [List.append_assoc, List.cons_append] at same
  rcases Text.append_inj_of_test isNotBlank (named leftNamed) (named rightNamed) (blankEnds _)
    (blankEnds _) same with ⟨names, afterName⟩
  rcases Text.append_inj_of_test isNotBlank (isNotBlank_of_mem_operator leftKnown)
    (isNotBlank_of_mem_operator rightKnown) (blankEnds _) (blankEnds _)
    (List.cons.inj afterName).2 with ⟨operators, afterOperator⟩
  rcases Text.append_inj_of_test Text.isIntegerCharacter (fun _ => Text.isIntegerCharacter_of_mem)
    (fun _ => Text.isIntegerCharacter_of_mem) (integerEnds leftEnds) (integerEnds rightEnds)
    (List.cons.inj afterOperator).2 with ⟨values, rests⟩
  exact ⟨String.toList_inj.mp names, String.toList_inj.mp operators,
    Text.toString_int_injective values, rests⟩

theorem spelledArgument_comparison {operator name : String} {value : Int}
    (known : operator ∈ operators) (named : isColumnName name = true)
    (fits : Text.fitsInt64 value = true) :
    spelledArgument (binaryNode "AEXPR_OP" operator (Node.column name) (Node.intConstant value)) =
      spelled (binaryNode "AEXPR_OP" operator (Node.column name) (Node.intConstant value)) := by
  rw [spelledArgument_eq (.comparison known named fits)]
  rfl

/-- A condition that no other is spelled like, up to where a condition can end. -/
def Readable (condition : Tree) : Prop :=
  ∀ ⦃other : Tree⦄ ⦃rest otherRest : List Char⦄, Normal other → EndsCondition rest →
    EndsCondition otherRest → spelled condition ++ rest = spelled other ++ otherRest →
      condition = other ∧ rest = otherRest

def ReadableArgument (condition : Tree) : Prop :=
  ∀ ⦃other : Tree⦄ ⦃rest otherRest : List Char⦄, Normal other → EndsOperand rest →
    EndsOperand otherRest → spelledArgument condition ++ rest = spelledArgument other ++ otherRest →
      condition = other ∧ rest = otherRest

/-- The operands that are printed as they are, and those that are printed in parentheses. -/
theorem normal_cases {condition : Tree} (normal : Normal condition) :
    (∃ operator name, ∃ value : Int, operator ∈ operators ∧ isColumnName name = true ∧
      condition = binaryNode "AEXPR_OP" operator (Node.column name) (Node.intConstant value) ∧
      spelledArgument condition =
        name.toList ++ ' ' :: (operator.toList ++ ' ' :: (toString value).toList)) ∨
      spelledArgument condition = '(' :: (spelled condition ++ [')']) := by
  cases normal with
  | @comparison operator name value known named fits =>
      refine .inl ⟨operator, name, value, known, named, rfl, ?_⟩
      rw [spelledArgument_comparison known named fits, spelled_comparison fits]
  | negation operand => exact .inr (spelledArgument_eq (.negation operand))
  | chain connective more operands =>
      exact .inr (spelledArgument_eq (.chain connective more operands))

theorem name_ne_cons {name : String} (named : isColumnName name = true) {first : Char}
    (invalid : isColumnCharacter first = false) (rest tail : List Char) :
    name.toList ++ rest ≠ first :: tail := by
  rcases isColumnName_iff.mp named with ⟨nonempty, valid⟩
  intro same
  cases characters : name.toList with
  | nil => exact nonempty characters
  | cons character others =>
      have mem : character ∈ name.toList := by simp [characters]
      rw [characters, List.cons_append] at same
      have := valid character mem
      simp [(List.cons.inj same).1, invalid] at this

theorem readableArgument_comparison {operator name : String} {value : Int}
    (known : operator ∈ operators) (named : isColumnName name = true)
    (fits : Text.fitsInt64 value = true) :
    ReadableArgument
      (binaryNode "AEXPR_OP" operator (Node.column name) (Node.intConstant value)) := by
  intro other rest otherRest normal ends otherEnds same
  rw [spelledArgument_comparison known named fits, spelled_comparison fits] at same
  rcases normal_cases normal with
    ⟨otherOperator, otherName, otherValue, otherKnown, otherNamed, rfl, spelling⟩ | spelling
  · rw [spelling] at same
    rcases comparison_readable known otherKnown named otherNamed ends otherEnds same with
      ⟨rfl, rfl, rfl, rests⟩
    exact ⟨rfl, rests⟩
  · rw [spelling, List.append_assoc] at same
    exact absurd same (name_ne_cons named (by decide) _ _)

theorem readableArgument_of_readable {condition : Tree}
    (spelling : spelledArgument condition = '(' :: (spelled condition ++ [')']))
    (readable : Readable condition) : ReadableArgument condition := by
  intro other rest otherRest normal ends otherEnds same
  rw [spelling] at same
  rcases normal_cases normal with ⟨operator, name, value, known, named, rfl, other⟩ | other
  · rw [other, List.append_assoc name.toList] at same
    exact absurd same.symm (name_ne_cons named (by decide) _ _)
  · have closes (rest : List Char) : EndsCondition (')' :: rest) := by simp [EndsCondition]
    rw [other] at same
    simp only [List.cons_append, List.append_assoc, List.nil_append] at same
    rcases readable normal (closes rest) (closes otherRest) (List.cons.inj same).2 with
      ⟨rfl, rests⟩
    exact ⟨rfl, (List.cons.inj rests).2⟩

theorem spelledTail_cons (connective : Connective) (operand : Tree) (rest : List Tree) :
    spelledTail connective (operand :: rest) =
      connective.separator.toList ++ (spelledArgument operand ++ spelledTail connective rest) := by
  simp [spelledTail]

/-- The two connectives differ behind their blank. -/
theorem separator_append_inj {left right : Connective} {leftRest rightRest : List Char}
    (same : left.separator.toList ++ leftRest = right.separator.toList ++ rightRest) :
    left = right ∧ leftRest = rightRest := by
  cases left <;> cases right <;> simp_all [Connective.separator]

theorem separator_cons (connective : Connective) :
    ∃ rest, connective.separator.toList = ' ' :: rest := by
  cases connective with
  | conjunction => exact ⟨['A', 'N', 'D', ' '], rfl⟩
  | disjunction => exact ⟨['O', 'R', ' '], rfl⟩

theorem endsOperand_spelledTail (connective : Connective) (operands : List Tree)
    {rest : List Char} (ends : EndsCondition rest) :
    EndsOperand (spelledTail connective operands ++ rest) := by
  cases operands with
  | nil => exact ends.endsOperand
  | cons operand others =>
      rcases separator_cons connective with ⟨tail, separator⟩
      simp [spelledTail_cons, separator, EndsOperand]

/-- What ends a condition is not another operand. -/
theorem spelledTail_ne_rest (connective : Connective) (operand : Tree) (others : List Tree)
    (tail : List Char) {rest : List Char} (ends : EndsCondition rest) :
    spelledTail connective (operand :: others) ++ tail ≠ rest := by
  rcases separator_cons connective with ⟨blank, separator⟩
  intro same
  rw [spelledTail_cons, separator] at same
  subst same
  exact absurd (ends ' ' rfl) (by decide)

theorem tail_readable (connective : Connective) {left right : List Tree}
    (readable : ∀ operand ∈ left, ReadableArgument operand)
    (normal : ∀ operand ∈ right, Normal operand) {leftRest rightRest : List Char}
    (leftEnds : EndsCondition leftRest) (rightEnds : EndsCondition rightRest)
    (same : spelledTail connective left ++ leftRest = spelledTail connective right ++ rightRest) :
    left = right ∧ leftRest = rightRest := by
  induction left generalizing right with
  | nil =>
      cases right with
      | nil => exact ⟨rfl, same⟩
      | cons operand others =>
          exact absurd same.symm (spelledTail_ne_rest connective operand others _ leftEnds)
  | cons first rest ih =>
      cases right with
      | nil => exact absurd same (spelledTail_ne_rest connective first rest _ rightEnds)
      | cons operand others =>
          rw [List.forall_mem_cons] at readable normal
          simp only [spelledTail_cons, List.append_assoc] at same
          rcases readable.1 normal.1 (endsOperand_spelledTail connective rest leftEnds)
            (endsOperand_spelledTail connective others rightEnds)
            (List.append_cancel_left same) with ⟨rfl, behind⟩
          rcases ih readable.2 normal.2 behind with ⟨rfl, rests⟩
          exact ⟨rfl, rests⟩

/-- An operand starts with a name or with a parenthesis, and NOT with neither. -/
theorem spelledArgument_ne_not {condition : Tree} (normal : Normal condition)
    (rest tail : List Char) : spelledArgument condition ++ rest ≠ 'N' :: tail := by
  rcases normal_cases normal with ⟨operator, name, value, known, named, rfl, spelling⟩ | spelling
  · rw [spelling, List.append_assoc]
    exact name_ne_cons named (by decide) _ _
  · simp [spelling]

/-- A condition is one operand, or it has a connective between two operands or more. -/
def HasOperands (condition : Tree) (connective : Connective) (first : Tree)
    (others : List Tree) : Prop :=
  others = [] ∧ condition = first ∨
    others ≠ [] ∧ condition = boolean connective.word (first :: others)

theorem spelled_cases {condition : Tree} (normal : Normal condition) :
    (∃ operand, Normal operand ∧ condition = boolean "NOT_EXPR" [operand] ∧
      spelled condition = 'N' :: 'O' :: 'T' :: ' ' :: spelledArgument operand) ∨
    ∃ connective first others, HasOperands condition connective first others ∧
      (∀ operand ∈ first :: others, Normal operand) ∧
      spelled condition = spelledArgument first ++ spelledTail connective others := by
  cases normal with
  | comparison known named fits =>
      refine .inr ⟨.conjunction, _, [], .inl ⟨rfl, rfl⟩, ?_, ?_⟩
      · simpa using Normal.comparison known named fits
      · simp [spelledArgument_comparison known named fits, spelledTail]
  | negation operand => exact .inl ⟨_, operand, rfl, spelled_negation operand⟩
  | chain connective more operands =>
      exact .inr ⟨connective, _, _, .inr ⟨more, rfl⟩, operands, spelled_chain connective operands⟩

/-- Operands behind the first one tell their connective. -/
theorem tails_readable {left right : Connective} {leftOthers rightOthers : List Tree}
    (leftMore : leftOthers ≠ []) (rightMore : rightOthers ≠ [])
    (readable : ∀ operand ∈ leftOthers, ReadableArgument operand)
    (normal : ∀ operand ∈ rightOthers, Normal operand) {leftRest rightRest : List Char}
    (leftEnds : EndsCondition leftRest) (rightEnds : EndsCondition rightRest)
    (same : spelledTail left leftOthers ++ leftRest = spelledTail right rightOthers ++ rightRest) :
    left = right ∧ leftOthers = rightOthers ∧ leftRest = rightRest := by
  obtain rfl : left = right := by
    rcases List.exists_cons_of_ne_nil leftMore with ⟨first, rest, rfl⟩
    rcases List.exists_cons_of_ne_nil rightMore with ⟨operand, others, rfl⟩
    simp only [spelledTail_cons, List.append_assoc] at same
    exact (separator_append_inj same).1
  exact ⟨rfl, tail_readable left readable normal leftEnds rightEnds same⟩

theorem readable_of_operands (connective : Connective) {condition first : Tree}
    {others : List Tree} (shape : HasOperands condition connective first others)
    (spelling : spelled condition = spelledArgument first ++ spelledTail connective others)
    (firstNormal : Normal first)
    (readable : ∀ operand ∈ first :: others, ReadableArgument operand) : Readable condition := by
  intro other rest otherRest normal ends otherEnds same
  rw [List.forall_mem_cons] at readable
  rw [spelling, List.append_assoc] at same
  rcases spelled_cases normal with
    ⟨operand, -, -, otherSpelling⟩ |
      ⟨otherConnective, otherFirst, otherOthers, otherShape, operands, otherSpelling⟩
  · rw [otherSpelling] at same
    exact absurd same (spelledArgument_ne_not firstNormal _ _)
  · rw [List.forall_mem_cons] at operands
    rw [otherSpelling, List.append_assoc] at same
    rcases readable.1 operands.1 (endsOperand_spelledTail connective others ends)
      (endsOperand_spelledTail otherConnective otherOthers otherEnds) same with ⟨rfl, behind⟩
    rcases shape with ⟨rfl, rfl⟩ | ⟨more, rfl⟩ <;>
      rcases otherShape with ⟨rfl, rfl⟩ | ⟨otherMore, rfl⟩
    · exact ⟨rfl, behind⟩
    · rcases List.exists_cons_of_ne_nil otherMore with ⟨operand, others, rfl⟩
      exact absurd behind.symm (spelledTail_ne_rest otherConnective operand others _ ends)
    · rcases List.exists_cons_of_ne_nil more with ⟨operand, others, rfl⟩
      exact absurd behind (spelledTail_ne_rest connective operand others _ otherEnds)
    · rcases tails_readable more otherMore readable.2 operands.2 ends otherEnds behind with
        ⟨rfl, rfl, rests⟩
      exact ⟨rfl, rests⟩

/-- Every built condition can be read in one way only, with anything behind it. -/
theorem normal_readable {condition : Tree} (normal : Normal condition) :
    Readable condition ∧ ReadableArgument condition := by
  induction normal with
  | comparison known named fits =>
      have argument := readableArgument_comparison known named fits
      have spelling := spelledArgument_comparison known named fits
      refine ⟨readable_of_operands .conjunction (.inl ⟨rfl, rfl⟩) ?_
        (.comparison known named fits) (by simpa using argument), argument⟩
      simp [spelling, spelledTail]
  | @negation operand normal ih =>
      have readable : Readable (boolean "NOT_EXPR" [operand]) := by
        intro other rest otherRest otherNormal ends otherEnds same
        rw [spelled_negation normal] at same
        rcases spelled_cases otherNormal with
          ⟨otherOperand, operandNormal, rfl, spelling⟩ |
            ⟨connective, first, others, -, operands, spelling⟩
        · rw [spelling] at same
          simp only [List.cons_append, List.cons.injEq, true_and] at same
          rcases ih.2 operandNormal ends.endsOperand otherEnds.endsOperand same with ⟨rfl, rests⟩
          exact ⟨rfl, rests⟩
        · rw [spelling, List.append_assoc] at same
          exact absurd same.symm
            (spelledArgument_ne_not (operands first List.mem_cons_self) _ _)
      exact ⟨readable,
        readableArgument_of_readable (spelledArgument_eq (.negation normal)) readable⟩
  | chain connective more operands ih =>
      have readable := readable_of_operands connective (.inr ⟨more, rfl⟩)
        (spelled_chain connective operands) (operands _ List.mem_cons_self)
        fun operand mem => (ih operand mem).2
      exact ⟨readable, readableArgument_of_readable
        (spelledArgument_eq (.chain connective more operands)) readable⟩

/--
Boolean structure survives printing. Conditions that are built from comparisons of a column with an
integer by AND, OR and NOT are always printed, and two of them are printed alike only if they are
the same tree.
-/
theorem printed_condition_determines_tree {first second : Tree} (firstBuilt : Condition first)
    (secondBuilt : Condition second) :
    (∃ text, expression first = .ok text) ∧ (∃ text, expression second = .ok text) ∧
      (expression first = expression second → first = second) := by
  have firstNormal := firstBuilt.normal
  have secondNormal := secondBuilt.normal
  refine ⟨normal_prints firstNormal, normal_prints secondNormal, fun same => ?_⟩
  have spelledSame : spelled first ++ [] = spelled second ++ [] := by
    rw [spelled, spelled, same]
  have nothing : EndsCondition [] := by simp [EndsCondition]
  exact ((normal_readable firstNormal).1 secondNormal nothing nothing spelledSame).1

/-- NOT in front of a conjunction. -/
def negatedConjunction : Tree :=
  negation (.node (boolean "AND_EXPR"
    [equal (.text "a") (.int 1), less (.text "b_2") (.int (-0x8000000000000000))]))

/-- NOT inside the conjunction, in front of its first operand. -/
def conjunctionOfNegation : Tree :=
  boolean "AND_EXPR"
    [negation (.node (equal (.text "a") (.int 1))),
      less (.text "b_2") (.int (-0x8000000000000000))]

theorem negatedConjunction_printed_apart :
    Condition negatedConjunction ∧ Condition conjunctionOfNegation ∧
      expression negatedConjunction ≠ expression conjunctionOfNegation := by
  have left : Condition (equal (.text "a") (.int 1)) :=
    .comparison (by simp [comparisons]) (by decide) (by decide)
  have right : Condition (less (.text "b_2") (.int (-0x8000000000000000))) :=
    .comparison (by simp [comparisons]) (by decide) (by decide)
  have conjoined {first second : Tree} (firstBuilt : Condition first)
      (secondBuilt : Condition second) {condition : Tree}
      (built : Expr.conjunction [some first, some second] = some condition) :
      Condition condition := by
    refine .conjunction (fun operand mem => ?_) built
    simp only [List.mem_cons, List.not_mem_nil, Option.some.injEq, or_false] at mem
    rcases mem with rfl | rfl
    · exact firstBuilt
    · exact secondBuilt
  have first : Condition negatedConjunction := .negation (conjoined left right rfl)
  have second : Condition conjunctionOfNegation := conjoined (.negation left) right rfl
  refine ⟨first, second, fun same => ?_⟩
  exact absurd ((printed_condition_determines_tree first second).2.2 same) (by decide)

end Print

end SqlTree

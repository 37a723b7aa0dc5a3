import SqlTree.Proofs.Print.Chains

/-!
# Printed arithmetic

Arithmetic is printed as its operands and operators from left to right, without a parenthesis. So a
text shows a `Sequence`, and expressions with the same sequence are printed alike, whatever their
nesting is.

A reader of the text groups it by the strength of the operators: products and quotients before sums
and differences, and from the left where the strength is the same. `Sequence.read` is this reader.
It lets each operator go down the right edge of what is read so far, past all operators that are
weaker. Expressions that are nested like that already are called conventional. The reader gives back
every conventional expression, and it makes a conventional expression of every sequence. So among
all expressions with one text exactly one is conventional, and the others are read as that one.
-/

namespace SqlTree

/-! ## Expressions -/

namespace Arithmetic

inductive Operator where
  | add
  | subtract
  | multiply
  | divide
  deriving DecidableEq

namespace Operator

def build : Operator → Operand → Operand → Tree
  | .add => Expr.add
  | .subtract => Expr.subtract
  | .multiply => Expr.multiply
  | .divide => Expr.divide

def symbol : Operator → String
  | .add => "+"
  | .subtract => "-"
  | .multiply => "*"
  | .divide => "/"

/-- How tightly an operator binds. -/
def strength : Operator → Nat
  | .add | .subtract => 1
  | .multiply | .divide => 2

end Operator

/-- One or more lower-case ASCII letters. -/
def isLetters (name : String) : Bool := !name.toList.isEmpty && name.toList.all Char.isLower

abbrev Letters : Type := { name : String // isLetters name = true }

/-- A column, or an integer that is not negative and fits 64 signed bits. -/
inductive Atom where
  | column (name : Letters)
  | integer (value : Fin 0x8000000000000000)
  deriving DecidableEq

namespace Atom

def operand : Atom → Operand
  | .column name => .node (Node.column name.val)
  | .integer value => .int value.val

def word : Atom → String
  | .column name => name.val
  | .integer value => toString (value.val : Int)

end Atom

end Arithmetic

open Arithmetic (Operator Atom)

inductive Arithmetic where
  | single (atom : Atom)
  | operation (operator : Operator) (left right : Arithmetic)
  deriving DecidableEq

namespace Arithmetic

def build : Arithmetic → Tree
  | .single atom => atom.operand.literal
  | .operation operator left right => operator.build (.node left.build) (.node right.build)

/-- How tightly the outermost operator binds. Atoms cannot be taken apart. -/
def strength : Arithmetic → Nat
  | .single _ => 3
  | .operation operator _ _ => operator.strength

/--
No operand binds weaker than the operator that it stands beside, and on the right none binds as
weakly.
-/
def isConventional : Arithmetic → Bool
  | .single _ => true
  | .operation operator left right =>
      left.isConventional && right.isConventional &&
        (operator.strength ≤ left.strength && operator.strength < right.strength)

theorem isConventional_operation {operator : Operator} {left right : Arithmetic} :
    (operation operator left right).isConventional = true ↔
      left.isConventional = true ∧ right.isConventional = true ∧
        operator.strength ≤ left.strength ∧ operator.strength < right.strength := by
  simp [isConventional, and_assoc]

/-- Operands with operators between them. -/
structure Sequence where
  first : Atom
  rest : List (Operator × Atom)
  deriving DecidableEq

/-- An expression from left to right. -/
def sequence : Arithmetic → Sequence
  | .single atom => ⟨atom, []⟩
  | .operation operator left right =>
      ⟨left.sequence.first,
        left.sequence.rest ++ (operator, right.sequence.first) :: right.sequence.rest⟩

/-! ## Reading a sequence -/

/-- Reads on: the operator takes what is on its left down to the next weaker operator. -/
def attach (tree : Arithmetic) (operator : Operator) (atom : Atom) : Arithmetic :=
  match tree with
  | .operation top left right =>
      if top.strength < operator.strength then .operation top left (right.attach operator atom)
      else .operation operator (.operation top left right) (.single atom)
  | .single first => .operation operator (.single first) (.single atom)

def attachAll (tree : Arithmetic) (rest : List (Operator × Atom)) : Arithmetic :=
  rest.foldl (fun read (operator, atom) => read.attach operator atom) tree

def Sequence.read (sequence : Sequence) : Arithmetic :=
  attachAll (.single sequence.first) sequence.rest

theorem Operator.strength_lt_three (operator : Operator) : operator.strength < 3 := by
  cases operator <;> decide

/-- An operator that is not stronger than what is read takes all of it. -/
theorem attach_of_le {tree : Arithmetic} {operator : Operator}
    (weak : operator.strength ≤ tree.strength) (atom : Atom) :
    tree.attach operator atom = .operation operator tree (.single atom) := by
  cases tree with
  | single first => rfl
  | operation top left right =>
      rw [attach, if_neg]
      simp only [strength] at weak
      omega

theorem strength_attach (tree : Arithmetic) (operator : Operator) (atom : Atom) :
    (tree.attach operator atom).strength = min tree.strength operator.strength := by
  have bound := operator.strength_lt_three
  cases tree with
  | single first =>
      simp only [attach, strength]
      omega
  | operation top left right =>
      unfold attach
      split <;> simp only [strength] <;> omega

theorem sequence_attach (tree : Arithmetic) (operator : Operator) (atom : Atom) :
    (tree.attach operator atom).sequence =
      ⟨tree.sequence.first, tree.sequence.rest ++ [(operator, atom)]⟩ := by
  induction tree with
  | single first => rfl
  | operation top left right ihLeft ihRight =>
      unfold attach
      split
      · simp [sequence, ihRight]
      · simp [sequence]

theorem isConventional_attach {tree : Arithmetic} (conventional : tree.isConventional = true)
    (operator : Operator) (atom : Atom) :
    (tree.attach operator atom).isConventional = true := by
  have bound := operator.strength_lt_three
  induction tree with
  | single first =>
      apply isConventional_operation.mpr
      exact ⟨rfl, rfl, Nat.le_of_lt bound, bound⟩
  | operation top left right ihLeft ihRight =>
      rcases isConventional_operation.mp conventional with
        ⟨leftConventional, rightConventional, leftStrong, rightStrong⟩
      unfold attach
      split
      · apply isConventional_operation.mpr
        refine ⟨leftConventional, ihRight rightConventional, leftStrong, ?_⟩
        rw [strength_attach]
        omega
      · apply isConventional_operation.mpr
        refine ⟨conventional, rfl, ?_, bound⟩
        simp only [strength]
        omega

theorem attachAll_append (tree : Arithmetic) (first second : List (Operator × Atom)) :
    tree.attachAll (first ++ second) = (tree.attachAll first).attachAll second := by
  simp [attachAll]

theorem isConventional_attachAll {tree : Arithmetic} (conventional : tree.isConventional = true)
    (rest : List (Operator × Atom)) : (tree.attachAll rest).isConventional = true := by
  induction rest generalizing tree with
  | nil => exact conventional
  | cons next others ih => exact ih (isConventional_attach conventional next.1 next.2)

theorem sequence_attachAll (tree : Arithmetic) (rest : List (Operator × Atom)) :
    (tree.attachAll rest).sequence = ⟨tree.sequence.first, tree.sequence.rest ++ rest⟩ := by
  induction rest generalizing tree with
  | nil => simp [attachAll]
  | cons next others ih =>
      have step := ih (tree.attach next.1 next.2)
      rw [sequence_attach] at step
      simpa [attachAll] using step

/-- Whatever is read is conventional. -/
theorem Sequence.isConventional_read (sequence : Sequence) :
    sequence.read.isConventional = true :=
  isConventional_attachAll rfl sequence.rest

/-- The reader loses nothing. -/
theorem Sequence.sequence_read (sequence : Sequence) : sequence.read.sequence = sequence :=
  sequence_attachAll (.single sequence.first) sequence.rest

/-- Stronger operators stay on the right of a weaker one. -/
theorem attachAll_operation {operator : Operator} {rest : List (Operator × Atom)}
    (stronger : ∀ next ∈ rest, operator.strength < next.1.strength) (left right : Arithmetic) :
    (operation operator left right).attachAll rest =
      .operation operator left (right.attachAll rest) := by
  induction rest generalizing right with
  | nil => rfl
  | cons next others ih =>
      rw [List.forall_mem_cons] at stronger
      have step : (operation operator left right).attach next.1 next.2 =
          .operation operator left (right.attach next.1 next.2) := by
        rw [attach, if_pos stronger.1]
      have later := ih stronger.2 (right.attach next.1 next.2)
      rw [← step] at later
      exact later

/-- Inside a conventional expression no operator is weaker than the outermost one. -/
theorem strength_le_of_mem_rest {tree : Arithmetic} (conventional : tree.isConventional = true) :
    ∀ next ∈ tree.sequence.rest, tree.strength ≤ next.1.strength := by
  induction tree with
  | single first => simp [sequence]
  | operation operator left right ihLeft ihRight =>
      rcases isConventional_operation.mp conventional with
        ⟨leftConventional, rightConventional, leftStrong, rightStrong⟩
      intro next mem
      simp only [sequence, List.mem_append, List.mem_cons] at mem
      rcases mem with inLeft | rfl | inRight
      · exact Nat.le_trans leftStrong (ihLeft leftConventional next inLeft)
      · exact Nat.le_refl _
      · exact Nat.le_trans (Nat.le_of_lt rightStrong) (ihRight rightConventional next inRight)

/-- The reader finds a conventional expression again. -/
theorem read_sequence {tree : Arithmetic} (conventional : tree.isConventional = true) :
    tree.sequence.read = tree := by
  induction tree with
  | single first => rfl
  | operation operator left right ihLeft ihRight =>
      rcases isConventional_operation.mp conventional with
        ⟨leftConventional, rightConventional, leftStrong, rightStrong⟩
      have stronger : ∀ next ∈ right.sequence.rest, operator.strength < next.1.strength := by
        intro next mem
        exact Nat.lt_of_lt_of_le rightStrong (strength_le_of_mem_rest rightConventional next mem)
      calc (operation operator left right).sequence.read
          = left.sequence.read.attachAll
              ((operator, right.sequence.first) :: right.sequence.rest) :=
            attachAll_append _ _ _
        _ = (left.attach operator right.sequence.first).attachAll right.sequence.rest := by
            rw [ihLeft leftConventional]
            rfl
        _ = .operation operator left right.sequence.read := by
            rw [attach_of_le leftStrong, attachAll_operation stronger]
            rfl
        _ = .operation operator left right := by rw [ihRight rightConventional]

/-! ## The words of a sequence -/

theorem Operator.symbol_injective {left right : Operator} (same : left.symbol = right.symbol) :
    left = right := by
  cases left <;> cases right <;> simp_all [Operator.symbol]

namespace Atom

theorem isLower_of_mem {name : Letters} {character : Char}
    (mem : character ∈ name.val.toList) : character.isLower = true := by
  have letters := name.property
  simp only [isLetters, Bool.and_eq_true, List.all_eq_true] at letters
  exact letters.2 character mem

theorem isIntegerCharacter_of_isLower {character : Char} (lower : character.isLower = true) :
    Text.isIntegerCharacter character = false := by
  have notMinus : character ≠ '-' := by
    rintro rfl
    exact absurd lower (by decide)
  have bounds := Bool.and_eq_true_iff.mp lower
  have above : 97 ≤ character.toNat := of_decide_eq_true bounds.1
  have notDigit : character.isDigit = false := by
    simp [Char.isDigit, UInt32.le_iff_toNat_le]
    omega
  simp [Text.isIntegerCharacter, notMinus, notDigit]

/-- A name begins with a letter, and the digits of an integer do not. -/
theorem word_column_ne_integer (name : Letters) (value : Fin 0x8000000000000000) :
    word (.column name) ≠ word (.integer value) := by
  intro same
  simp only [word] at same
  have letters := name.property
  cases characters : name.val.toList with
  | nil => simp [isLetters, characters] at letters
  | cons first rest =>
      have mem : first ∈ name.val.toList := by simp [characters]
      have digit : Text.isIntegerCharacter first = true := by
        apply Text.isIntegerCharacter_of_mem
        rw [← same]
        exact mem
      rw [isIntegerCharacter_of_isLower (isLower_of_mem mem)] at digit
      cases digit

theorem word_injective {left right : Atom} (same : left.word = right.word) : left = right := by
  cases left with
  | column name =>
      cases right with
      | column other => exact congrArg column (Subtype.ext same)
      | integer value => exact absurd same (word_column_ne_integer name value)
  | integer value =>
      cases right with
      | column name => exact absurd same.symm (word_column_ne_integer name value)
      | integer other =>
          have values := Text.toString_int_injective (congrArg String.toList same)
          exact congrArg integer (Fin.ext (Int.ofNat.inj values))

theorem blank_not_mem_word (atom : Atom) : ' ' ∉ atom.word.toList := by
  intro mem
  cases atom with
  | column name => exact absurd (isLower_of_mem mem) (by decide)
  | integer value => exact absurd (Text.isIntegerCharacter_of_mem mem) (by decide)

end Atom

namespace Sequence

def restWords (rest : List (Operator × Atom)) : List String :=
  rest.flatMap fun (operator, atom) => [operator.symbol, atom.word]

def words (sequence : Sequence) : List String :=
  sequence.first.word :: restWords sequence.rest

def text (sequence : Sequence) : String := Text.join " " sequence.words

theorem restWords_injective {left right : List (Operator × Atom)}
    (same : restWords left = restWords right) : left = right := by
  induction left generalizing right with
  | nil =>
      cases right with
      | nil => rfl
      | cons next others => simp [restWords] at same
  | cons first rest ih =>
      cases right with
      | nil => simp [restWords] at same
      | cons next others =>
          simp only [restWords, List.flatMap_cons, List.cons_append, List.nil_append,
            List.cons.injEq] at same
          rcases same with ⟨symbols, words, behind⟩
          rw [Prod.ext (Operator.symbol_injective symbols) (Atom.word_injective words), ih behind]

theorem blank_not_mem_words (sequence : Sequence) : ∀ word ∈ sequence.words, ' ' ∉ word.toList := by
  rw [words, List.forall_mem_cons]
  refine ⟨sequence.first.blank_not_mem_word, ?_⟩
  intro word mem
  rcases List.mem_flatMap.mp mem with ⟨⟨operator, atom⟩, _, inside⟩
  simp only [List.mem_cons, List.not_mem_nil, or_false] at inside
  rcases inside with rfl | rfl
  · cases operator <;> decide
  · exact atom.blank_not_mem_word

/-- A text shows its sequence: the words are told by the blanks. -/
theorem text_injective {left right : Sequence} (same : left.text = right.text) : left = right := by
  have split (sequence : Sequence) : Text.split ' ' sequence.text = sequence.words := by
    apply Text.split_join (List.cons_ne_nil _ _)
    exact sequence.blank_not_mem_words
  have words : left.words = right.words := by
    rw [← split left, same, split right]
  rcases List.cons.inj words with ⟨firsts, rests⟩
  rcases left with ⟨first, rest⟩
  exact congrArg₂ Sequence.mk (Atom.word_injective firsts) (restWords_injective rests)

end Sequence

end Arithmetic

/-! ## Printing -/

namespace Print

open Arithmetic (Sequence)

theorem expression_atom (atom : Atom) : expression atom.operand.literal = .ok atom.word := by
  cases atom with
  | column name => exact expression_column name.val
  | integer value =>
      apply expression_intConstant
      have := value.isLt
      omega

theorem expression_build_operator (operator : Operator) (left right : Tree) :
    expression (operator.build (.node left) (.node right)) =
      concat [expression left, pure (" " ++ operator.symbol ++ " "), expression right] := by
  cases operator <;> exact expression_operator _ left right

theorem text_operation (operator : Operator) (left right : Arithmetic) :
    (Arithmetic.operation operator left right).sequence.text =
      left.sequence.text ++ (" " ++ operator.symbol ++ " ") ++ right.sequence.text := by
  simp [Sequence.text, Sequence.words, Sequence.restWords, Arithmetic.sequence, Text.join_blank,
    Text.spaced_append, Text.spaced, String.append_assoc]

/-- The text of an expression is that of its sequence. -/
theorem expression_build (arithmetic : Arithmetic) :
    expression arithmetic.build = .ok arithmetic.sequence.text := by
  induction arithmetic with
  | single atom => exact expression_atom atom
  | operation operator left right ihLeft ihRight =>
      rw [Arithmetic.build, expression_build_operator, ihLeft, ihRight, text_operation]
      simp [String.append_assoc]

theorem expression_build_eq_iff {left right : Arithmetic} :
    expression left.build = expression right.build ↔ left.sequence = right.sequence := by
  rw [expression_build, expression_build, Except.ok.injEq]
  constructor
  · exact Sequence.text_injective
  · exact congrArg Sequence.text

/-- Conventional expressions with the same text are the same. -/
theorem eq_of_isConventional {left right : Arithmetic}
    (leftConventional : left.isConventional = true)
    (rightConventional : right.isConventional = true)
    (same : expression left.build = expression right.build) : left = right := by
  rw [← Arithmetic.read_sequence leftConventional, expression_build_eq_iff.mp same,
    Arithmetic.read_sequence rightConventional]

/--
Arithmetic is always printed, and two expressions are printed alike exactly if they have the same
operands and operators from left to right. So nothing of the nesting can be read off the text, and
it survives only where it is the conventional one: conventional expressions that are printed alike
are the same tree, and every expression is printed like exactly one of them.
-/
theorem printed_arithmetic_determines_sequence (left right : Arithmetic) :
    expression left.build = .ok left.sequence.text ∧
    (expression left.build = expression right.build ↔ left.sequence = right.sequence) ∧
    (left.isConventional = true → right.isConventional = true →
      expression left.build = expression right.build → left.build = right.build) ∧
    ∃! reading : Arithmetic,
      reading.isConventional = true ∧ expression reading.build = expression left.build := by
  refine ⟨expression_build left, expression_build_eq_iff, ?_, ?_⟩
  · intro leftConventional rightConventional same
    exact congrArg Arithmetic.build (eq_of_isConventional leftConventional rightConventional same)
  · have readConventional := left.sequence.isConventional_read
    have alike : expression left.sequence.read.build = expression left.build :=
      expression_build_eq_iff.mpr left.sequence.sequence_read
    refine ⟨left.sequence.read, ⟨readConventional, alike⟩, ?_⟩
    rintro other ⟨otherConventional, same⟩
    exact eq_of_isConventional otherConventional readConventional (same.trans alike.symm)

/-- The quotient of a difference by an integer. -/
def quotientOfDifference : Arithmetic :=
  .operation .divide
    (.operation .subtract (.single (.column ⟨"paid", by decide⟩))
      (.single (.column ⟨"due", by decide⟩)))
    (.single (.integer ⟨12, by decide⟩))

/-- The difference of a column and a quotient. -/
def differenceOfQuotient : Arithmetic :=
  .operation .subtract (.single (.column ⟨"paid", by decide⟩))
    (.operation .divide (.single (.column ⟨"due", by decide⟩))
      (.single (.integer ⟨12, by decide⟩)))

def leftwardDifference : Arithmetic :=
  .operation .subtract
    (.operation .subtract (.single (.column ⟨"paid", by decide⟩))
      (.single (.column ⟨"due", by decide⟩)))
    (.single (.integer ⟨12, by decide⟩))

def rightwardDifference : Arithmetic :=
  .operation .subtract (.single (.column ⟨"paid", by decide⟩))
    (.operation .subtract (.single (.column ⟨"due", by decide⟩))
      (.single (.integer ⟨12, by decide⟩)))

/-- A quotient of a difference is read as the difference that has the same text. -/
theorem quotientOfDifference_read_as_difference :
    let reading := quotientOfDifference.sequence.read
    reading.isConventional = true ∧ differenceOfQuotient.isConventional = true ∧
      expression reading.build = expression differenceOfQuotient.build ∧
      reading.build = differenceOfQuotient.build := by
  intro reading
  have alike : expression reading.build = expression differenceOfQuotient.build :=
    (printed_arithmetic_determines_sequence reading differenceOfQuotient).2.1.mpr (by decide)
  exact ⟨rfl, rfl, alike,
    (printed_arithmetic_determines_sequence reading differenceOfQuotient).2.2.1 rfl rfl alike⟩

/-- The text tells neither a quotient from a difference nor one difference from another. -/
theorem nesting_of_arithmetic_lost :
    (expression quotientOfDifference.build = expression differenceOfQuotient.build ∧
      quotientOfDifference.build ≠ differenceOfQuotient.build) ∧
    (expression leftwardDifference.build = expression rightwardDifference.build ∧
      leftwardDifference.build ≠ rightwardDifference.build) := by
  have alike {left right : Arithmetic} (same : left.sequence = right.sequence) :
      expression left.build = expression right.build := expression_build_eq_iff.mpr same
  exact ⟨⟨alike (by decide), by decide +kernel⟩, ⟨alike (by decide), by decide +kernel⟩⟩

end Print

end SqlTree

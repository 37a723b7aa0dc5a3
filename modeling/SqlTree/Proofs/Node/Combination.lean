import Mathlib.Order.BoundedOrder.Lattice
import SqlTree.Proofs.Print.Conditions
import SqlTree.Proofs.Tree.Content

/-!
# The meaning of combined conditions

A combination is a condition under AND or OR, with its operands. `Expr.combination?` tells whether a
tree is one. Building a combination takes the operands of those conditions that are combinations of
the same kind, drops absent conditions, and adds no node around a single operand. None of this
changes what is meant.

Meaning is a value of three-valued logic. Whatever is no combination has an arbitrary value, AND is
the least value of its operands and OR the greatest one, so that AND without operands is true and OR
without operands is false.
-/

namespace SqlTree

/-- The values of three-valued logic, from the least to the greatest. -/
inductive Truth where
  | false
  | unknown
  | true
  deriving DecidableEq, Repr

namespace Truth

def rank : Truth → Nat
  | .false => 0
  | .unknown => 1
  | .true => 2

theorem rank_injective : Function.Injective rank := by
  intro left right same
  cases left <;> cases right <;> simp_all [rank]

instance : LinearOrder Truth := LinearOrder.lift' rank rank_injective

instance : BoundedOrder Truth where
  top := .true
  le_top value := by cases value <;> decide
  bot := .false
  bot_le value := by cases value <;> decide

end Truth

namespace Expr

deriving instance DecidableEq for Connective

/-! ## Combinations -/

def Connective.ofWord? (word : Option String) : Option Connective :=
  if word = some "AND_EXPR" then some .conjunction
  else if word = some "OR_EXPR" then some .disjunction
  else none

/-- The connective and the operands of a condition under AND or OR. -/
def combination? (condition : Tree) : Option (Connective × List Tree) :=
  (condition.recordOf? "BoolExpr").bind fun record =>
    (Connective.ofWord? (record.textAt? "boolop")).map (·, record.itemsAt "args")

theorem Connective.ofWord?_eq_some_iff {word : Option String} {connective : Connective} :
    ofWord? word = some connective ↔ word = some connective.word := by
  unfold ofWord?
  cases connective <;> split_ifs <;> simp_all [Connective.word]

theorem combination?_eq_some_iff {condition : Tree} {connective : Connective}
    {operands : List Tree} :
    combination? condition = some (connective, operands) ↔
      ∃ record, condition.recordOf? "BoolExpr" = some record ∧
        record.textAt? "boolop" = some connective.word ∧ record.itemsAt "args" = operands := by
  simp only [combination?, Option.bind_eq_some_iff, Option.map_eq_some_iff, Prod.mk.injEq,
    Connective.ofWord?_eq_some_iff]
  constructor
  · rintro ⟨record, tagged, _, word, rfl, operands⟩
    exact ⟨record, tagged, word, operands⟩
  · rintro ⟨record, tagged, word, operands⟩
    exact ⟨record, tagged, connective, word, rfl, operands⟩

theorem combination?_boolean (connective : Connective) (operands : List Tree) :
    combination? (boolean connective.word operands) = some (connective, operands) := by
  apply combination?_eq_some_iff.mpr
  refine ⟨.object [("boolop", .text connective.word), ("args", .list operands)], ?_, rfl, rfl⟩
  rw [boolean, Tree.recordOf?, Tree.tagged?_node (by decide)]
  rfl

theorem size_lt_of_combination? {condition operand : Tree} {connective : Connective}
    {operands : List Tree} (found : combination? condition = some (connective, operands))
    (mem : operand ∈ operands) : operand.size < condition.size := by
  rcases combination?_eq_some_iff.mp found with ⟨record, tagged, -, rfl⟩
  have inside := Tree.size_lt_of_tagged? (Tree.tagged?_of_recordOf? tagged)
  unfold Tree.itemsAt at mem
  cases arguments : record.get? "args" with
  | none => simp [arguments] at mem
  | some list =>
      have listSize := Tree.size_lt_of_mem_parts (Tree.mem_parts_of_get? arguments)
      have operandSize : operand.size < list.size := by
        apply Tree.size_lt_of_mem_parts
        apply Tree.mem_parts_of_mem_items
        simpa [arguments] using mem
      omega

theorem parts_of_combination? {condition : Tree} {connective : Connective} {operands : List Tree}
    (found : combination? condition = some (connective, operands)) :
    parts connective.word condition = operands := by
  rcases combination?_eq_some_iff.mp found with ⟨record, tagged, word, rfl⟩
  simp [parts, tagged, word]

/-- A condition that is no combination under the connective is a part of its own. -/
theorem parts_of_not_combination {condition : Tree} {connective : Connective}
    (other : ∀ operands, combination? condition ≠ some (connective, operands)) :
    parts connective.word condition = [condition] := by
  unfold parts
  split
  · next record tagged =>
    split
    · next word => exact absurd (combination?_eq_some_iff.mpr ⟨record, tagged, word, rfl⟩) (other _)
    · rfl
  · rfl

/-! ## Meaning -/

namespace Connective

/-- What a combination without operands means. -/
def unit : Connective → Truth
  | .conjunction => .true
  | .disjunction => .false

def join : Connective → Truth → Truth → Truth
  | .conjunction => min
  | .disjunction => max

def fold (connective : Connective) (values : List Truth) : Truth :=
  values.foldr connective.join connective.unit

theorem unit_join (connective : Connective) (value : Truth) :
    connective.join connective.unit value = value := by
  cases connective with
  | conjunction => exact min_eq_right (le_top : value ≤ ⊤)
  | disjunction => exact max_eq_right (bot_le : ⊥ ≤ value)

theorem join_unit (connective : Connective) (value : Truth) :
    connective.join value connective.unit = value := by
  cases connective with
  | conjunction => exact min_eq_left (le_top : value ≤ ⊤)
  | disjunction => exact max_eq_left (bot_le : ⊥ ≤ value)

theorem join_assoc (connective : Connective) (first second third : Truth) :
    connective.join (connective.join first second) third =
      connective.join first (connective.join second third) := by
  cases connective with
  | conjunction => exact min_assoc first second third
  | disjunction => exact max_assoc first second third

theorem fold_append (connective : Connective) (first second : List Truth) :
    connective.fold (first ++ second) =
      connective.join (connective.fold first) (connective.fold second) := by
  induction first with
  | nil => exact (connective.unit_join _).symm
  | cons value rest ih =>
      simp only [fold, List.cons_append, List.foldr_cons] at ih ⊢
      rw [ih, join_assoc]

end Connective

/-- The meaning of a condition, given that of everything that is no combination. -/
def meaning (value : Tree → Truth) (condition : Tree) : Truth :=
  match _ : combination? condition with
  | some (connective, operands) =>
      connective.fold (operands.attach.map fun ⟨operand, _⟩ => meaning value operand)
  | none => value condition
termination_by condition.size
decreasing_by exact size_lt_of_combination? ‹_› ‹_›

variable (value : Tree → Truth)

theorem meaning_of_combination? {condition : Tree} {connective : Connective} {operands : List Tree}
    (found : combination? condition = some (connective, operands)) :
    meaning value condition = connective.fold (operands.map (meaning value)) := by
  rw [meaning]
  split
  · next other others same =>
    cases found.symm.trans same
    simp
  · next absent => simp [found] at absent

/-- Under a connective a condition means what its parts mean. -/
theorem fold_parts (connective : Connective) (condition : Tree) :
    connective.fold ((parts connective.word condition).map (meaning value)) =
      meaning value condition := by
  by_cases combined : ∃ operands, combination? condition = some (connective, operands)
  · rcases combined with ⟨operands, found⟩
    rw [parts_of_combination? found, meaning_of_combination? value found]
  · rw [parts_of_not_combination fun operands found => combined ⟨operands, found⟩]
    exact connective.join_unit _

theorem fold_flatMap_parts (connective : Connective) (conditions : List Tree) :
    connective.fold ((conditions.flatMap (parts connective.word)).map (meaning value)) =
      connective.fold (conditions.map (meaning value)) := by
  induction conditions with
  | nil => rfl
  | cons condition rest ih =>
      rw [List.flatMap_cons, List.map_append, Connective.fold_append, fold_parts, ih]
      rfl

theorem meaning_combine (connective : Connective) (conditions : List (Option Tree)) :
    (combine connective.word conditions).elim connective.unit (meaning value) =
      connective.fold ((conditions.filterMap id).map (meaning value)) := by
  rw [← fold_flatMap_parts]
  unfold combine
  split
  · next nothing =>
    rw [nothing]
    rfl
  · next condition single =>
    rw [single]
    exact (connective.join_unit _).symm
  · exact meaning_of_combination? value (combination?_boolean connective _)

/--
Combining conditions keeps their meaning, whatever they look like and whatever is meant by the
conditions that are no combinations. AND means the least of the values of those conditions that are
present, and OR the greatest; a combination of nothing is absent, and counts as true for AND and as
false for OR.
-/
theorem combination_keeps_meaning (conditions : List (Option Tree)) :
    (conjunction conditions).elim .true (meaning value) =
      ((conditions.filterMap id).map (meaning value)).foldr min .true ∧
    (disjunction conditions).elim .false (meaning value) =
      ((conditions.filterMap id).map (meaning value)).foldr max .false := by
  constructor
  · exact meaning_combine value .conjunction conditions
  · exact meaning_combine value .disjunction conditions

end Expr

end SqlTree

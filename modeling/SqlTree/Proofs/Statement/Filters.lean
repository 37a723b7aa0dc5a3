import Mathlib.Data.List.Induction
import SqlTree.Proofs.Node.Combination
import SqlTree.Proofs.Statement.Writes
import SqlTree.Statement.Builder

/-!
# Grouping of conditions

It does not matter in which groups conditions are combined. A combination of combinations is the
combination of all conditions, since each group gives up its operands to the whole. The one
exception is a combination around a single other one under the same connective: on its own it is
replaced by the one inside, which then gives up its operands in turn, while in a larger group the
one inside stays whole. Such conditions are called doubled, and building never makes one.

So conditions that are demanded of a statement one after another are kept as the conjunction of all
of them.
-/

namespace SqlTree

namespace Expr

/-! ## Groups -/

def isUnder (connective : Connective) (condition : Tree) : Bool :=
  (combination? condition).any (·.1 = connective)

/-- A combination whose only operand is a combination under the same connective. -/
def isDoubled (connective : Connective) (condition : Tree) : Bool :=
  match combination? condition with
  | some (found, [operand]) => found = connective && isUnder connective operand
  | _ => false

/-- What a list of conditions contributes to a combination. -/
def operands (connective : Connective) (conditions : List (Option Tree)) : List Tree :=
  (conditions.filterMap id).flatMap (parts connective.word)

def ofOperands (connective : Connective) : List Tree → Option Tree
  | [] => none
  | [operand] => some operand
  | operands => some (boolean connective.word operands)

theorem combine_eq_ofOperands (connective : Connective) (conditions : List (Option Tree)) :
    combine connective.word conditions = ofOperands connective (operands connective conditions) :=
  rfl

theorem combine_congr (connective : Connective) {first second : List (Option Tree)}
    (same : operands connective first = operands connective second) :
    combine connective.word first = combine connective.word second :=
  congrArg (ofOperands connective) same

theorem operands_append (connective : Connective) (first second : List (Option Tree)) :
    operands connective (first ++ second) =
      operands connective first ++ operands connective second := by
  simp [operands]

theorem parts_of_isUnder_eq_false {connective : Connective} {condition : Tree}
    (other : isUnder connective condition = false) :
    parts connective.word condition = [condition] := by
  apply parts_of_not_combination
  intro operands found
  simp [isUnder, found] at other

/-- A part that stands alone is no combination under the connective. -/
theorem isUnder_eq_false_of_parts {connective : Connective} {condition part : Tree}
    (simple : isDoubled connective condition = false)
    (single : parts connective.word condition = [part]) : isUnder connective part = false := by
  by_cases combined : ∃ operands, combination? condition = some (connective, operands)
  · rcases combined with ⟨operands, found⟩
    rw [parts_of_combination? found] at single
    subst single
    simpa [isDoubled, found] using simple
  · rw [parts_of_not_combination fun operands found => combined ⟨operands, found⟩] at single
    cases single
    by_contra under
    apply combined
    simpa [isUnder, Option.any_eq_true] using under

theorem isUnder_eq_false_of_operands {connective : Connective} {conditions : List (Option Tree)}
    {part : Tree} (simple : ∀ condition ∈ conditions, condition.any (isDoubled connective) = false)
    (single : operands connective conditions = [part]) : isUnder connective part = false := by
  induction conditions with
  | nil => cases single
  | cons first rest ih =>
      rw [List.forall_mem_cons] at simple
      cases first with
      | none => exact ih simple.2 single
      | some condition =>
          have split : operands connective (some condition :: rest) =
              parts connective.word condition ++ operands connective rest := by
            simp [operands]
          rw [split, List.append_eq_singleton_iff] at single
          rcases single with ⟨_, later⟩ | ⟨here, _⟩
          · exact ih simple.2 later
          · exact isUnder_eq_false_of_parts simple.1 here

/-- A combination contributes what its conditions contribute. -/
theorem operands_combine {connective : Connective} {group : List (Option Tree)}
    (simple : ∀ condition ∈ group, condition.any (isDoubled connective) = false) :
    operands connective [combine connective.word group] = operands connective group := by
  rw [combine_eq_ofOperands]
  rcases contributed : operands connective group with _ | ⟨first, _ | ⟨second, rest⟩⟩
  · rfl
  · have alone := isUnder_eq_false_of_operands simple contributed
    simp [ofOperands, operands, parts_of_isUnder_eq_false alone]
  · simp [ofOperands, operands, parts_of_combination? (combination?_boolean connective _)]

theorem combine_cons_combine (connective : Connective) {group : List (Option Tree)}
    (simple : ∀ condition ∈ group, condition.any (isDoubled connective) = false)
    (rest : List (Option Tree)) :
    combine connective.word (combine connective.word group :: rest) =
      combine connective.word (group ++ rest) := by
  apply combine_congr
  rw [← List.singleton_append, operands_append, operands_append, operands_combine simple]

/-- Combining groups and then the results is combining all conditions at once. -/
theorem combine_map_combine (connective : Connective) {groups : List (List (Option Tree))}
    (simple : ∀ group ∈ groups, ∀ condition ∈ group,
      condition.any (isDoubled connective) = false) :
    combine connective.word (groups.map (combine connective.word)) =
      combine connective.word groups.flatten := by
  apply combine_congr
  induction groups with
  | nil => rfl
  | cons group rest ih =>
      rw [List.forall_mem_cons] at simple
      rw [List.map_cons, ← List.singleton_append, operands_append, operands_combine simple.1,
        ih simple.2, List.flatten_cons, operands_append]

/-- Absent conditions contribute nothing, wherever they stand. -/
theorem combine_of_isNone (connective : Connective) (front back : List (Option Tree))
    {absent : List (Option Tree)} (isNone : absent.all Option.isNone = true) :
    combine connective.word (front ++ absent ++ back) =
      combine connective.word (front ++ back) := by
  have nothing : operands connective absent = [] := by
    have absentMap : absent.filterMap id = [] := by
      simpa [List.filterMap_eq_nil_iff] using isNone
    rw [operands, absentMap, List.flatMap_nil]
  apply combine_congr
  simp only [operands_append, nothing, List.append_nil]

end Expr

open SqlTree.Expr (conjunction disjunction isDoubled)

/-! ## Conditions of a clause -/

namespace Query

/--
What conditions that are demanded one after another leave in a clause. What was there before the
last condition is a group of its own, so the induction is from the right.
-/
theorem foldl_restricted {content : Option Tree} {conditions : List (Option Tree)}
    (simple : ∀ condition ∈ content :: conditions,
      condition.any (isDoubled .conjunction) = false) :
    conditions.foldl restricted content =
      if conditions.all Option.isNone then content else conjunction (content :: conditions) := by
  induction conditions using List.reverseRecOn with
  | nil => rfl
  | append_singleton conditions last ih =>
      rw [← List.cons_append, List.forall_mem_append] at simple
      rw [List.foldl_append, List.foldl_cons, List.foldl_nil, ih simple.1, ← List.cons_append]
      cases last with
      | none =>
          have dropped : conjunction (content :: conditions ++ [none]) =
              conjunction (content :: conditions) := by
            have step := Expr.combine_of_isNone .conjunction (content :: conditions) []
              (show [none].all Option.isNone = true from rfl)
            rwa [List.append_nil, List.append_nil] at step
          simp only [restricted, dropped, List.all_append, List.all_cons, List.all_nil,
            Option.isNone_none, Bool.and_true]
      | some condition =>
          rw [if_neg (by simp : ¬(conditions ++ [some condition]).all Option.isNone = true)]
          split
          · next absent =>
            exact (Expr.combine_of_isNone .conjunction [content] [some condition] absent).symm
          · exact Expr.combine_cons_combine .conjunction simple.1 [some condition]

theorem get?_foldl_restrict {query : Query} (distinct : Fields.Distinct query.record.fields)
    (key : String) (conditions : List (Option Tree)) :
    (conditions.foldl (·.restrict key ·) query).record.get? key =
      conditions.foldl restricted (query.record.get? key) := by
  induction conditions generalizing query with
  | nil => rfl
  | cons condition rest ih =>
      have step := restrict_eq_write query key condition
      have stepDistinct : Fields.Distinct (query.restrict key condition).record.fields := by
        rw [step]
        exact distinct_write distinct key _
      rw [List.foldl_cons, List.foldl_cons, ih stepDistinct, step]
      exact congrArg (rest.foldl restricted) (get?_write distinct key _)

end Query

/-! ## Statements with a condition -/

namespace Builder

/-- Demands a condition of a SELECT, an UPDATE, a DELETE or a CREATE INDEX. -/
def filter (builder : Builder) (condition : Option Tree) : Builder :=
  match builder with
  | .select inner => .select (inner.filter condition)
  | .update inner => .update (inner.filter condition)
  | .delete inner => .delete (inner.filter condition)
  | .createIndex inner => .createIndex (inner.filter condition)
  | other => other

def hasFilter : Builder → Bool
  | .select _ | .update _ | .delete _ | .createIndex _ => true
  | _ => false

def whereClause? (builder : Builder) : Option Tree := builder.toQuery.record.get? "whereClause"

theorem hasFilter_filter (builder : Builder) (condition : Option Tree) :
    (builder.filter condition).hasFilter = builder.hasFilter := by
  cases builder <;> rfl

theorem toQuery_filter {builder : Builder} (has : builder.hasFilter = true)
    (condition : Option Tree) :
    (builder.filter condition).toQuery = builder.toQuery.restrict "whereClause" condition := by
  cases builder with
  | select | update | delete | createIndex => rfl
  | _ => cases has

theorem toQuery_foldl_filter {builder : Builder} (has : builder.hasFilter = true)
    (conditions : List (Option Tree)) :
    (conditions.foldl filter builder).toQuery =
      conditions.foldl (·.restrict "whereClause" ·) builder.toQuery := by
  induction conditions generalizing builder with
  | nil => rfl
  | cons condition rest ih =>
      have stays : (builder.filter condition).hasFilter = true := by rw [hasFilter_filter, has]
      rw [List.foldl_cons, List.foldl_cons, ih stays, toQuery_filter has]

/--
Grouping does not matter. Unless a condition is doubled, combining groups and then their results is
combining all conditions, for AND and for OR. So the conditions that are demanded of a statement one
after another end up as the conjunction of what was in its WHERE clause and of all of them, and the
clause is absent exactly if that is. Where nothing is demanded, the clause stays as it is.
-/
theorem conditions_group_freely :
    (∀ groups : List (List (Option Tree)),
      (∀ group ∈ groups, ∀ condition ∈ group,
        condition.any (isDoubled .conjunction) = false) →
      conjunction (groups.map conjunction) = conjunction groups.flatten) ∧
    (∀ groups : List (List (Option Tree)),
      (∀ group ∈ groups, ∀ condition ∈ group,
        condition.any (isDoubled .disjunction) = false) →
      disjunction (groups.map disjunction) = disjunction groups.flatten) ∧
    ∀ (builder : Builder) (conditions : List (Option Tree)), builder.hasFilter = true →
      Fields.Distinct builder.toQuery.record.fields →
      (∀ condition ∈ builder.whereClause? :: conditions,
        condition.any (isDoubled .conjunction) = false) →
      (conditions.foldl filter builder).whereClause? =
        if conditions.all Option.isNone then builder.whereClause?
        else conjunction (builder.whereClause? :: conditions) := by
  refine ⟨?_, ?_, ?_⟩
  · intro groups simple
    exact Expr.combine_map_combine .conjunction simple
  · intro groups simple
    exact Expr.combine_map_combine .disjunction simple
  · intro builder conditions has distinct simple
    calc (conditions.foldl filter builder).whereClause?
        = conditions.foldl Query.restricted builder.whereClause? := by
          rw [whereClause?, toQuery_foldl_filter has]
          exact Query.get?_foldl_restrict distinct "whereClause" conditions
      _ = _ := Query.foldl_restricted simple

/-- A condition that a parser reports with its place in the source. -/
def shippedAndPaid : Tree :=
  .node "BoolExpr" <| .object
    [("boolop", .text "AND_EXPR"),
      ("args", .list [Expr.isNotNull (.text "shipped"), Expr.isNotNull (.text "paid")]),
      ("location", .number (.int 40))]

def cheap : Tree := Expr.less (.text "total") (.int 10)

/-- Conditions of a DELETE that has one already, alone and in groups. -/
theorem shippedOrders_filtered :
    let orders := Builder.delete ((Delete.start (.named "orders")).filter (some cheap))
    let conditions := [some shippedAndPaid, none, some (Expr.isNull (.text "kept"))]
    conjunction ([[some cheap], conditions].map conjunction) =
      conjunction (some cheap :: conditions) ∧
    disjunction ([[some cheap], conditions].map disjunction) =
      disjunction (some cheap :: conditions) ∧
    (conditions.foldl filter orders).whereClause? =
      some (Expr.boolean "AND_EXPR"
        [cheap, Expr.isNotNull (.text "shipped"), Expr.isNotNull (.text "paid"),
          Expr.isNull (.text "kept")]) := by
  intro orders conditions
  rcases conditions_group_freely with ⟨conjoined, disjoined, filtered⟩
  refine ⟨conjoined [[some cheap], conditions] (by decide +kernel),
    disjoined [[some cheap], conditions] (by decide +kernel), ?_⟩
  exact (filtered orders conditions rfl (by decide +kernel) (by decide +kernel)).trans
    (by decide +kernel)

end Builder

end SqlTree

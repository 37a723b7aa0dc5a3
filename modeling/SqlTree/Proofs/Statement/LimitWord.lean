import SqlTree.Proofs.Statement.Arms

/-!
# The word of a limit

A SELECT says twice whether it has a limit: by the field that holds the limit, and by a word in
another field. The two are written by the updates of the limit only, and by both of them together.
A set operation starts a record of its own, without a limit, and takes the records of its operands
as arms; there the two fields are as they were.

`Made` holds of the statements that calls and set operations lead to, where the operands of a set
operation are such statements too. So an arm is again the record of a statement that was made in
this way, and what holds of all of them holds of all records that a way through the arms leads to.
-/

namespace SqlTree.Select

/-- The statements that a start, calls, and set operations on such statements lead to. -/
inductive Made : Select → Prop
  | start (columns : List Operand) : Made (.start columns)
  | call {before after : Select} (call : Call) (made : Made before)
      (done : call.applyTo before = .ok after) : Made after
  | combine {left right : Select} (operation : SetOperation) (all : Bool) (leftMade : Made left)
      (rightMade : Made right) : Made (left.combine operation all right.query.toNode)

theorem Made.reached {select : Select} (made : Made select) : Builder.Reached (.select select) := by
  induction made with
  | start columns => exact .select columns
  | call call _ done reached => exact .step reached (.select call done)
  | combine operation all _ _ reached _ => exact .combine operation all _ reached

/-! ## Arms -/

inductive Side where
  | left
  | right

def Side.field : Side → String
  | .left => "larg"
  | .right => "rarg"

/-- The record that a way through the arms of set operations leads to. -/
def armAt? (record : Tree) : List Side → Option Tree
  | [] => some record
  | side :: path => (record.get? side.field).bind fun arm => armAt? arm path

/-! ## One call -/

section Step

variable {call : Call} {before after : Select}

/-- A call leaves the fields alone that do not belong to its clause. -/
theorem Call.get?_of_other (done : call.applyTo before = .ok after) {key : String}
    (other : Clause.ofField? key ≠ some call.clause) :
    after.query.record.get? key = before.query.record.get? key := by
  rcases exists_writes done with ⟨writes, own, written⟩
  have changed : Query.ChangedIn (writes.map (·.1)) before.query after.query :=
    ⟨writes, fun _ mem => List.mem_map_of_mem mem, written⟩
  apply changed.get?_of_not_mem
  intro mem
  rcases List.mem_map.mp mem with ⟨write, writeMem, rfl⟩
  exact other (own write writeMem)

/-- The arms belong to no clause. -/
theorem Call.get?_side (done : call.applyTo before = .ok after) (side : Side) :
    after.query.record.get? side.field = before.query.record.get? side.field := by
  apply get?_of_other done
  cases side <;> exact nofun

end Step

/-! ## The invariant -/

/-- The word says whether there is a limit, and a set operation has both of its arms. -/
structure InStep (record : Tree) : Prop where
  limitOption : record.get? "limitOption" =
    some (.text
      (if (record.get? "limitCount").isSome then "LIMIT_OPTION_COUNT" else "LIMIT_OPTION_DEFAULT"))
  operation : (record.get? "op").isSome = true
  arms : record.get? "op" ≠ some (.text "SETOP_NONE") →
    ∀ side : Side, (record.get? side.field).isSome = true

theorem inStep_start (columns : List Operand) : InStep (start columns).query.record := by
  unfold start
  dsimp only
  split
  · exact ⟨rfl, rfl, fun other => absurd rfl other⟩
  · exact ⟨rfl, rfl, fun other => absurd rfl other⟩

theorem inStep_combine (select : Select) (operation : SetOperation) (all : Bool) (other : Tree) :
    InStep (select.combine operation all other).query.record := by
  cases all with
  | true => exact ⟨rfl, rfl, fun _ side => by cases side <;> rfl⟩
  | false => exact ⟨rfl, rfl, fun _ side => by cases side <;> rfl⟩

/-- Whatever becomes of the limit, the word is written for it. -/
theorem limitOption_mapLimit (select : Select) (change : Option Tree → Option Tree) :
    (select.mapLimit change).query.record.get? "limitOption" =
      some (.text
        (if ((select.mapLimit change).query.record.get? "limitCount").isSome then
          "LIMIT_OPTION_COUNT" else "LIMIT_OPTION_DEFAULT")) := by
  simp [mapLimit, limitWord, Query.set, Query.withRecord, Tree.get?_set]

/-- The step: a call keeps the word and the limit in step. -/
theorem InStep.call {call : Call} {before after : Select} (inStep : InStep before.query.record)
    (done : call.applyTo before = .ok after) : InStep after.query.record := by
  have operation : after.query.record.get? "op" = before.query.record.get? "op" :=
    Call.get?_of_other done nofun
  refine ⟨?_, ?_, ?_⟩
  · by_cases limits : call.clause = .limit
    · cases call with
      | limit | mapLimit =>
          cases done
          exact limitOption_mapLimit before _
      | _ => cases limits
    · have other (key : String) (belongs : Clause.ofField? key = some .limit) :
          after.query.record.get? key = before.query.record.get? key := by
        apply Call.get?_of_other done
        rw [belongs]
        exact fun same => limits (Option.some.inj same).symm
      rw [other "limitOption" rfl, other "limitCount" rfl]
      exact inStep.limitOption
  · rw [operation]
    exact inStep.operation
  · intro combined side
    rw [Call.get?_side done]
    exact inStep.arms (operation ▸ combined) side

/-- The run: every statement that is made is in step. -/
theorem Made.inStep {select : Select} (made : Made select) : InStep select.query.record := by
  induction made with
  | start columns => exact inStep_start columns
  | call call _ done inStep => exact inStep.call done
  | combine operation all => exact inStep_combine _ operation all _

/-! ## Through the arms -/

theorem get?_side_start (columns : List Operand) (side : Side) :
    (start columns).query.record.get? side.field = none := by
  unfold start
  dsimp only
  split
  · cases side <;> rfl
  · cases side <;> rfl

/-- The arms of a set operation are the records of its operands. -/
theorem get?_side_combine {left right : Select} (named : right.query.kind = some "SelectStmt")
    (operation : SetOperation) (all : Bool) (side : Side) :
    (left.combine operation all right.query.toNode).query.record.get? side.field =
      match side with
      | .left => some left.query.record
      | .right => some right.query.record := by
  rw [toNode_eq named, combine, armRecord_node]
  cases all <;> cases side <;> rfl

/-- An arm is the record of a statement that was made too. -/
theorem Made.exists_of_arm {select : Select} (made : Made select) {side : Side} {arm : Tree}
    (found : select.query.record.get? side.field = some arm) :
    ∃ part : Select, Made part ∧ part.query.record = arm := by
  induction made with
  | start columns =>
      rw [get?_side_start] at found
      cases found
  | call call _ done ih =>
      rw [Call.get?_side done] at found
      exact ih found
  | @combine left right operation all leftMade rightMade =>
      rw [get?_side_combine (named_and_untagged_of_reached rightMade.reached).1] at found
      cases side with
      | left => exact ⟨left, leftMade, Option.some.inj found⟩
      | right => exact ⟨right, rightMade, Option.some.inj found⟩

theorem Made.exists_of_armAt? {select : Select} (made : Made select) {path : List Side}
    {record : Tree} (found : armAt? select.query.record path = some record) :
    ∃ part : Select, Made part ∧ part.query.record = record := by
  induction path generalizing select with
  | nil => exact ⟨select, made, Option.some.inj found⟩
  | cons side path ih =>
      rcases Option.bind_eq_some_iff.mp found with ⟨arm, armFound, rest⟩
      rcases made.exists_of_arm armFound with ⟨part, partMade, rfl⟩
      exact ih partMade rest

/--
The word of a limit is in step with the limit, for every SELECT that calls and set operations lead
to and for all records that a way through the arms of its set operations leads to. All of them say
what operation they are, and a set operation has both arms, so that such a way ends only at a
statement that is none.
-/
theorem limit_word_in_step {select : Select} (made : Made select) (path : List Side) {record : Tree}
    (found : armAt? select.query.record path = some record) :
    record.get? "limitOption" =
      some (.text
        (if (record.get? "limitCount").isSome then "LIMIT_OPTION_COUNT"
          else "LIMIT_OPTION_DEFAULT")) ∧
    (record.get? "op").isSome = true ∧
    (record.get? "op" ≠ some (.text "SETOP_NONE") →
      ∀ side : Side, (record.get? side.field).isSome = true) := by
  rcases made.exists_of_armAt? found with ⟨part, partMade, rfl⟩
  exact ⟨partMade.inStep.limitOption, partMade.inStep.operation, partMade.inStep.arms⟩

/-- A SELECT with a limit, which is an arm, and one whose limit was taken away again. -/
def newestOrders : Select := (identifiersOf "orders").limit (.int 5)

def allReturns : Select := ((identifiersOf "returns").limit (.int 5)).mapLimit fun _ => none

theorem made_newestOrders : Made newestOrders :=
  .call (.limit (.int 5)) (.call (.fromTable (.named "orders")) (.start [.text "id"]) rfl) rfl

theorem made_allReturns : Made allReturns :=
  .call (.mapLimit fun _ => none)
    (.call (.limit (.int 5)) (.call (.fromTable (.named "returns")) (.start [.text "id"]) rfl) rfl)
    rfl

/-- A union behind which there is a limit, without its returns: the limits of all four records. -/
theorem open_orders_in_step :
    let both := (newestOrders.combine .union true newestOrders.query.toNode).limit (.int 9)
    let remaining := both.combine .except false allReturns.query.toNode
    Made remaining ∧
      remaining.query.record.get? "limitOption" = some (.text "LIMIT_OPTION_DEFAULT") ∧
      (∃ record, armAt? remaining.query.record [.left] = some record ∧
        record.get? "limitOption" = some (.text "LIMIT_OPTION_COUNT")) ∧
      (∃ record, armAt? remaining.query.record [.left, .right] = some record ∧
        record.get? "limitOption" = some (.text "LIMIT_OPTION_COUNT")) ∧
      ∃ record, armAt? remaining.query.record [.right] = some record ∧
        record.get? "limitOption" = some (.text "LIMIT_OPTION_DEFAULT") := by
  intro both remaining
  have made : Made remaining :=
    .combine .except false
      (.call (.limit (.int 9)) (.combine .union true made_newestOrders made_newestOrders) rfl)
      made_allReturns
  refine ⟨made, (limit_word_in_step made [] rfl).1, ⟨_, rfl, ?_⟩, ⟨_, rfl, ?_⟩, ⟨_, rfl, ?_⟩⟩
  · exact (limit_word_in_step made [.left] rfl).1
  · exact (limit_word_in_step made [.left, .right] rfl).1
  · exact (limit_word_in_step made [.right] rfl).1

end SqlTree.Select

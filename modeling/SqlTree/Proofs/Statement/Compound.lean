import SqlTree.Proofs.Print.Conditions
import SqlTree.Proofs.Print.FieldOrder
import SqlTree.Proofs.Statement.Arms

/-!
# Compound queries

SELECTs of one column of one table, combined by set operations, with clauses for order and limits
behind any of them. `Compound` is the syntax of such queries and `Compound.build` makes them by the
updates of `Select`.

A query that is no set operation is a `Plain` one, and its record holds one value or none under each
name, whatever the order of the updates was. Such records are equal up to the order of fields if
they hold the same: `Tree.Holds`.

From a query in general the printer shows a `Chain`: the plain queries from left to right and the
set operations between them. It shows neither the grouping nor the clauses behind a set operation.
This file says which chain that is, `Compound.chain`, and which records stand for a chain.
-/

namespace SqlTree

/-! ## Records that hold a value under each of some names -/

namespace Tree

/-- An object with one value or none under each name, as told. -/
structure Holds (record : Tree) (value : String → Option Tree) : Prop where
  object : record.isObject = true
  values : ∀ key, Fields.valuesOf key record.fields = (value key).toList

theorem holds_empty : (object []).Holds fun _ => none := ⟨rfl, fun _ => rfl⟩

namespace Holds

variable {record : Tree} {value : String → Option Tree}

theorem get? (holds : record.Holds value) (key : String) : record.get? key = value key := by
  rw [Tree.get?, Fields.get?_eq_head?_valuesOf, holds.values, Option.head?_toList]

theorem congr {other : String → Option Tree} (holds : record.Holds value)
    (same : ∀ key, value key = other key) : record.Holds other :=
  ⟨holds.object, fun key => (holds.values key).trans (congrArg Option.toList (same key))⟩

/-- Writing a field, or erasing it, is felt under its own name only. -/
theorem write (holds : record.Holds value) (key : String) (new : Option Tree) :
    (record.write key new).Holds (Function.update value key new) where
  object := by rw [isObject_write, holds.object, Bool.true_or]
  values name := by
    rw [valuesOf_write, holds.values]
    by_cases same : key = name
    · subst same
      cases new <;> cases value key <;> simp [Fields.overwrite]
    · simp [same, Function.update_of_ne (Ne.symm same)]

theorem sameUpToOrder {other : Tree} (holds : record.Holds value) (otherHolds : other.Holds value) :
    record.SameUpToOrder other := by
  rcases exists_object holds.object with ⟨lefts, rfl⟩
  rcases exists_object otherHolds.object with ⟨rights, rfl⟩
  apply SameUpToOrder.of_perm
  apply Fields.perm_of_valuesOf
  intro key
  exact (holds.values key).trans (otherHolds.values key).symm

end Holds

end Tree

/-! ## Syntax -/

/-- A name of lower-case letters, digits and underscores. -/
abbrev ColumnName : Type := { name : String // isColumnName name = true }

/-- A number of rows that fits into 64 bits. -/
abbrev RowCount : Type := Fin 0x8000000000000000

/-- A set operation with or without ALL. -/
structure Link where
  operation : SetOperation
  all : Bool
  deriving DecidableEq

inductive Compound where
  | single (column table : ColumnName)
  | combined (link : Link) (left right : Compound)
  | ordered (query : Compound) (column : ColumnName)
  | limited (query : Compound) (count : RowCount)
  | skipped (query : Compound) (count : RowCount)

namespace Compound

def build : Compound → Select
  | .single column table => (Select.start [.text column.val]).fromTable (.named table.val)
  | .combined link left right =>
      left.build.combine link.operation link.all right.build.query.toNode
  | .ordered query column => query.build.orderBy [.text column.val]
  | .limited query count => query.build.limit (.int count.val)
  | .skipped query count => query.build.offset (.int count.val)

theorem reached_build (query : Compound) : Builder.Reached (.select query.build) := by
  induction query with
  | single column table =>
      exact .step (.select [.text column.val]) (.select (.fromTable (.named table.val)) rfl)
  | combined link left right leftReached rightReached => exact .combine _ _ _ leftReached
  | ordered query column reached => exact .step reached (.select (.orderBy [.text column.val]) rfl)
  | limited query count reached => exact .step reached (.select (.limit (.int count.val)) rfl)
  | skipped query count reached => exact .step reached (.select (.offset (.int count.val)) rfl)

theorem named_build (query : Compound) : query.build.query.kind = some "SelectStmt" :=
  (Select.named_and_untagged_of_reached query.reached_build).1

end Compound

/-- A query that is no set operation, with all of its clauses. -/
structure Plain where
  column : ColumnName
  table : ColumnName
  order : List ColumnName
  limit : Option RowCount
  offset : Option RowCount
  deriving DecidableEq

/-- Plain queries with set operations between them. -/
structure Chain where
  first : Plain
  rest : List (Link × Plain)
  deriving DecidableEq

namespace Chain

def append (left : Chain) (link : Link) (right : Chain) : Chain :=
  ⟨left.first, left.rest ++ (link, right.first) :: right.rest⟩

/-- Changes a plain query. The clauses of a set operation are not part of a chain. -/
def changeSingle (chain : Chain) (change : Plain → Plain) : Chain :=
  if chain.rest = [] then ⟨change chain.first, []⟩ else chain

end Chain

namespace Plain

def orderedBy (plain : Plain) (column : ColumnName) : Plain :=
  { plain with order := plain.order ++ [column] }

def limitedTo (plain : Plain) (count : RowCount) : Plain := { plain with limit := some count }

def skipping (plain : Plain) (count : RowCount) : Plain := { plain with offset := some count }

def sortItems (plain : Plain) : List Tree :=
  plain.order.map fun column : ColumnName => Select.orderItem (.text column.val)

def countNode (count : RowCount) : Tree := Node.intConstant count.val

/-- What the record of a plain query holds under a name. -/
def clause (plain : Plain) (key : String) : Option Tree :=
  if key = "fromClause" then some (.list [Node.table plain.table.val])
  else if key = "op" then some (.text "SETOP_NONE")
  else if key = "limitOption" then
    some (.text (plain.limit.elim "LIMIT_OPTION_DEFAULT" fun _ => "LIMIT_OPTION_COUNT"))
  else if key = "targetList" then some (.list [Node.target (.text plain.column.val)])
  else if key = "sortClause" then Query.ofItems plain.sortItems
  else if key = "limitCount" then plain.limit.map countNode
  else if key = "limitOffset" then plain.offset.map countNode
  else none

theorem clause_orderedBy (plain : Plain) (column : ColumnName) :
    (plain.orderedBy column).clause =
      Function.update plain.clause "sortClause"
        (Query.ofItems (plain.sortItems ++ [Select.orderItem (.text column.val)])) := by
  funext key
  by_cases same : key = "sortClause"
  · subst same
    simp [clause, orderedBy, sortItems]
  · rw [Function.update_of_ne same]
    simp only [clause, orderedBy, if_neg same]

theorem clause_limitedTo (plain : Plain) (count : RowCount) :
    (plain.limitedTo count).clause =
      Function.update (Function.update plain.clause "limitCount" (some (countNode count)))
        "limitOption" (some (.text "LIMIT_OPTION_COUNT")) := by
  funext key
  by_cases option : key = "limitOption"
  · subst option
    simp [clause, limitedTo]
  · rw [Function.update_of_ne option]
    by_cases same : key = "limitCount"
    · subst same
      simp [clause, limitedTo]
    · rw [Function.update_of_ne same]
      simp only [clause, limitedTo, sortItems, if_neg option, if_neg same]

theorem clause_skipping (plain : Plain) (count : RowCount) :
    (plain.skipping count).clause =
      Function.update plain.clause "limitOffset" (some (countNode count)) := by
  funext key
  by_cases same : key = "limitOffset"
  · subst same
    simp [clause, skipping]
  · rw [Function.update_of_ne same]
    simp only [clause, skipping, sortItems, if_neg same]

end Plain

/-- The chain that the printer shows of a query. -/
def Compound.chain : Compound → Chain
  | .single column table => ⟨⟨column, table, [], none, none⟩, []⟩
  | .combined link left right => left.chain.append link right.chain
  | .ordered query column => query.chain.changeSingle (·.orderedBy column)
  | .limited query count => query.chain.changeSingle (·.limitedTo count)
  | .skipped query count => query.chain.changeSingle (·.skipping count)

/-! ## Records of plain queries -/

namespace Select

/-- The record of a SELECT is that of a plain query. -/
def IsPlain (select : Select) (plain : Plain) : Prop := select.query.record.Holds plain.clause

theorem isPlain_table (column table : ColumnName) :
    ((start [.text column.val]).fromTable (.named table.val)).IsPlain
      ⟨column, table, [], none, none⟩ := by
  have written := Tree.holds_empty
    |>.write "targetList" (some (.list [Node.target (.text column.val)]))
    |>.write "limitOption" (some (.text "LIMIT_OPTION_DEFAULT"))
    |>.write "op" (some (.text "SETOP_NONE"))
    |>.write "fromClause" (some (.list [Node.table table.val]))
  refine written.congr fun key => ?_
  simp [Plain.clause, Plain.sortItems, Query.ofItems, Function.update_apply]

namespace IsPlain

variable {select : Select} {plain : Plain}

theorem orderBy (isPlain : select.IsPlain plain) (column : ColumnName) :
    (select.orderBy [.text column.val]).IsPlain (plain.orderedBy column) := by
  have items : select.query.record.itemsAt "sortClause" = plain.sortItems := by
    rw [Tree.itemsAt, isPlain.get?]
    exact Query.itemsOf_ofItems plain.sortItems
  rw [IsPlain, Plain.clause_orderedBy, Select.orderBy, Query.append, items, Query.setList_eq_write]
  exact isPlain.write "sortClause" _

theorem limit (isPlain : select.IsPlain plain) (count : RowCount) :
    (select.limit (.int count.val)).IsPlain (plain.limitedTo count) := by
  have counted := isPlain.write "limitCount" (some (Plain.countNode count))
  have word : limitWord (select.query.record.write "limitCount" (some (Plain.countNode count))) =
      "LIMIT_OPTION_COUNT" := by
    rw [limitWord, counted.get?, Function.update_self]
    rfl
  have limited := counted.write "limitOption" (some (.text "LIMIT_OPTION_COUNT"))
  rw [← word] at limited
  rw [IsPlain, Plain.clause_limitedTo, ← word]
  exact limited

theorem offset (isPlain : select.IsPlain plain) (count : RowCount) :
    (select.offset (.int count.val)).IsPlain (plain.skipping count) := by
  rw [IsPlain, Plain.clause_skipping]
  exact isPlain.write "limitOffset" (some (Plain.countNode count))

end IsPlain

end Select

/-! ## Records of chains -/

/-- The record of a set operation, whatever clauses stand behind it. -/
structure Link.Combines (link : Link) (left right record : Tree) : Prop where
  operation : record.get? "op" = some (.text link.operation.word)
  all : record.get? "all" = if link.all then some (.bool true) else none
  larg : record.get? "larg" = some left
  rarg : record.get? "rarg" = some right
  tables : record.get? "withClause" = none

theorem Link.combines_combine (link : Link) (left right : Select)
    (named : right.query.kind = some "SelectStmt") :
    link.Combines left.query.record right.query.record
      (left.combine link.operation link.all right.query.toNode).query.record := by
  rcases link with ⟨operation, all⟩
  rw [Select.toNode_eq named, Select.combine, Select.armRecord_node]
  cases all <;> exact ⟨rfl, rfl, rfl, rfl, rfl⟩

/-- The fields that the clauses behind a query are written to. -/
def clausesBehind : List String := ["sortClause", "limitCount", "limitOption", "limitOffset"]

theorem changedIn_limit (select : Select) (count : Operand) :
    Query.ChangedIn clausesBehind select.query (select.limit count).query := by
  refine ⟨[("limitCount", some count.literal), ("limitOption", some (.text
    (Select.limitWord (select.query.record.set "limitCount" count.literal))))], ?_, rfl⟩
  simp [clausesBehind]

theorem changedIn_offset (select : Select) (count : Operand) :
    Query.ChangedIn clausesBehind select.query (select.offset count).query := by
  have written : (select.offset count).query = select.query.set "limitOffset" count.literal := rfl
  rw [written]
  exact .set (by decide) _ _

theorem Link.Combines.changed {link : Link} {left right : Tree} {before after : Query}
    (combines : link.Combines left right before.record)
    (changed : Query.ChangedIn clausesBehind before after) :
    link.Combines left right after.record where
  operation := (changed.get?_of_not_mem (by decide)).trans combines.operation
  all := (changed.get?_of_not_mem (by decide)).trans combines.all
  larg := (changed.get?_of_not_mem (by decide)).trans combines.larg
  rarg := (changed.get?_of_not_mem (by decide)).trans combines.rarg
  tables := (changed.get?_of_not_mem (by decide)).trans combines.tables

namespace Chain

@[simp]
theorem rest_append_ne_nil (left : Chain) (link : Link) (right : Chain) :
    (left.append link right).rest ≠ [] := by
  simp [append]

/-- In front of a last plain query, a chain is split in one way only. -/
theorem append_inj {left right leftOther rightOther : Chain} {link otherLink : Link}
    (single : right.rest = []) (otherSingle : rightOther.rest = [])
    (same : left.append link right = leftOther.append otherLink rightOther) :
    left = leftOther ∧ link = otherLink ∧ right = rightOther := by
  rcases left with ⟨first, rest⟩
  rcases leftOther with ⟨otherFirst, otherRest⟩
  rcases right with ⟨last, _⟩
  rcases rightOther with ⟨otherLast, _⟩
  subst single otherSingle
  rw [append, append, mk.injEq] at same
  rcases List.append_inj' same.2 rfl with ⟨rests, lasts⟩
  simp_all

/-- A record that stands for a chain. Nothing is said about how a set operation is grouped. -/
inductive Shown : Chain → Tree → Prop
  | plain {plain : Plain} {record : Tree} (holds : record.Holds plain.clause) :
      Shown ⟨plain, []⟩ record
  | combined {left right : Chain} {leftRecord rightRecord record : Tree} {link : Link}
      (combines : link.Combines leftRecord rightRecord record) (leftShown : Shown left leftRecord)
      (rightShown : Shown right rightRecord) : Shown (left.append link right) record

namespace Shown

variable {chain : Chain}

theorem holds_first {record : Tree} (shown : chain.Shown record) (single : chain.rest = []) :
    record.Holds chain.first.clause := by
  cases shown with
  | plain holds => exact holds
  | combined => exact absurd single (rest_append_ne_nil _ _ _)

/-- The step: a clause belongs to a plain query, and behind a set operation it is not shown. -/
theorem step {before after : Select} {change : Plain → Plain}
    (shown : chain.Shown before.query.record)
    (single : ∀ plain, before.IsPlain plain → after.IsPlain (change plain))
    (changed : Query.ChangedIn clausesBehind before.query after.query) :
    (chain.changeSingle change).Shown after.query.record := by
  cases shown with
  | @plain plain _ holds => exact .plain (single plain holds)
  | combined combines leftShown rightShown =>
      rw [changeSingle, if_neg (rest_append_ne_nil _ _ _)]
      exact .combined (combines.changed changed) leftShown rightShown

end Shown

end Chain

namespace Compound

/-- The run: every query stands for its chain. -/
theorem shown_build (query : Compound) : query.chain.Shown query.build.query.record := by
  induction query with
  | single column table => exact .plain (Select.isPlain_table column table)
  | combined link left right leftShown rightShown =>
      exact .combined (link.combines_combine left.build right.build right.named_build) leftShown
        rightShown
  | ordered query column shown =>
      exact shown.step (fun _ isPlain => isPlain.orderBy column) (.append (by decide) _ _)
  | limited query count shown =>
      exact shown.step (fun _ isPlain => isPlain.limit count) (changedIn_limit query.build _)
  | skipped query count shown =>
      exact shown.step (fun _ isPlain => isPlain.offset count) (changedIn_offset query.build _)

/-! ## Queries that a chain tells apart -/

/-- No set operation. -/
def isPlain : Compound → Bool
  | .single _ _ => true
  | .combined _ _ _ => false
  | .ordered query _ | .limited query _ | .skipped query _ => query.isPlain

/-- Set operations are grouped to the left, and no clause stands behind one. -/
def isBare : Compound → Bool
  | .single _ _ => true
  | .combined _ left right => left.isBare && right.isPlain
  | .ordered query _ | .limited query _ | .skipped query _ => query.isPlain

theorem rest_chain_eq_nil_iff (query : Compound) :
    query.chain.rest = [] ↔ query.isPlain = true := by
  induction query with
  | single => simp [chain, isPlain]
  | combined => simp [chain, isPlain]
  | ordered query _ ih | limited query _ ih | skipped query _ ih =>
      rw [isPlain, ← ih, chain, Chain.changeSingle]
      split <;> simp_all

theorem isPlain_or_combined_of_isBare {query : Compound} (bare : query.isBare = true) :
    query.isPlain = true ∨ ∃ link left right, query = .combined link left right ∧
      left.isBare = true ∧ right.isPlain = true := by
  cases query with
  | combined link left right => exact .inr ⟨link, left, right, rfl, by simpa [isBare] using bare⟩
  | _ => exact .inl bare

theorem sameUpToOrder_of_isPlain {left right : Compound} (leftPlain : left.isPlain = true)
    (same : left.chain = right.chain) :
    left.build.query.record.SameUpToOrder right.build.query.record := by
  have single := (rest_chain_eq_nil_iff left).mpr leftPlain
  have leftHolds := left.shown_build.holds_first single
  have rightHolds := right.shown_build.holds_first (same ▸ single)
  exact leftHolds.sameUpToOrder (same ▸ rightHolds)

theorem sameUpToOrder_combine {left leftOther right rightOther : Select}
    (lefts : left.query.record.SameUpToOrder leftOther.query.record)
    (rights : right.query.record.SameUpToOrder rightOther.query.record)
    (named : right.query.kind = some "SelectStmt")
    (otherNamed : rightOther.query.kind = some "SelectStmt") (link : Link) :
    (left.combine link.operation link.all right.query.toNode).query.record.SameUpToOrder
      (leftOther.combine link.operation link.all rightOther.query.toNode).query.record := by
  rcases link with ⟨operation, all⟩
  rw [Select.toNode_eq named, Select.toNode_eq otherNamed, Select.combine, Select.combine,
    Select.armRecord_node, Select.armRecord_node]
  have word (text : String) := Tree.SameUpToOrder.text text
  cases all with
  | false =>
      exact .object (.refl _) rfl
        (.cons (word _) (.cons lefts (.cons rights (.cons (word _) .nil))))
  | true =>
      exact .object (.refl _) rfl
        (.cons (word _) (.cons (.bool true) (.cons lefts (.cons rights (.cons (word _) .nil)))))

/-- What is grouped to the left, with clauses behind plain queries only, is told by its chain. -/
theorem sameUpToOrder_of_isBare {left right : Compound} (leftBare : left.isBare = true)
    (rightBare : right.isBare = true) (same : left.chain = right.chain) :
    left.build.query.record.SameUpToOrder right.build.query.record := by
  induction left generalizing right with
  | combined link first second ih _ =>
      rcases isPlain_or_combined_of_isBare rightBare with
        plain | ⟨otherLink, otherFirst, otherSecond, rfl, firstBare, secondPlain⟩
      · exact absurd (same ▸ (rest_chain_eq_nil_iff right).mpr plain)
          (Chain.rest_append_ne_nil _ _ _)
      · rw [isBare, Bool.and_eq_true] at leftBare
        rcases Chain.append_inj ((rest_chain_eq_nil_iff second).mpr leftBare.2)
          ((rest_chain_eq_nil_iff otherSecond).mpr secondPlain) same with ⟨firsts, rfl, seconds⟩
        exact sameUpToOrder_combine (ih leftBare.1 firstBare firsts)
          (sameUpToOrder_of_isPlain leftBare.2 seconds) second.named_build otherSecond.named_build
          link
  | _ => exact sameUpToOrder_of_isPlain leftBare same

end Compound

end SqlTree

import SqlTree.Proofs.Statement.Writes
import SqlTree.Statement.Select

/-!
# Calls on a SELECT

The updates of a SELECT as data. Each call belongs to a clause, and each clause is kept in one field
of the record; a limit has a second field that says whether there is one.

The main statement is `Select.Call.applyTo_eq`: a call looks only at the field of its clause and
writes only the fields of its clause. Everything that is said about sequences of calls rests on it.
Set operations are no calls in this sense, since they make a new record.
-/

namespace SqlTree

namespace Select

/-- The clauses of a SELECT. -/
inductive Clause where
  | targets
  | distinct
  | tables
  | filter
  | having
  | groups
  | order
  | limit
  | offset
  | tableExpressions
  | locks
  deriving DecidableEq, Repr

namespace Clause

/-- The field that holds a clause. -/
def field : Clause → String
  | .targets => "targetList"
  | .distinct => "distinctClause"
  | .tables => "fromClause"
  | .filter => "whereClause"
  | .having => "havingClause"
  | .groups => "groupClause"
  | .order => "sortClause"
  | .limit => "limitCount"
  | .offset => "limitOffset"
  | .tableExpressions => "withClause"
  | .locks => "lockingClause"

/-- The clause that a field belongs to. -/
def ofField? : String → Option Clause
  | "targetList" => some .targets
  | "distinctClause" => some .distinct
  | "fromClause" => some .tables
  | "whereClause" => some .filter
  | "havingClause" => some .having
  | "groupClause" => some .groups
  | "sortClause" => some .order
  | "limitCount" | "limitOption" => some .limit
  | "limitOffset" => some .offset
  | "withClause" => some .tableExpressions
  | "lockingClause" => some .locks
  | _ => none

theorem ofField?_field (clause : Clause) : ofField? clause.field = some clause := by
  cases clause <;> rfl

/--
What is written when a clause gets new content. The values are those under the field of the clause
before. The word of a limit tells whether the field is there afterwards.
-/
def writes (clause : Clause) (values : List Tree) (content : Option Tree) :
    List (String × Option Tree) :=
  (clause.field, content) ::
    match clause with
    | .limit =>
        let present := (Fields.overwrite content values).head?.isSome
        [("limitOption",
          some (.text (if present then "LIMIT_OPTION_COUNT" else "LIMIT_OPTION_DEFAULT")))]
    | _ => []

theorem ofField?_of_mem_writes {clause : Clause} {values : List Tree} {content : Option Tree}
    {write : String × Option Tree} (mem : write ∈ clause.writes values content) :
    ofField? write.1 = some clause := by
  cases clause with
  | limit =>
      rcases List.mem_cons.mp mem with rfl | last
      · rfl
      · rw [List.mem_singleton.mp last]
        rfl
  | _ =>
      rw [List.mem_singleton.mp mem]
      rfl

end Clause

/-- The updates of a SELECT: with values, or with a function of what is in the clause. -/
inductive Call where
  | columns (columns : List Operand)
  | mapColumns (change : List Tree → List Tree)
  | returning (columns : List Operand)
  | distinct
  | distinctOn (expressions : List Operand)
  | fromTable (table : TableRef)
  | mapFrom (change : List Tree → List Tree)
  | join (type : JoinType) (table : TableRef) (condition : Option Tree)
  | filter (condition : Option Tree)
  | mapFilter (change : Option Tree → Option Tree)
  | having (condition : Option Tree)
  | mapHaving (change : Option Tree → Option Tree)
  | groupBy (expressions : List Operand)
  | mapGroupBy (change : List Tree → List Tree)
  | orderBy (items : List Operand)
  | mapOrderBy (change : List Tree → List Tree)
  | limit (count : Operand)
  | mapLimit (change : Option Tree → Option Tree)
  | offset (count : Operand)
  | mapOffset (change : Option Tree → Option Tree)
  | withTable (name : String) (body : Tree) (isRecursive : Bool)
  | lock (strength : LockStrength)

namespace Call

open Query (itemsOf ofItems restricted)

def clause : Call → Clause
  | .columns _ | .mapColumns _ | .returning _ => .targets
  | .distinct | .distinctOn _ => .distinct
  | .fromTable _ | .mapFrom _ | .join _ _ _ => .tables
  | .filter _ | .mapFilter _ => .filter
  | .having _ | .mapHaving _ => .having
  | .groupBy _ | .mapGroupBy _ => .groups
  | .orderBy _ | .mapOrderBy _ => .order
  | .limit _ | .mapLimit _ => .limit
  | .offset _ | .mapOffset _ => .offset
  | .withTable _ _ _ => .tableExpressions
  | .lock _ => .locks

/-- Only a join can fail. -/
def applyTo (call : Call) (select : Select) : Except Error Select :=
  match call with
  | .columns outputs => .ok (select.columns outputs)
  | .mapColumns change => .ok (select.mapColumns change)
  | .returning outputs => .ok (select.returning outputs)
  | .distinct => .ok select.distinct
  | .distinctOn expressions => .ok (select.distinctOn expressions)
  | .fromTable table => .ok (select.fromTable table)
  | .mapFrom change => .ok (select.mapFrom change)
  | .join type table condition => select.join type table condition
  | .filter condition => .ok (select.filter condition)
  | .mapFilter change => .ok (select.mapFilter change)
  | .having condition => .ok (select.having condition)
  | .mapHaving change => .ok (select.mapHaving change)
  | .groupBy expressions => .ok (select.groupBy expressions)
  | .mapGroupBy change => .ok (select.mapGroupBy change)
  | .orderBy items => .ok (select.orderBy items)
  | .mapOrderBy change => .ok (select.mapOrderBy change)
  | .limit count => .ok (select.limit count)
  | .mapLimit change => .ok (select.mapLimit change)
  | .offset count => .ok (select.offset count)
  | .mapOffset change => .ok (select.mapOffset change)
  | .withTable name body isRecursive => .ok (select.withTable name body isRecursive)
  | .lock strength => .ok (select.lock strength)

/-! ## What a call makes of its clause -/

def withExpression (content : Option Tree) (expression : Tree) (isRecursive : Bool) : Tree :=
  let clause := content.getD .null
  let extended := clause.set "ctes" (.list (clause.itemsAt "ctes" ++ [expression]))
  if isRecursive then extended.set "recursive" (.bool true) else extended

/-- The content of the clause after a call, from the content before. -/
def rewrite (call : Call) (content : Option Tree) : Except Error (Option Tree) :=
  match call with
  | .columns outputs | .returning outputs =>
      .ok (ofItems (itemsOf content ++ outputs.map Node.target))
  | .mapColumns change | .mapFrom change | .mapGroupBy change | .mapOrderBy change =>
      .ok (ofItems (change (itemsOf content)))
  | .distinct => .ok (some (.list [.object []]))
  | .distinctOn expressions => .ok (ofItems (expressions.map Operand.reference))
  | .fromTable table => .ok (ofItems (itemsOf content ++ [table.item]))
  | .join type table condition =>
      match (itemsOf content).getLast? with
      | none => .error .nothingToJoin
      | some last =>
          .ok (ofItems ((itemsOf content).dropLast ++ [joinNode type last table.item condition]))
  | .filter condition | .having condition => .ok (restricted content condition)
  | .mapFilter change | .mapHaving change | .mapLimit change | .mapOffset change =>
      .ok (change content)
  | .groupBy expressions => .ok (ofItems (itemsOf content ++ expressions.map Operand.reference))
  | .orderBy items => .ok (ofItems (itemsOf content ++ items.map orderItem))
  | .limit count | .offset count => .ok (some count.literal)
  | .withTable name body isRecursive =>
      .ok (some (withExpression content (tableExpression name body) isRecursive))
  | .lock strength => .ok (ofItems (itemsOf content ++ [lockNode strength]))

/-- What a call writes, from the values under the field of its clause. -/
def writes (call : Call) (values : List Tree) : Except Error (List (String × Option Tree)) :=
  (call.rewrite values.head?).map (call.clause.writes values)

/-- What a call writes into a record. -/
def writesInto (call : Call) (record : Tree) : Except Error (List (String × Option Tree)) :=
  call.writes (Fields.valuesOf call.clause.field record.fields)

/-- It depends on the clause of the call only. -/
theorem writesInto_congr {call : Call} {left right : Tree}
    (agree : Fields.valuesOf call.clause.field left.fields =
      Fields.valuesOf call.clause.field right.fields) :
    call.writesInto left = call.writesInto right := by
  rw [writesInto, writesInto, agree]

theorem eq_nothingToJoin {call : Call} {values : List Tree} {error : Error}
    (failed : call.writes values = .error error) :
    error = .nothingToJoin ∧ call.clause = .tables := by
  cases call with
  | join type table condition =>
      simp only [writes, rewrite] at failed
      split at failed
      · cases failed
        exact ⟨rfl, rfl⟩
      · cases failed
  | _ => cases failed

theorem ofField?_of_mem_writes {call : Call} {values : List Tree}
    {writes : List (String × Option Tree)} (written : call.writes values = .ok writes)
    {write : String × Option Tree} (mem : write ∈ writes) :
    Clause.ofField? write.1 = some call.clause := by
  unfold Call.writes at written
  cases rewritten : call.rewrite values.head? with
  | error error => rw [rewritten] at written; cases written
  | ok content =>
      rw [rewritten] at written
      cases written
      exact Clause.ofField?_of_mem_writes mem

/-! ## A call is the writes to its clause -/

theorem mapLimit_eq_writeAll (select : Select) (change : Option Tree → Option Tree) :
    select.mapLimit change =
      ⟨select.query.withRecord <| select.query.record.writeAll <|
        Clause.limit.writes (Fields.valuesOf "limitCount" select.query.record.fields)
          (change (select.query.record.get? "limitCount"))⟩ := by
  have left (content : Option Tree) :
      (select.query.record.write "limitCount" content).get? "limitCount" =
        (Fields.overwrite content
          (Fields.valuesOf "limitCount" select.query.record.fields)).head? := by
    rw [Tree.get?, Fields.get?_eq_head?_valuesOf, Tree.valuesOf_write, if_pos rfl]
  unfold Select.mapLimit Query.mapOption limitWord
  dsimp only
  rw [Query.setOption_eq_write, Query.withRecord, left]
  rfl

/-- A call writes to its clause what it makes of the content of its clause. -/
theorem applyTo_eq (call : Call) (select : Select) :
    call.applyTo select =
      (call.writesInto select.query.record).map
        fun writes => ⟨select.query.withRecord (select.query.record.writeAll writes)⟩ := by
  have succeeds {query other : Query} (same : query = other) :
      (Except.ok ⟨query⟩ : Except Error Select) = .ok ⟨other⟩ := by rw [same]
  unfold writesInto writes
  rw [← Fields.get?_eq_head?_valuesOf]
  cases call with
  | columns | mapColumns | returning | distinctOn | fromTable | mapFrom | groupBy | mapGroupBy
  | orderBy | mapOrderBy | lock => exact succeeds (Query.setList_eq_write _ _ _)
  | distinct | withTable | offset => rfl
  | filter | having => exact succeeds (Query.restrict_eq_write _ _ _)
  | mapFilter | mapHaving | mapOffset => exact succeeds (Query.setOption_eq_write _ _ _)
  | limit | mapLimit => exact congrArg Except.ok (mapLimit_eq_writeAll select _)
  | join type table condition =>
      change Select.join select type table condition = _
      have items : itemsOf (Fields.get? "fromClause" select.query.record.fields) =
        select.query.record.itemsAt "fromClause" := rfl
      simp only [Select.join, rewrite, clause, Clause.field, items]
      cases (select.query.record.itemsAt "fromClause").getLast? with
      | none => rfl
      | some last => exact succeeds (Query.setList_eq_write _ _ _)

/-- A call that succeeds has written to the fields of its clause, and to no others. -/
theorem exists_writes {call : Call} {before after : Select}
    (done : call.applyTo before = .ok after) :
    ∃ writes : List (String × Option Tree),
      (∀ write ∈ writes, Clause.ofField? write.1 = some call.clause) ∧
        after.query = before.query.withRecord (before.query.record.writeAll writes) := by
  rw [applyTo_eq] at done
  cases written : call.writesInto before.query.record with
  | error error =>
      rw [written] at done
      cases done
  | ok writes =>
      rw [written] at done
      cases done
      exact ⟨writes, fun _ mem => ofField?_of_mem_writes written mem, rfl⟩

end Call

/-! ## Runs -/

/-- Applies calls one after the other, up to the first that fails. -/
def run (select : Select) (calls : List Call) : Except Error Select :=
  calls.foldlM (fun current call => call.applyTo current) select

/-- What a run writes into a record. -/
def log : List Call → Tree → Except Error (List (String × Option Tree))
  | [], _ => .ok []
  | call :: rest, record =>
      match call.writesInto record with
      | .error error => .error error
      | .ok writes => (log rest (record.writeAll writes)).map (writes ++ ·)

theorem log_of_error {call : Call} {record : Tree} {error : Error}
    (failed : call.writesInto record = .error error)
    (rest : List Call) : log (call :: rest) record = .error error := by
  simp only [log, failed]

theorem log_of_ok {call : Call} {record : Tree} {writes : List (String × Option Tree)}
    (written : call.writesInto record = .ok writes)
    (rest : List Call) :
    log (call :: rest) record = (log rest (record.writeAll writes)).map (writes ++ ·) := by
  simp only [log, written]

/-- A run that succeeds is its first call and the run after it. -/
theorem exists_of_log_ok {call : Call} {rest : List Call} {record : Tree}
    {writes : List (String × Option Tree)} (logged : log (call :: rest) record = .ok writes) :
    ∃ first more, call.writesInto record = .ok first ∧
      log rest (record.writeAll first) = .ok more ∧ writes = first ++ more := by
  cases written : call.writesInto record with
  | error error =>
      rw [log_of_error written] at logged
      cases logged
  | ok first =>
      rw [log_of_ok written] at logged
      cases later : log rest (record.writeAll first) with
      | error error =>
          rw [later] at logged
          cases logged
      | ok more =>
          rw [later] at logged
          exact ⟨first, more, rfl, later, (Except.ok.inj logged).symm⟩

/-- A run fails in its first call or after it. -/
theorem exists_of_log_error {call : Call} {rest : List Call} {record : Tree} {error : Error}
    (failed : log (call :: rest) record = .error error) :
    call.writesInto record = .error error ∨
      ∃ first, log rest (record.writeAll first) = .error error := by
  cases written : call.writesInto record with
  | error found =>
      rw [log_of_error written] at failed
      exact .inl failed
  | ok first =>
      rw [log_of_ok written] at failed
      cases later : log rest (record.writeAll first) with
      | error found =>
          rw [later] at failed
          cases failed
          exact .inr ⟨first, later⟩
      | ok more =>
          rw [later] at failed
          cases failed

/-- A run is its log, written into the record. -/
theorem run_eq (select : Select) (calls : List Call) :
    select.run calls =
      (log calls select.query.record).map
        fun writes => ⟨select.query.withRecord (select.query.record.writeAll writes)⟩ := by
  induction calls generalizing select with
  | nil => rfl
  | cons call rest ih =>
      rw [run, List.foldlM_cons, Call.applyTo_eq]
      cases written : call.writesInto select.query.record with
      | error error =>
          rw [log_of_error written]
          rfl
      | ok writes =>
          rw [log_of_ok written]
          change run ⟨select.query.withRecord (select.query.record.writeAll writes)⟩ rest = _
          rw [ih]
          dsimp only [Query.withRecord]
          cases log rest (select.query.record.writeAll writes) with
          | error error => rfl
          | ok more => simp only [Except.map, Tree.writeAll_append]

end Select

end SqlTree

import SqlTree.Proofs.Print.Alike
import SqlTree.Proofs.Statement.SelectCalls
import SqlTree.Statement.Builder

/-!
# The order of calls on a SELECT

Two calls on different clauses can be exchanged. So all that matters of a sequence of calls is, for
each clause, the sequence of the calls on that clause: two runs that agree on these fail together,
or they end with the same value in every field and print the same text.

The records at the end need not be equal. A call on a clause that is not there yet appends a field,
so the order of the fields shows the order in which the clauses were first used.

The proof looks at a run through the writes that it makes. A call reads only the field of its own
clause, so the writes of a run to one clause are those of its calls on this clause when they run on
their own: `Select.log_callsOn`.
-/

namespace SqlTree.Select

/-- The calls on one clause. -/
def callsOn (clause : Clause) (calls : List Call) : List Call :=
  calls.filter fun call => call.clause = clause

theorem callsOn_cons_own (call : Call) (rest : List Call) :
    callsOn call.clause (call :: rest) = call :: callsOn call.clause rest :=
  List.filter_cons_of_pos (by simp)

theorem callsOn_cons_other {call : Call} {clause : Clause} (other : call.clause ≠ clause)
    (rest : List Call) : callsOn clause (call :: rest) = callsOn clause rest :=
  List.filter_cons_of_neg (by simpa using other)

/-- The writes to the fields of one clause. -/
def writesOn (clause : Clause) (writes : List (String × Option Tree)) :
    List (String × Option Tree) :=
  writes.filter fun write => Clause.ofField? write.1 = some clause

theorem writesOn_append (clause : Clause) (first second : List (String × Option Tree)) :
    writesOn clause (first ++ second) = writesOn clause first ++ writesOn clause second :=
  List.filter_append first second

/-! ## The writes of one call -/

theorem writesOn_own {call : Call} {values : List Tree} {writes : List (String × Option Tree)}
    (written : call.writes values = .ok writes) : writesOn call.clause writes = writes := by
  apply List.filter_eq_self.mpr
  intro write mem
  simp [Call.ofField?_of_mem_writes written mem]

theorem writesOn_other {call : Call} {values : List Tree} {writes : List (String × Option Tree)}
    (written : call.writes values = .ok writes) {clause : Clause} (other : call.clause ≠ clause) :
    writesOn clause writes = [] := by
  apply List.filter_eq_nil_iff.mpr
  intro write mem
  simp [Call.ofField?_of_mem_writes written mem, other]

/-- The writes to a field are among those to its clause. -/
theorem writesTo_writesOn {key : String} {clause : Clause}
    (belongs : Clause.ofField? key = some clause) (writes : List (String × Option Tree)) :
    Tree.writesTo key (writesOn clause writes) = Tree.writesTo key writes := by
  unfold Tree.writesTo writesOn
  rw [List.filter_filter]
  apply List.filter_congr
  intro write _
  by_cases same : write.1 = key
  · simp [same, belongs]
  · simp [same]

/-- A call on another clause leaves a clause as it is. -/
theorem valuesOf_writeAll_other {call : Call} {values : List Tree}
    {writes : List (String × Option Tree)} (written : call.writes values = .ok writes)
    {clause : Clause} (other : call.clause ≠ clause) (record : Tree) :
    Fields.valuesOf clause.field (record.writeAll writes).fields =
      Fields.valuesOf clause.field record.fields := by
  rw [Tree.valuesOf_writeAll, ← writesTo_writesOn clause.ofField?_field,
    writesOn_other written other]
  rfl

/-! ## The writes of a run -/

theorem eq_nothingToJoin_of_log {calls : List Call} {record : Tree} {error : Error}
    (failed : log calls record = .error error) : error = .nothingToJoin := by
  induction calls generalizing record with
  | nil => cases failed
  | cons call rest ih =>
      rcases exists_of_log_error failed with first | ⟨writes, later⟩
      · exact (Call.eq_nothingToJoin first).1
      · exact ih later

theorem isSome_ofField?_of_mem_log {calls : List Call} {record : Tree}
    {writes : List (String × Option Tree)} (logged : log calls record = .ok writes) :
    ∀ write ∈ writes, (Clause.ofField? write.1).isSome = true := by
  induction calls generalizing record writes with
  | nil =>
      cases logged
      simp
  | cons call rest ih =>
      rcases exists_of_log_ok logged with ⟨first, more, written, later, rfl⟩
      intro write mem
      rcases List.mem_append.mp mem with here | there
      · rw [Call.ofField?_of_mem_writes written here]
        rfl
      · exact ih later write there

theorem writesTo_of_no_clause {calls : List Call} {record : Tree}
    {writes : List (String × Option Tree)} (logged : log calls record = .ok writes) {key : String}
    (unknown : Clause.ofField? key = none) : Tree.writesTo key writes = [] := by
  apply List.filter_eq_nil_iff.mpr
  intro write mem found
  have known := isSome_ofField?_of_mem_log logged write mem
  rw [of_decide_eq_true found, unknown] at known
  cases known

/--
The writes of a run to a clause are those of its calls on this clause, run on their own from any
record with the same clause. Only a failure in another clause gets lost, and a call that fails joins
tables.
-/
theorem log_callsOn {clause : Clause} {calls : List Call} {left right : Tree}
    (agree : Fields.valuesOf clause.field left.fields = Fields.valuesOf clause.field right.fields)
    (lost : ∀ error, log calls left = .error error → clause = .tables) :
    log (callsOn clause calls) right = (log calls left).map (writesOn clause) := by
  induction calls generalizing left right with
  | nil => rfl
  | cons call rest ih =>
      cases written : call.writesInto left with
      | error error =>
          have failed := log_of_error written rest
          obtain rfl : call.clause = clause :=
            (Call.eq_nothingToJoin written).2.trans (lost error failed).symm
          rw [Call.writesInto_congr agree] at written
          rw [failed, callsOn_cons_own, log_of_error written]
          rfl
      | ok first =>
          have laterLost : ∀ error, log rest (left.writeAll first) = .error error →
              clause = .tables := by
            intro error failed
            apply lost error
            rw [log_of_ok written, failed]
            rfl
          rw [log_of_ok written]
          by_cases own : call.clause = clause
          · subst own
            have stillAgree :
                Fields.valuesOf call.clause.field (left.writeAll first).fields =
                  Fields.valuesOf call.clause.field (right.writeAll first).fields := by
              rw [Tree.valuesOf_writeAll, Tree.valuesOf_writeAll, agree]
            have firstOwn := writesOn_own written
            rw [Call.writesInto_congr agree] at written
            rw [callsOn_cons_own, log_of_ok written, ih stillAgree laterLost]
            cases log rest (left.writeAll first) with
            | error error => rfl
            | ok more => simp only [Except.map, writesOn_append, firstOwn]
          · have stillAgree :
                Fields.valuesOf clause.field (left.writeAll first).fields =
                  Fields.valuesOf clause.field right.fields := by
              rw [valuesOf_writeAll_other written own, agree]
            rw [callsOn_cons_other own, ih stillAgree laterLost]
            cases log rest (left.writeAll first) with
            | error error => rfl
            | ok more =>
                simp only [Except.map, writesOn_append, writesOn_other written own,
                  List.nil_append]

theorem log_callsOn_tables (calls : List Call) (record : Tree) :
    log (callsOn .tables calls) record = (log calls record).map (writesOn .tables) :=
  log_callsOn rfl fun _ _ => rfl

theorem log_callsOn_of_ok {calls : List Call} {record : Tree}
    {writes : List (String × Option Tree)} (logged : log calls record = .ok writes)
    (clause : Clause) : log (callsOn clause calls) record = .ok (writesOn clause writes) := by
  have projected :
      log (callsOn clause calls) record = (log calls record).map (writesOn clause) := by
    apply log_callsOn rfl
    intro error failed
    rw [logged] at failed
    cases failed
  rw [projected, logged]
  rfl

/-! ## Two runs with the same calls on each clause -/

section

variable {first second : List Call} {record : Tree}
  (same : ∀ clause, callsOn clause first = callsOn clause second)

include same

/-- Such runs fail together. -/
theorem log_ok_of_callsOn {writes : List (String × Option Tree)}
    (logged : log first record = .ok writes) : ∃ others, log second record = .ok others := by
  have tables := log_callsOn_tables second record
  rw [← same, log_callsOn_tables, logged] at tables
  cases loggedToo : log second record with
  | error error =>
      rw [loggedToo] at tables
      cases tables
  | ok others => exact ⟨others, rfl⟩

/-- Such runs make the same writes to each field. -/
theorem writesTo_eq_of_callsOn {writes others : List (String × Option Tree)}
    (logged : log first record = .ok writes) (loggedToo : log second record = .ok others)
    (key : String) : Tree.writesTo key writes = Tree.writesTo key others := by
  cases belongs : Clause.ofField? key with
  | none => rw [writesTo_of_no_clause logged belongs, writesTo_of_no_clause loggedToo belongs]
  | some clause =>
      have projected := log_callsOn_of_ok loggedToo clause
      rw [← same, log_callsOn_of_ok logged clause] at projected
      rw [← writesTo_writesOn belongs writes, ← writesTo_writesOn belongs others,
        Except.ok.inj projected]

end

/--
Calls on different clauses commute. Two sequences with the same calls on each clause both lack a
table to join, or both succeed with the same value in every field and the same printed text.
-/
theorem interleavings_agree (select : Select) {first second : List Call}
    (same : ∀ clause, callsOn clause first = callsOn clause second) :
    (select.run first = .error .nothingToJoin ∧ select.run second = .error .nothingToJoin) ∨
      ∃ one other : Select, select.run first = .ok one ∧ select.run second = .ok other ∧
        (∀ key, one.query.record.get? key = other.query.record.get? key) ∧
        Statement.printWith one Recorded.parser = Statement.printWith other Recorded.parser := by
  rw [run_eq, run_eq]
  cases logged : log first select.query.record with
  | error error =>
      left
      cases loggedToo : log second select.query.record with
      | error other =>
          rw [eq_nothingToJoin_of_log logged, eq_nothingToJoin_of_log loggedToo]
          exact ⟨rfl, rfl⟩
      | ok others =>
          have sameBack (clause : Clause) := (same clause).symm
          rcases log_ok_of_callsOn sameBack loggedToo with ⟨writes, succeeds⟩
          rw [logged] at succeeds
          cases succeeds
  | ok writes =>
      right
      rcases log_ok_of_callsOn same logged with ⟨others, loggedToo⟩
      have sameWrites := writesTo_eq_of_callsOn same logged loggedToo
      rw [loggedToo]
      refine ⟨_, _, rfl, rfl, ?_, ?_⟩
      · intro key
        exact Tree.get?_writeAll_of_writesTo _ (sameWrites key)
      · exact Query.printWith_of_alike rfl (.writeAll _ sameWrites)

/-- Orders with their users: the tables come first. -/
def tablesFirst : List Call :=
  [.fromTable (.named "orders"), .join .left (.named "users") none,
    .filter (some (Expr.equal (.text "open") (.bool true))), .limit (.int 10),
    .filter (some (Expr.greater (.text "total") (.int 5)))]

/-- The same calls, in another order between the clauses. -/
def limitFirst : List Call :=
  [.limit (.int 10), .filter (some (Expr.equal (.text "open") (.bool true))),
    .fromTable (.named "orders"), .filter (some (Expr.greater (.text "total") (.int 5))),
    .join .left (.named "users") none]

theorem limitFirst_agrees :
    (∀ clause, callsOn clause tablesFirst = callsOn clause limitFirst) ∧
      ∃ one other : Select, (start [.text "id"]).run tablesFirst = .ok one ∧
        (start [.text "id"]).run limitFirst = .ok other ∧
        (∀ key, one.query.record.get? key = other.query.record.get? key) ∧
        Statement.printWith one Recorded.parser = Statement.printWith other Recorded.parser := by
  have same (clause : Clause) : callsOn clause tablesFirst = callsOn clause limitFirst := by
    cases clause <;> rfl
  refine ⟨same, ?_⟩
  rcases interleavings_agree (start [.text "id"]) same with ⟨failed, -⟩ | agree
  · cases failed
  · exact agree

end SqlTree.Select

import SqlTree.Proofs.Statement.SharedClauses
import SqlTree.Recorded

/-!
# Telling the kind of a statement from its fields

A record without its kind is looked at field by field. For a statement in the making the answer can
be given kind by kind, since such a record has only the fields of its kind: `StatementKind.told`.
Two statements are recognised from the start. The others are recognised as soon as they have a
clause that marks them, and before that most of them are not taken for anything.

The exception is an UPDATE with a condition and without assignments, which is taken for a DELETE. If
it has no further tables, then some DELETE has the same record, and no reading of the fields could
tell the two apart. With further tables its record is that of no DELETE.

A statement that is recognised needs no more than its record: the builder that is made of it, and
the text that is printed, are those of the statement itself.
-/

namespace SqlTree

namespace StatementKind

/-- The kind that the fields of a record tell, if it is that of a statement of the given kind. -/
def told (kind : StatementKind) (record : Tree) : Option StatementKind :=
  let has (key : String) : Bool := (record.get? key).isSome
  match kind with
  | .select => some .select
  | .insert =>
      if has "cols" || has "selectStmt" || has "onConflictClause" then some .insert else none
  | .update =>
      if has "targetList" then some .update else if has "whereClause" then some .delete else none
  | .delete => if has "usingClause" || has "whereClause" then some .delete else none
  | .createTable => if has "tableElts" then some .createTable else none
  | .alterTable => if has "cmds" then some .alterTable else none
  | .createIndex => some .createIndex

/-- The clause that marks a statement of the kind is there. -/
def isMarked (kind : StatementKind) (record : Tree) : Bool :=
  let has (key : String) : Bool := (record.get? key).isSome
  let hasItems (key : String) : Bool := !(record.itemsAt key).isEmpty
  match kind with
  | .select | .createIndex => true
  | .insert => has "cols" || has "selectStmt" || has "onConflictClause"
  | .update => hasItems "targetList"
  | .delete => has "whereClause" || has "usingClause"
  | .createTable => hasItems "tableElts"
  | .alterTable => hasItems "cmds"

theorem isSome_get?_of_itemsAt {record : Tree} {key : String}
    (items : (!(record.itemsAt key).isEmpty) = true) : (record.get? key).isSome = true := by
  cases found : record.get? key with
  | some value => rfl
  | none => simp [Tree.itemsAt, found] at items

theorem told_of_isMarked {kind : StatementKind} {record : Tree}
    (marked : kind.isMarked record = true) : kind.told record = some kind := by
  cases kind with
  | select | createIndex => rfl
  | insert => exact if_pos marked
  | update | createTable | alterTable => exact if_pos (isSome_get?_of_itemsAt marked)
  | delete => exact if_pos ((Bool.or_comm _ _).trans marked)

theorem told_eq_none_or_self {kind : StatementKind} (other : kind ≠ .update) (record : Tree) :
    kind.told record = none ∨ kind.told record = some kind := by
  cases kind with
  | update => exact absurd rfl other
  | select | createIndex => exact .inr rfl
  | insert | delete | createTable | alterTable =>
      unfold told
      dsimp only
      split
      · exact .inr rfl
      · exact .inl rfl

theorem told_update_of_filtered {record : Tree} (absent : record.get? "targetList" = none)
    (filtered : (record.get? "whereClause").isSome = true) :
    update.told record = some .delete := by
  simp [told, absent, filtered]

theorem told_update_of_unfiltered {record : Tree}
    (unfiltered : record.get? "targetList" = none → record.get? "whereClause" = none) :
    update.told record = none ∨ update.told record = some .update := by
  cases assigned : record.get? "targetList" with
  | some items => exact .inr (by simp [told, assigned])
  | none => exact .inl (by simp [told, assigned, unfiltered assigned])

theorem ofName?_name (kind : StatementKind) : ofName? kind.name = some kind := by
  cases kind <;> rfl

end StatementKind

open StatementKind (detect?)

/-! ## What the fields of a statement tell -/

namespace Query

namespace Shaped

variable {kind : StatementKind} {query : Query}

theorem isSome_get?_of_kept (shaped : Shaped kind query) {key : String}
    (stays : key ∈ kind.keptFields) : (query.record.get? key).isSome = true :=
  (Fields.get?_isSome key _).mpr (shaped.kept key stays)

theorem get?_of_unknown (shaped : Shaped kind query) {key : String} (unknown : key ∉ kind.fields) :
    query.record.get? key = none := by
  rw [← Option.not_isSome_iff_eq_none, Tree.get?, Fields.get?_isSome]
  exact fun mem => unknown (shaped.known key mem)

/--
For a statement in the making the kinds are not asked in turn. Each test is on a field that the kind
always has, on one that it never has, or on one that `told` looks at.
-/
theorem detect?_eq_told (shaped : Shaped kind query) :
    detect? query.record = kind.told query.record := by
  have has (key : String) : Fields.contains key query.record.fields =
    (query.record.get? key).isSome := rfl
  have opened : detect? query.record = StatementKind.detectFields? query.record.fields := by
    rcases Tree.exists_object shaped.object with ⟨pairs, record⟩
    rw [record]
    rfl
  rw [opened]
  cases kind <;>
    simp (disch := decide) [StatementKind.detectFields?, has, shaped.get?_of_unknown,
      shaped.isSome_get?_of_kept, StatementKind.told]

theorem detect?_of_isMarked (shaped : Shaped kind query)
    (marked : kind.isMarked query.record = true) : detect? query.record = some kind := by
  rw [shaped.detect?_eq_told, StatementKind.told_of_isMarked marked]

/-- A statement in the making is no shell. -/
theorem isShell_eq_false (shaped : Shaped kind query) : query.record.isShell = false := by
  have absent : query.record.get? "stmts" = none := by
    apply shaped.get?_of_unknown
    cases kind <;> decide
  simp [Tree.isShell, absent]

/-- No field of a statement is named like a kind of nodes, so its record is no node. -/
theorem tagged?_eq_none (shaped : Shaped kind query) : query.record.tagged? = none := by
  cases tagged : query.record.tagged? with
  | none => rfl
  | some node =>
      rcases Tree.tagged?_eq_some_iff.mp tagged with ⟨named, record⟩
      have known : node.1 ∈ kind.fields := by
        apply shaped.known
        rw [record]
        exact List.mem_singleton.mpr rfl
      have unnamed : ∀ key ∈ kind.fields, isKindName key = false := by
        cases kind <;> decide
      rw [unnamed node.1 known] at named
      cases named

end Shaped

theorem printWith_of_statementKind? {first second : Query}
    (kinds : first.statementKind? = second.statementKind?)
    (records : first.record = second.record) (parser : Parser) :
    first.printWith parser = second.printWith parser := by
  unfold printWith
  rw [records, kinds]

end Query

namespace Builder

/-- An UPDATE with a condition and without assignments. -/
def isUnassigned (builder : Builder) : Bool :=
  builder.statement? = some .update &&
    !((Statement.record builder).get? "targetList").isSome &&
    ((Statement.record builder).get? "whereClause").isSome

theorem exists_update_of_isUnassigned {builder : Builder}
    (unassigned : builder.isUnassigned = true) :
    ∃ update : Update, builder = .update update ∧
      update.query.record.get? "targetList" = none ∧
      (update.query.record.get? "whereClause").isSome = true := by
  simp only [isUnassigned, Bool.and_eq_true, decide_eq_true_eq, Bool.not_eq_true',
    Option.isSome_eq_false_iff, Option.isNone_iff_eq_none] at unassigned
  rcases unassigned with ⟨⟨variant, absent⟩, filtered⟩
  cases builder with
  | update update => exact ⟨update, rfl, absent, filtered⟩
  | _ => cases variant

/--
The fields of a statement in the making tell its kind or nothing, except for an UPDATE that has a
condition and no assignments. Such an UPDATE is taken for a DELETE. Its record is that of a DELETE,
field for field, exactly if it has no further tables.
-/
theorem fields_tell_kind_or_nothing {builder : Builder} (reached : builder.Reached) :
    (builder.isUnassigned = true →
      detect? (Statement.record builder) = some .delete ∧
        ((∃ delete : Delete, (Builder.delete delete).Reached ∧
            Statement.record delete = Statement.record builder) ↔
          (Statement.record builder).get? "fromClause" = none)) ∧
      (builder.isUnassigned = false →
        detect? (Statement.record builder) = none ∨
          detect? (Statement.record builder) = builder.statement?) := by
  rcases reached.shaped with ⟨kind, same, shaped⟩
  have detected : detect? (Statement.record builder) = kind.told (Statement.record builder) :=
    shaped.detect?_eq_told
  rw [detected, same]
  constructor
  · intro unassigned
    rcases exists_update_of_isUnassigned unassigned with ⟨update, rfl, absent, filtered⟩
    cases same
    exact ⟨StatementKind.told_update_of_filtered absent filtered, reached.exists_delete_iff absent⟩
  · intro assigned
    by_cases update : kind = .update
    · subst update
      apply StatementKind.told_update_of_unfiltered
      simpa [isUnassigned, same] using assigned
    · exact StatementKind.told_eq_none_or_self update _

/-- An UPDATE of the rows that a condition picks, before anything is assigned. -/
def closedAccounts : Builder :=
  .update ((Update.start (.named "accounts")).filter
    (some (Expr.equal (.text "closed") (.bool true))))

theorem closedAccounts_reached : closedAccounts.Reached :=
  .step (.update (.named "accounts")) (.updateFilter _ _)

/-- The same with a further table, which a DELETE would have in another clause. -/
def archivedAccounts : Builder :=
  .update (((Update.start (.named "accounts")).fromTable (.named "archive")).filter
    (some (Expr.equal (.text "closed") (.bool true))))

theorem archivedAccounts_reached : archivedAccounts.Reached :=
  .step (.step (.update (.named "accounts")) (.updateFrom _ (.named "archive"))) (.updateFilter _ _)

theorem closedAccounts_taken_for_delete :
    (closedAccounts.isUnassigned = true ∧
      detect? (Statement.record closedAccounts) = some .delete ∧
      ∃ delete : Delete, (Builder.delete delete).Reached ∧
        Statement.record delete = Statement.record closedAccounts) ∧
    archivedAccounts.isUnassigned = true ∧
      detect? (Statement.record archivedAccounts) = some .delete ∧
      ¬∃ delete : Delete, (Builder.delete delete).Reached ∧
        Statement.record delete = Statement.record archivedAccounts := by
  have closed : closedAccounts.isUnassigned = true := by decide
  have archived : archivedAccounts.isUnassigned = true := by decide
  rcases (fields_tell_kind_or_nothing closedAccounts_reached).1 closed with ⟨taken, same⟩
  rcases (fields_tell_kind_or_nothing archivedAccounts_reached).1 archived with ⟨alsoTaken, other⟩
  refine ⟨⟨closed, taken, same.mpr (by decide)⟩, archived, alsoTaken, ?_⟩
  rw [other]
  decide

/-- So the fields may tell a kind that is not that of the statement. -/
theorem fields_may_tell_another_kind :
    ¬ ∀ builder : Builder, builder.Reached →
      detect? (Statement.record builder) = none ∨
        detect? (Statement.record builder) = builder.statement? := by
  intro always
  have told := always closedAccounts closedAccounts_reached
  revert told
  decide

/-! ## Bare records -/

theorem statement?_ofStatement (query : Query) (kind : Option StatementKind) :
    (ofStatement query kind).statement? = kind := by
  rcases kind with _ | (_ | _ | _ | _ | _ | _ | _) <;> rfl

theorem toQuery_ofStatement (query : Query) (kind : Option StatementKind) :
    Statement.toQuery (ofStatement query kind) = query := by
  rcases kind with _ | (_ | _ | _ | _ | _ | _ | _) <;> rfl

theorem record_ofStatement (query : Query) (kind : Option StatementKind) :
    Statement.record (ofStatement query kind) = query.record :=
  congrArg Query.record (toQuery_ofStatement query kind)

theorem kind?_ofStatement (query : Query) (kind : Option StatementKind) :
    Statement.kind? (ofStatement query kind) = query.kind :=
  congrArg Query.kind (toQuery_ofStatement query kind)

theorem parser?_ofStatement (query : Query) (kind : Option StatementKind) :
    Statement.parser? (ofStatement query kind) = query.parser :=
  congrArg Query.parser (toQuery_ofStatement query kind)

/-- A marked statement is made again from its bare record. -/
theorem ofTree_of_shaped {kind : StatementKind} {query : Query} (shaped : query.Shaped kind)
    (marked : kind.isMarked query.record = true) (parser : Option Parser) :
    ofTree query.record parser = ofStatement { query with parser } (some kind) := by
  unfold ofTree
  rw [shaped.isShell_eq_false, shaped.tagged?_eq_none, shaped.detect?_of_isMarked marked]
  simp [ofRecord, ofQuery, StatementKind.ofName?_name, shaped.kindName]

/-- The clause that marks the statement is there. -/
def isMarked (builder : Builder) : Bool :=
  match builder.statement? with
  | some kind => kind.isMarked (Statement.record builder)
  | none => false

/--
A bare record is as good as the statement that it comes from, if the clause is there that marks a
statement of its kind. It leads to a builder of the same variant with the same kind and record, and
it is printed in the same way by every parser.
-/
theorem bare_record_recognised {builder : Builder} (reached : builder.Reached)
    (marked : builder.isMarked = true) :
    (∀ parser : Option Parser,
      (ofTree (Statement.record builder) parser).statement? = builder.statement? ∧
        Statement.kind? (ofTree (Statement.record builder) parser) = Statement.kind? builder ∧
        Statement.record (ofTree (Statement.record builder) parser) = Statement.record builder) ∧
      ∀ parser : Parser,
        Query.printWith ⟨Statement.record builder, none, none⟩ parser =
          Statement.printWith builder parser := by
  rcases reached.shaped with ⟨kind, same, shaped⟩
  have clause : kind.isMarked builder.toQuery.record = true := by
    rw [isMarked, same] at marked
    exact marked
  constructor
  · intro parser
    have made : ofTree (Statement.record builder) parser =
        ofStatement { builder.toQuery with parser } (some kind) :=
      ofTree_of_shaped shaped clause parser
    rw [made, statement?_ofStatement, Statement.kind?, Statement.record, toQuery_ofStatement]
    exact ⟨same.symm, rfl, rfl⟩
  · intro parser
    have told : Query.statementKind? ⟨builder.toQuery.record, none, none⟩ =
        builder.toQuery.statementKind? := by
      rw [Query.statementKind?, Query.statementKind?, shaped.kindName,
        shaped.detect?_of_isMarked clause]
      rfl
    exact Query.printWith_of_statementKind? told rfl parser

/-- An index over part of a table, which has a relation and a condition like a DELETE. -/
def openOrders : Builder :=
  .createIndex (((CreateIndex.start "open_orders").on "orders").filter
    (some (Expr.equal (.text "open") (.bool true))))

theorem openOrders_reached : openOrders.Reached :=
  .step (.step (.createIndex "open_orders") (.on _ "orders")) (.indexFilter _ _)

theorem openOrders_recognised :
    openOrders.isMarked = true ∧
      (ofTree (Statement.record openOrders) none).statement? = some .createIndex ∧
      Query.printWith ⟨Statement.record openOrders, none, none⟩ Recorded.parser =
        Statement.printWith openOrders Recorded.parser := by
  have marked : openOrders.isMarked = true := by decide
  rcases bare_record_recognised openOrders_reached marked with ⟨made, printed⟩
  exact ⟨marked, (made none).1, printed Recorded.parser⟩

end Builder

end SqlTree

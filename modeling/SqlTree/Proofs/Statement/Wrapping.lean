import SqlTree.Proofs.Print.Pieces
import SqlTree.Proofs.Statement.Detection

/-!
# Builders of trees and of texts

A tree is looked at in three ways before a builder is made of it: it may be a shell, it may be a
node, or its fields may tell the kind of a statement. `Tree.Reading` has a case for each, and one
for trees that are nothing of the sort. It says with which kind and which record the builder is
made, so that whatever is asked of the builder can be answered case by case.

What a builder gives back is read as what the builder was made of. This holds although a shell is
asked for before anything else, since no shell is a node.

Printing tells these cases apart once more, and by other means: it goes by the kind that the builder
has, or else by its fields. A text with one statement can be parsed as a whole or as this statement.
The former prints the shell that the parser made, the latter a shell that is made for the occasion,
and a printer reads the same statement in both.
-/

namespace SqlTree

/-! ## Ways to read a tree -/

/-- The kind, if it is known, and the record with which a builder is made of a tree. -/
inductive Tree.Reading (tree : Tree) : Option String → Tree → Prop
  | shell (isShell : tree.isShell = true) : Reading tree none tree
  | node {kind : String} {record : Tree} (tagged : tree.tagged? = some (kind, record)) :
      Reading tree (some kind) record
  | told {kind : StatementKind} (noShell : tree.isShell = false) (untagged : tree.tagged? = none)
      (told : StatementKind.detect? tree = some kind) : Reading tree (some kind.name) tree
  | unknown (untagged : tree.tagged? = none) (untold : StatementKind.detect? tree = none) :
      Reading tree none tree

namespace Tree

/-- No shell is a node: the name of its list of statements is not that of a kind. -/
theorem isShell_of_tagged? {tree record : Tree} {kind : String}
    (tagged : tree.tagged? = some (kind, record)) : tree.isShell = false := by
  rcases tagged?_eq_some_iff.mp tagged with ⟨named, rfl⟩
  have other : kind ≠ "stmts" := by
    rintro rfl
    revert named
    decide
  simp [isShell, get?, node, fields, Fields.get?, other]

theorem exists_reading (tree : Tree) : ∃ kind record, tree.Reading kind record := by
  cases isShell : tree.isShell with
  | true => exact ⟨none, tree, .shell isShell⟩
  | false =>
      rcases tagged : tree.tagged? with _ | ⟨kind, record⟩
      · rcases told : StatementKind.detect? tree with _ | kind
        · exact ⟨none, tree, .unknown tagged told⟩
        · exact ⟨some kind.name, tree, .told isShell tagged told⟩
      · exact ⟨some kind, record, .node tagged⟩

end Tree

namespace Builder

theorem toQuery_ofQuery (query : Query) : Statement.toQuery (ofQuery query) = query :=
  toQuery_ofStatement query _

theorem statement?_ofQuery (query : Query) :
    (ofQuery query).statement? = query.kind.bind StatementKind.ofName? :=
  statement?_ofStatement query _

end Builder

namespace Tree.Reading

variable {tree record : Tree} {kind : Option String}

theorem ofTree_eq (reading : tree.Reading kind record) (parser : Option Parser) :
    Builder.ofTree tree parser = .ofQuery ⟨record, kind, parser⟩ := by
  unfold Builder.ofTree
  cases reading with
  | shell isShell =>
      rw [isShell]
      rfl
  | node tagged =>
      rw [isShell_of_tagged? tagged, tagged]
      rfl
  | told noShell untagged told =>
      rw [noShell, untagged, told]
      rfl
  | unknown untagged untold =>
      rw [untagged, untold]
      exact ite_self _

/-- A tree without a kind of its own is the record. -/
theorem record_eq (reading : tree.Reading kind record) (untagged : tree.tagged? = none) :
    record = tree := by
  cases reading with
  | node tagged => cases untagged.symm.trans tagged
  | shell | told | unknown => rfl

/-- What can be asked of the builder of a tree, but for its parser. -/
theorem answers (reading : tree.Reading kind record) (parser : Option Parser) :
    let builder := Builder.ofTree tree parser
    builder.statement? = kind.bind StatementKind.ofName? ∧
      Statement.kind? builder = kind ∧
      Statement.record builder = record ∧
      Statement.toNode builder = Query.toNode ⟨record, kind, none⟩ := by
  have inside := Builder.toQuery_ofQuery ⟨record, kind, parser⟩
  rw [reading.ofTree_eq parser]
  exact ⟨Builder.statement?_ofQuery _, Builder.kind?_ofStatement _ _,
    Builder.record_ofStatement _ _, (congrArg Query.toNode inside).trans rfl⟩

/-- What the query of a tree gives back is read in the same way as the tree. -/
theorem toNode (reading : tree.Reading kind record) :
    (Query.toNode ⟨record, kind, none⟩).Reading kind record := by
  cases reading with
  | shell isShell => exact .shell isShell
  | node tagged =>
      exact .node (tagged?_node (tagged?_eq_some_iff.mp tagged).1 record)
  | @told kind _ _ _ => exact .node (tagged?_node kind.isKindName_name tree)
  | unknown untagged untold => exact .unknown untagged untold

/-- Printing a bare tree comes to the kind that the tree is read with. -/
theorem printWith_eq (reading : tree.Reading kind record) (untagged : tree.tagged? = none)
    (parser : Parser) :
    Query.printWith ⟨tree, none, none⟩ parser = Query.printWith ⟨tree, kind, none⟩ parser := by
  cases reading with
  | node tagged => cases untagged.symm.trans tagged
  | @told kind _ _ told =>
      have kinds : Query.statementKind? ⟨tree, none, none⟩ =
          Query.statementKind? ⟨tree, some kind.name, none⟩ := by
        rw [Query.statementKind?, told]
        rfl
      exact Query.printWith_of_statementKind? kinds rfl parser
  | shell | unknown => rfl

end Tree.Reading

namespace Builder

/--
A builder gives back the tree that it was made of. Only a bare record that tells the kind of a
statement comes back as the node of this kind. A builder that is made of what comes back has the
same variant, kind and record: a kind that was told is a tag the second time, which changes the way
of reading, but not its result. And a tree that is no node is printed in the same way, whether its
kind is told before or while it is printed.
-/
theorem wrapping_loses_nothing (tree : Tree) (parser : Option Parser) :
    let builder := ofTree tree parser
    (tree.isShell = true ∨ tree.tagged?.isSome = true ∨ StatementKind.detect? tree = none →
      Statement.toNode builder = tree) ∧
    (∀ kind : StatementKind, tree.isShell = false → tree.tagged? = none →
      StatementKind.detect? tree = some kind →
      Statement.toNode builder = .node kind.name tree) ∧
    (∀ other : Option Parser,
      let again := ofTree (Statement.toNode builder) other
      again.statement? = builder.statement? ∧
        Statement.kind? again = Statement.kind? builder ∧
        Statement.record again = Statement.record builder ∧
        Statement.toNode again = Statement.toNode builder) ∧
    (tree.tagged? = none → ∀ printer : Parser,
      Query.printWith ⟨tree, none, none⟩ printer =
        Statement.printWith (ofTree tree none) printer) := by
  rcases tree.exists_reading with ⟨kind, record, reading⟩
  rcases reading.answers parser with ⟨variant, kindThere, recordThere, given⟩
  refine ⟨?_, ?_, ?_, ?_⟩
  · intro whole
    rw [given]
    cases reading with
    | shell | unknown => rfl
    | node tagged => exact (Tree.tagged?_eq_some_iff.mp tagged).2.symm
    | told noShell untagged told => simp [noShell, untagged, told] at whole
  · intro found noShell untagged told
    rw [given]
    cases reading with
    | shell isShell => cases isShell.symm.trans noShell
    | node tagged => cases untagged.symm.trans tagged
    | told _ _ same =>
        cases told.symm.trans same
        rfl
    | unknown _ untold => cases untold.symm.trans told
  · intro other
    have back : (Statement.toNode (ofTree tree parser)).Reading kind record := by
      rw [given]
      exact reading.toNode
    rcases back.answers other with ⟨sameVariant, sameKind, sameRecord, sameNode⟩
    exact ⟨sameVariant.trans variant.symm, sameKind.trans kindThere.symm,
      sameRecord.trans recordThere.symm, sameNode.trans given.symm⟩
  · intro untagged printer
    rw [reading.ofTree_eq, Statement.printWith, toQuery_ofQuery, reading.record_eq untagged]
    exact reading.printWith_eq untagged printer

/-- A shell before all else, though it has a field of a SELECT as well. -/
def shellWithOperation : Tree := .object [("op", .text "SETOP_NONE"), ("stmts", .list [])]

/-- The bare record of a DELETE, with a node in one of its fields. -/
def bareDelete : Tree :=
  .object [("whereClause", .null), ("relation", .node "RangeVar" (.object []))]

theorem bareDelete_comes_back :
    let again := ofTree (Statement.toNode (ofTree bareDelete none)) (some Recorded.parser)
    Statement.toNode (ofTree shellWithOperation none) = shellWithOperation ∧
      Statement.toNode (ofTree bareDelete none) = .node "DeleteStmt" bareDelete ∧
      again.statement? = (ofTree bareDelete none).statement? ∧
      Query.printWith ⟨bareDelete, none, none⟩ Recorded.parser =
        Statement.printWith (ofTree bareDelete none) Recorded.parser := by
  have shell := (wrapping_loses_nothing shellWithOperation none).1 (.inl rfl)
  rcases wrapping_loses_nothing bareDelete none with ⟨-, given, same, printed⟩
  exact ⟨shell, given .delete rfl rfl rfl, (same (some Recorded.parser)).1,
    printed rfl Recorded.parser⟩

/-! ## Parsed texts -/

theorem parse_of_ok {parser : Parser} {source : String} {tree : Tree}
    (parsed : parser.parse source = .ok tree) :
    parse parser source = .ok (ofTree tree (some parser)) := by
  rw [parse, parsed]

/-- A shell is handed to the parser as it is. -/
theorem print_ofTree_of_isShell {tree : Tree} (isShell : tree.isShell = true) (parser : Parser) :
    Statement.print (ofTree tree (some parser)) = (parser.print tree).mapError .print := by
  have reading : tree.Reading none tree := .shell isShell
  rw [reading.ofTree_eq, Statement.print, toQuery_ofQuery]
  exact if_pos isShell

/-- A statement is handed to the parser in a shell of its own. -/
theorem print_ofTree_of_statement {tree record : Tree} {kind : String}
    (tagged : tree.tagged? = some (kind, record)) (isStatement : Text.endsWith "Stmt" kind = true)
    (noShell : record.isShell = false) (parser : Parser) :
    Statement.print (ofTree tree (some parser)) =
      (parser.print (.shell [tree])).mapError .print := by
  have reading : tree.Reading (some kind) record := .node tagged
  rw [reading.ofTree_eq, Statement.print, toQuery_ofQuery, (Tree.tagged?_eq_some_iff.mp tagged).2]
  simp [Query.print, Query.printWith, noShell, isStatement, Query.statementKind?]

theorem length_statements (tree : Tree) :
    tree.statements.length =
      (tree.itemsAt "stmts").countP fun entry => (entry.get? "stmt").isSome :=
  List.length_filterMap_eq_countP

/-- Asking for the statement of a text fails by its own account only over their number. -/
theorem parseStatement_of_ok {parser : Parser} {source : String} {tree : Tree}
    (parsed : parser.parse source = .ok tree) :
    (∃ statement, tree.statements = [statement] ∧
      parseStatement parser source = .ok (ofTree statement (some parser))) ∨
    (tree.statements.length ≠ 1 ∧ parseStatement parser source =
      .error (.inexpressible (.statementCount tree.statements.length))) := by
  simp only [parseStatement, parsed]
  split
  · next statement only => exact .inl ⟨statement, only, rfl⟩
  · next several =>
    refine .inr ⟨?_, rfl⟩
    intro one
    rcases List.length_eq_one_iff.mp one with ⟨statement, only⟩
    exact several statement only

/--
A text with one statement is printed in the same way whether it is parsed as a whole or as this
statement, if the parser prints as this library does. The outcome is that of printing the statement
itself. And a parsed text is refused as having no single statement exactly if the number of its
entries that hold a statement is not one; the refusal names this number.
-/
theorem whole_and_single_print_alike {parser : Parser} {source : String} {tree : Tree}
    (parsed : parser.parse source = .ok tree) :
    (∀ (entry statement record : Tree) (kind : String), parser.print = Print.shell →
      tree.get? "stmts" = some (.list [entry]) → entry.get? "stmt" = some statement →
      statement.tagged? = some (kind, record) → Text.endsWith "Stmt" kind = true →
      record.isShell = false →
      ∃ whole single, parse parser source = .ok whole ∧
        parseStatement parser source = .ok single ∧
        Statement.print whole = Statement.print single ∧
        Statement.print whole = (Print.statement statement).mapError .print) ∧
    let found := (tree.itemsAt "stmts").countP fun entry => (entry.get? "stmt").isSome
    ((∃ cause, parseStatement parser source = .error (.inexpressible cause)) ↔ found ≠ 1) ∧
      (found ≠ 1 →
        parseStatement parser source = .error (.inexpressible (.statementCount found))) := by
  constructor
  · intro entry statement record kind prints listed holds tagged isStatement noShell
    have isShell : tree.isShell = true := by
      rw [Tree.isShell, listed]
      rfl
    have entries : tree.itemsAt "stmts" = [entry] := by
      rw [Tree.itemsAt, listed]
      rfl
    have only : tree.statements = [statement] := by
      rw [Tree.statements, entries]
      simp [holds]
    have single : parseStatement parser source = .ok (ofTree statement (some parser)) := by
      rw [parseStatement, parsed]
      simp only [only]
    have wholePrinted : Statement.print (ofTree tree (some parser)) =
        (Print.statement statement).mapError .print := by
      rw [print_ofTree_of_isShell isShell, prints, Print.shell_of_entry entries holds]
    have singlePrinted : Statement.print (ofTree statement (some parser)) =
        (Print.statement statement).mapError .print := by
      rw [print_ofTree_of_statement tagged isStatement noShell, prints, Print.shell_singleton]
    exact ⟨_, _, parse_of_ok parsed, single, wholePrinted.trans singlePrinted.symm, wholePrinted⟩
  · intro found
    have counted : tree.statements.length = found := length_statements tree
    rcases parseStatement_of_ok parsed with ⟨statement, only, made⟩ | ⟨several, refused⟩
    · have one : found = 1 := by rw [← counted, only, List.length_singleton]
      simp [made, one]
    · rw [counted] at several refused
      exact ⟨⟨fun _ => several, fun _ => ⟨_, refused⟩⟩, fun _ => refused⟩

theorem activeFilter_prints_alike :
    let source := "SELECT id FROM users WHERE active = true"
    ∃ whole single, parse Recorded.parser source = .ok whole ∧
      parseStatement Recorded.parser source = .ok single ∧
      Statement.print whole = .ok source ∧ Statement.print single = .ok source := by
  intro source
  have parsed : Recorded.parser.parse source = .ok Recorded.activeFilter := rfl
  rcases (whole_and_single_print_alike parsed).1 _ _ _ _ rfl rfl rfl rfl rfl rfl with
    ⟨whole, single, wholeMade, singleMade, alike, printed⟩
  have text : Statement.print whole = .ok source := printed.trans rfl
  exact ⟨whole, single, wholeMade, singleMade, text, alike.symm.trans text⟩

end Builder

end SqlTree

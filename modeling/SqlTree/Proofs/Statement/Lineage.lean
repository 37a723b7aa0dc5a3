import SqlTree.Proofs.Statement.Wrapping
import SqlTree.Proofs.Traverse.Outermost
import SqlTree.Proofs.Traverse.Search

/-!
# What a builder inherits

Beside its record a builder has a variant, a kind and a parser. None of the operations on a builder
is told all of them: an update knows its type, a search knows the kind that it looks for, and only
binding a parser names one. This file follows the three through any number of operations.

A builder can be handled in two ways. As a `Builder` it is made anew after an operation, and its
variant is chosen by its kind. As the statement inside, it keeps its type whatever its kind is.
`Builder.View` lists both. The two agree as long as the variant is the one that the kind asks for,
which is the invariant, `Builder.Fits`. Under it an operation does nothing but exchange the record:
`Builder.Changed.exists_withRecord`.
-/

namespace SqlTree

namespace Builder

/-! ## Operations -/

/-- The types that a builder can be handled as, each with the builder that a value of it makes. -/
inductive View : (β : Type) → Statement β → (β → Builder) → Prop
  | builder : View Builder inferInstance id
  | plain : View Query inferInstance .plain
  | select : View Select inferInstance .select
  | insert : View Insert inferInstance .insert
  | update : View Update inferInstance .update
  | delete : View Delete inferInstance .delete
  | createTable : View CreateTable inferInstance .createTable
  | alterTable : View AlterTable inferInstance .alterTable
  | createIndex : View CreateIndex inferInstance .createIndex

/--
A builder, and what one operation on its record makes of it: an update of a statement, a set
operation, fields merged into the record, or nodes replaced in it. The calls of a replacement may
keep a state, and there is a result only if none of them fails.
-/
inductive Changed : Builder → Builder → Prop
  | update {before after : Builder} (updated : Updated before after) : Changed before after
  | combine (select : Select) (operation : SetOperation) (all : Bool) (other : Tree) :
      Changed (.select select) (.select (select.combine operation all other))
  | merge {β : Type} [inst : Statement β] {build : β → Builder} (view : View β inst build)
      (statement : β) (pairs : List (String × Tree)) :
      Changed (build statement) (build (Statement.merge statement pairs))
  | replace {β : Type} [inst : Statement β] {build : β → Builder} (view : View β inst build)
      {statement result : β} (kind : String) (predicate : Option Predicate) (firstOnly : Bool)
      {σ : Type} {first last : σ} (call : Builder → ExceptT Error (StateM σ) Tree)
      (done : (Statement.replaceNodes statement kind predicate call firstOnly).run.run first =
        (.ok result, last)) :
      Changed (build statement) (build result)

/-- A builder, and the same builder bound to a parser. -/
inductive Bound (parser : Parser) : Builder → Builder → Prop
  | bind {β : Type} [inst : Statement β] {build : β → Builder} (view : View β inst build)
      (statement : β) :
      Bound parser (build statement) (build (Statement.withParser statement parser))

/-- A builder, and one that a search of it gives back. -/
inductive Found (kind : String) (predicate : Option Predicate) : Builder → Builder → Prop
  | first {β : Type} [inst : Statement β] {build : β → Builder} (view : View β inst build)
      {statement : β} {found : Builder}
      (first : Statement.find? statement kind predicate = some found) :
      Found kind predicate (build statement) found
  | every {β : Type} [inst : Statement β] {build : β → Builder} (view : View β inst build)
      {statement : β} {found : Builder}
      (mem : found ∈ Statement.findAll statement kind predicate) :
      Found kind predicate (build statement) found

/-- The builders that there are: started, made of a tree or a text, and what operations lead to. -/
inductive Obtained : Builder → Prop
  | started {builder : Builder} (reached : builder.Reached) : Obtained builder
  | wrapped (tree : Tree) (parser : Option Parser) : Obtained (ofTree tree parser)
  | created (kind : String) (record : Tree) (parser : Option Parser) :
      Obtained (ofRecord kind record parser)
  | parsed {parser : Parser} {source : String} {builder : Builder}
      (parsed : parse parser source = .ok builder) : Obtained builder
  | parsedStatement {parser : Parser} {source : String} {builder : Builder}
      (parsed : parseStatement parser source = .ok builder) : Obtained builder
  | changed {before after : Builder} (obtained : Obtained before) (changed : Changed before after) :
      Obtained after
  | bound {before after : Builder} {parser : Parser} (obtained : Obtained before)
      (bound : Bound parser before after) : Obtained after
  | found {builder result : Builder} {kind : String} {predicate : Option Predicate}
      (obtained : Obtained builder) (found : Found kind predicate builder result) : Obtained result

/-! ## The variant that the kind asks for -/

/-- The variant of the builder is the one that its kind asks for. -/
def Fits (builder : Builder) : Prop :=
  builder.statement? = (Statement.kind? builder).bind StatementKind.ofName?

theorem fits_ofQuery (query : Query) : (ofQuery query).Fits := by
  have kind : Statement.kind? (ofQuery query) = query.kind := kind?_ofStatement query _
  rw [Fits, kind]
  exact statement?_ofQuery query

theorem fits_ofTree (tree : Tree) (parser : Option Parser) : (ofTree tree parser).Fits := by
  rcases tree.exists_reading with ⟨kind, record, reading⟩
  rw [reading.ofTree_eq]
  exact fits_ofQuery _

theorem Reached.fits {builder : Builder} (reached : builder.Reached) : builder.Fits := by
  rcases reached.shaped with ⟨kind, variant, shaped⟩
  have named : Statement.kind? builder = some kind.name := shaped.kindName
  rw [Fits, variant, named]
  exact (StatementKind.ofName?_name kind).symm

theorem ofStatement_toQuery (builder : Builder) :
    ofStatement builder.toQuery builder.statement? = builder := by
  cases builder <;> rfl

/-- A builder of the same variant around another query of the same kind fits as before. -/
theorem Fits.ofStatement {builder : Builder} (fits : builder.Fits) {query : Query}
    (kind : query.kind = Statement.kind? builder) :
    (ofStatement query builder.statement?).Fits := by
  rw [Fits, statement?_ofStatement, kind?_ofStatement, kind]
  exact fits

namespace View

variable {β : Type} [inst : Statement β] {build : β → Builder}

theorem toQuery_build (view : View β inst build) (statement : β) :
    (build statement).toQuery = Statement.toQuery statement := by
  cases view <;> rfl

theorem record_ofQuery (view : View β inst build) (query : Query) :
    Statement.record (Statement.ofQuery query : β) = query.record := by
  cases view with
  | builder => exact congrArg Query.record (toQuery_ofQuery query)
  | _ => rfl

/--
Where the variant fits, it does not matter whether it is kept or chosen anew. A type of statements
keeps its variant. Only a `Builder` chooses, and it chooses the same.
-/
theorem build_ofQuery (view : View β inst build) {statement : β} (fits : (build statement).Fits)
    (query : Query) (kind : query.kind = Statement.kind? statement) :
    build (Statement.ofQuery query) = ofStatement query (build statement).statement? := by
  cases view with
  | builder =>
      have variant : statement.statement? = query.kind.bind StatementKind.ofName? := by
        rw [kind]
        exact fits
      change ofQuery query = ofStatement query statement.statement?
      rw [variant]
      rfl
  | _ => rfl

end View

/-- A builder that fits is made again from its query. -/
theorem Fits.ofQuery_toQuery {builder : Builder} (fits : builder.Fits) :
    ofQuery builder.toQuery = builder :=
  (View.builder.build_ofQuery fits builder.toQuery rfl).trans builder.ofStatement_toQuery

/-! ## One operation -/

/-- The builder around another record. -/
def withRecord (builder : Builder) (record : Tree) : Builder :=
  ofStatement (builder.toQuery.withRecord record) builder.statement?

theorem View.build_withRecord {β : Type} [inst : Statement β] {build : β → Builder}
    (view : View β inst build) {statement : β} (fits : (build statement).Fits) (record : Tree) :
    build (Statement.ofQuery ((Statement.toQuery statement).withRecord record)) =
      (build statement).withRecord record := by
  rw [view.build_ofQuery fits ((Statement.toQuery statement).withRecord record) rfl, withRecord,
    view.toQuery_build]

/-- A replacement that has a result only exchanges the record. -/
theorem exists_record_of_replaceNodes {β : Type} [Statement β] {statement result : β}
    {kind : String} {predicate : Option Predicate} {firstOnly : Bool} {σ : Type} {first last : σ}
    {call : Builder → ExceptT Error (StateM σ) Tree}
    (done : (Statement.replaceNodes statement kind predicate call firstOnly).run.run first =
      (.ok result, last)) :
    ∃ record, result = Statement.ofQuery ((Statement.toQuery statement).withRecord record) := by
  rw [Statement.replaceNodes, bind_pure_comp] at done
  rcases Returns.exists_of_map ⟨first, last, done⟩ with ⟨record, -, same⟩
  exact ⟨record, same⟩

/-- An update keeps the variant and writes to the record. -/
theorem Updated.exists_withRecord {before after : Builder} (updated : Updated before after) :
    ∃ record, after = before.withRecord record := by
  rcases updated.changedIn with ⟨kind, beforeVariant, afterVariant, writes, -, written⟩
  refine ⟨before.toQuery.record.writeAll writes, ?_⟩
  rw [withRecord, ← written, beforeVariant, ← afterVariant, ofStatement_toQuery]

/-- The step: an operation on the record leaves the rest of a builder that fits as it is. -/
theorem Changed.exists_withRecord {before after : Builder} (changed : Changed before after)
    (fits : before.Fits) : ∃ record, after = before.withRecord record := by
  cases changed with
  | update updated => exact updated.exists_withRecord
  | combine select operation all other => exact ⟨_, rfl⟩
  | merge view statement pairs => exact ⟨_, view.build_withRecord fits _⟩
  | replace view kind predicate firstOnly call done =>
      rcases exists_record_of_replaceNodes done with ⟨record, rfl⟩
      exact ⟨record, view.build_withRecord fits record⟩

theorem Bound.eq_ofStatement {before after : Builder} {parser : Parser}
    (bound : Bound parser before after) (fits : before.Fits) :
    after = ofStatement { before.toQuery with parser := some parser } before.statement? := by
  cases bound with
  | bind view statement =>
      rw [view.toQuery_build]
      exact view.build_ofQuery fits _ rfl

theorem View.parser?_build {β : Type} [inst : Statement β] {build : β → Builder}
    (view : View β inst build) (statement : β) :
    Statement.parser? (build statement) = Statement.parser? statement :=
  congrArg Query.parser (view.toQuery_build statement)

/-- A search makes what it gives back from the kind that it looks for and the parser at hand. -/
theorem Found.exists_ofRecord {builder found : Builder} {kind : String}
    {predicate : Option Predicate} (search : Found kind predicate builder found) :
    ∃ record, found = ofRecord kind record (Statement.parser? builder) := by
  cases search with
  | first view first =>
      rcases Option.map_eq_some_iff.mp first with ⟨position, reported, rfl⟩
      rw [Tree.find?_eq] at reported
      have selected := List.find?_some reported
      refine ⟨position.record, ?_⟩
      rw [view.parser?_build, Statement.detach, Position.kind_eq_of_matches selected]
  | every view mem =>
      rcases List.mem_map.mp mem with ⟨position, listed, rfl⟩
      have selected := (List.mem_filter.mp listed).2
      refine ⟨position.record, ?_⟩
      rw [view.parser?_build, Statement.detach, Position.kind_eq_of_matches selected]

/-! ## Any number of operations -/

/--
The run: the variant of every builder is the one that its kind asks for. What a search finds fits on
its own account, not because the searched builder does.
-/
theorem Obtained.fits {builder : Builder} (obtained : builder.Obtained) : builder.Fits := by
  induction obtained with
  | started reached => exact reached.fits
  | wrapped tree parser => exact fits_ofTree tree parser
  | created kind record parser => exact fits_ofQuery _
  | @parsed parser source builder parsed =>
      unfold parse at parsed
      split at parsed
      · cases parsed
        exact fits_ofTree _ _
      · cases parsed
  | @parsedStatement parser source builder parsed =>
      cases answer : parser.parse source with
      | error error =>
          rw [parseStatement, answer] at parsed
          cases parsed
      | ok tree =>
          rcases parseStatement_of_ok answer with ⟨statement, -, made⟩ | ⟨-, refused⟩
          · cases parsed.symm.trans made
            exact fits_ofTree _ _
          · cases parsed.symm.trans refused
  | changed _ changed ih =>
      rcases changed.exists_withRecord ih with ⟨record, rfl⟩
      exact ih.ofStatement rfl
  | bound _ bound ih =>
      rw [bound.eq_ofStatement ih]
      exact ih.ofStatement rfl
  | found _ search _ =>
      rcases search.exists_ofRecord with ⟨record, rfl⟩
      exact fits_ofQuery _

/--
However a builder has been obtained, its variant is the one that its kind asks for, and that of a
plain query if there is no kind or an unknown one. An operation on its record keeps its kind, its
variant and its parser. Binding it to a parser changes nothing but the parser. What a search of it
gives back has the kind that was looked for and the parser of the builder.
-/
theorem kind_and_parser_inherited {builder : Builder} (obtained : builder.Obtained) :
    builder.statement? = (Statement.kind? builder).bind StatementKind.ofName? ∧
    (∀ after, Changed builder after →
      Statement.kind? after = Statement.kind? builder ∧
        after.statement? = builder.statement? ∧
        Statement.parser? after = Statement.parser? builder) ∧
    (∀ parser after, Bound parser builder after →
      Statement.parser? after = some parser ∧
        Statement.kind? after = Statement.kind? builder ∧
        after.statement? = builder.statement? ∧
        Statement.record after = Statement.record builder) ∧
    ∀ kind predicate found, Found kind predicate builder found →
      Statement.kind? found = some kind ∧
        Statement.parser? found = Statement.parser? builder := by
  have fits := obtained.fits
  refine ⟨fits, ?_, ?_, ?_⟩
  · intro after changed
    rcases changed.exists_withRecord fits with ⟨record, rfl⟩
    exact ⟨kind?_ofStatement _ _, statement?_ofStatement _ _, parser?_ofStatement _ _⟩
  · intro parser after bound
    rw [bound.eq_ofStatement fits]
    exact ⟨parser?_ofStatement _ _, kind?_ofStatement _ _, statement?_ofStatement _ _,
      record_ofStatement _ _⟩
  · intro kind predicate found search
    rcases search.exists_ofRecord with ⟨record, rfl⟩
    exact ⟨kind?_ofStatement _ _, parser?_ofStatement _ _⟩

/-- A query over all that a text parses to. -/
def activeUsers : Builder := ofTree Recorded.activeFilter (some Recorded.parser)

theorem activeUsers_obtained : activeUsers.Obtained := by
  have parsed : Recorded.parser.parse "SELECT id FROM users WHERE active = true" =
      .ok Recorded.activeFilter := rfl
  exact .parsed (parse_of_ok parsed)

/-- The statement that is found in the query, and what becomes of it when fields are merged in. -/
theorem statement_of_activeUsers_inherits :
    activeUsers.statement? = none ∧
      ∃ found, Found "SelectStmt" none activeUsers found ∧ found.statement? = some .select ∧
        let limited := Statement.merge found [("limitCount", Node.intConstant 10)]
        limited.statement? = some .select ∧
          Statement.kind? limited = some "SelectStmt" ∧
          Statement.parser? limited = some Recorded.parser := by
  have present : (Statement.find? activeUsers "SelectStmt" none).isSome = true := by
    rw [Statement.find?, Option.isSome_map]
    decide +kernel
  rcases Option.isSome_iff_exists.mp present with ⟨found, first⟩
  have search : Found "SelectStmt" none activeUsers found := .first .builder first
  rcases kind_and_parser_inherited activeUsers_obtained with ⟨variant, -, -, searched⟩
  rcases searched _ _ found search with ⟨kind, parser⟩
  rcases kind_and_parser_inherited (activeUsers_obtained.found search) with ⟨asked, kept, -⟩
  rw [kind] at asked
  rcases kept _ (.merge .builder found [("limitCount", Node.intConstant 10)]) with
    ⟨sameKind, sameVariant, sameParser⟩
  exact ⟨variant, found, search, asked, sameVariant.trans asked, sameKind.trans kind,
    sameParser.trans parser⟩

end Builder

end SqlTree

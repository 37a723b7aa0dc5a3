import SqlTree.Proofs.Statement.Compound

/-!
# Printed set operations

A set operation is printed as its two arms with key words between them. There are no parentheses
around an arm, and what the record of the operation says about order and limits is not printed. So
the text of a query is the text of its chain, and queries with the same chain are printed alike.

In the other direction a text determines its chain. It is a list of words with blanks between them,
and the words are read from left to right: names are in lower case and key words are not, so each
clause begins with a word that nothing else can begin with. As the clauses of a plain query may be
missing, what is known about the words behind a clause is how they begin, `Begins`.
-/

namespace SqlTree

/-! ## Words -/

namespace Text

/-- The words, each with a blank in front of it. -/
def spaced : List String → String
  | [] => ""
  | word :: rest => " " ++ word ++ spaced rest

theorem spaced_append (first second : List String) :
    spaced (first ++ second) = spaced first ++ spaced second := by
  induction first with
  | nil => simp [spaced]
  | cons word rest ih => simp [spaced, ih, String.append_assoc]

theorem join_blank (word : String) (rest : List String) :
    join " " (word :: rest) = word ++ spaced rest := by
  induction rest generalizing word with
  | nil => simp [join, spaced]
  | cons next others ih => simp [join, spaced, ih, String.append_assoc]

theorem spaced_of_ne_nil {words : List String} (nonempty : words ≠ []) :
    spaced words = " " ++ join " " words := by
  cases words with
  | nil => exact absurd rfl nonempty
  | cons word rest => rw [join_blank, spaced, String.append_assoc]

end Text

open Text (spaced)

namespace Plain

/-- The names of a list, all but the last with a comma. -/
def listWords : List ColumnName → List String
  | [] => []
  | [name] => [name.val]
  | name :: next :: rest => (name.val ++ ",") :: listWords (next :: rest)

theorem listWords_ne_nil {order : List ColumnName} (nonempty : order ≠ []) :
    listWords order ≠ [] := by
  rcases order with _ | ⟨name, _ | ⟨next, rest⟩⟩
  · exact absurd rfl nonempty
  · simp [listWords]
  · simp [listWords]

def orderWords (order : List ColumnName) : List String :=
  if order = [] then [] else "ORDER" :: "BY" :: listWords order

def countWord (count : RowCount) : String := toString (count.val : Int)

def countWords (keyword : String) (count : Option RowCount) : List String :=
  count.elim [] fun count => [keyword, countWord count]

/-- The words behind SELECT. -/
def tail (plain : Plain) : List String :=
  plain.column.val :: "FROM" :: plain.table.val :: (orderWords plain.order ++
    (countWords "LIMIT" plain.limit ++ countWords "OFFSET" plain.offset))

end Plain

namespace Link

def keyword (link : Link) : String :=
  match link.operation with
  | .union => "UNION"
  | .except => "EXCEPT"
  | .intersect => "INTERSECT"

def words (link : Link) : List String := link.keyword :: if link.all then ["ALL"] else []

end Link

namespace Chain

def links (rest : List (Link × Plain)) : List String :=
  rest.flatMap fun (link, plain) => link.words ++ "SELECT" :: plain.tail

/-- The words behind the first SELECT. -/
def tail (chain : Chain) : List String := chain.first.tail ++ links chain.rest

def text (chain : Chain) : String := Text.join " " ("SELECT" :: chain.tail)

theorem tail_append (left : Chain) (link : Link) (right : Chain) :
    (left.append link right).tail = left.tail ++ (link.words ++ "SELECT" :: right.tail) := by
  simp [tail, append, links]

theorem text_append (left : Chain) (link : Link) (right : Chain) :
    (left.append link right).text = left.text ++ spaced link.words ++ " " ++ right.text := by
  have behind : spaced ("SELECT" :: right.tail) = " " ++ right.text :=
    Text.spaced_of_ne_nil (List.cons_ne_nil _ _)
  rw [text, text, tail_append, Text.join_blank, Text.join_blank, Text.spaced_append,
    Text.spaced_append, behind]
  simp only [String.append_assoc]

end Chain

/-! ## Printing -/

namespace Print

theorem sortItem_column (name : String) :
    printer.sortItem (Select.orderItem (.text name)) = .ok name := by
  have item : Select.orderItem (.text name) =
      Node.sortItem (.node (Node.column name)) .default .default := rfl
  rw [item, Printer.sortItem_eq, Node.sortItem, Tree.recordOf?, Tree.tagged?_node (by decide)]
  simp [Printer.sortRecord, required, Operand.reference, Operand.literal, Fields.get?_cons,
    expression_column, Tree.textAt?, Printer.directionText, Printer.nullsText, SortDirection.word,
    NullsOrder.word]

theorem target_column (name : String) : printer.target (Node.target (.text name)) = .ok name := by
  have item : Node.target (.text name) =
      .node "ResTarget" (.object [("val", Node.column name)]) := rfl
  rw [item, Printer.target_eq, Tree.recordOf?, Tree.tagged?_node (by decide)]
  simp [Printer.targetRecord, expression_column, Tree.textAt?, Fields.get?]

theorem commaList_order (order : List ColumnName) :
    commaList (order.map fun column : ColumnName => Select.orderItem (.text column.val))
      printer.sortItem = .ok (Text.join " " (Plain.listWords order)) := by
  change joined ", " _ _ = _
  induction order with
  | nil => rfl
  | cons name others ih =>
      cases others with
      | nil => simp [sortItem_column, Plain.listWords, Text.join]
      | cons next rest =>
          rw [List.map_cons] at ih
          rw [List.map_cons, List.map_cons, joined_cons_cons, ih, sortItem_column, Plain.listWords,
            Text.join_cons_of_ne_nil _ _ (Plain.listWords_ne_nil (List.cons_ne_nil next rest))]
          simp [String.append_assoc]

theorem listClause_order (plain : Plain) :
    listClause "ORDER BY" plain.sortItems printer.sortItem =
      .ok (spaced (Plain.orderWords plain.order)) := by
  by_cases unordered : plain.order = []
  · rw [Plain.sortItems, unordered]
    rfl
  · have items : plain.sortItems.isEmpty = false := by
      rw [Plain.sortItems, List.isEmpty_map, List.isEmpty_eq_false_iff]
      exact unordered
    rw [listClause, items, Plain.sortItems, commaList_order, Plain.orderWords, if_neg unordered,
      spaced, spaced, Text.spaced_of_ne_nil (Plain.listWords_ne_nil unordered)]
    simp [← String.append_assoc]

theorem optionalClause_count (keyword : String) (count : Option RowCount) :
    optionalClause keyword (count.map Plain.countNode) expression =
      .ok (spaced (Plain.countWords keyword count)) := by
  cases count with
  | none => rfl
  | some count =>
      have small : (count.val : Int) < 0x8000000000000000 := by
        have := count.isLt
        omega
      simp [optionalClause, Plain.countNode, expression_intConstant small, Plain.countWords, spaced,
        Plain.countWord, String.append_assoc]

/--
A plain query prints its columns, its table, and its order and its limits where it has them. None of
the other clauses is there.
-/
theorem select_of_holds {record : Tree} {plain : Plain} (holds : record.Holds plain.clause) :
    select record = .ok (Text.join " " ("SELECT" :: plain.tail)) := by
  have items (key : String) : record.itemsAt key = Query.itemsOf (plain.clause key) := by
    rw [Tree.itemsAt, holds.get?]
    rfl
  have tables : printer.withClause (record.get? "withClause") = .ok "" := by
    rw [holds.get?]
    rfl
  have body : printer.selectBody record = printer.selectClauses record := by
    simp [Printer.selectBody, Tree.textAt?, holds.get?, items, Plain.clause, Printer.setKeyword?,
      Query.itemsOf]
  have targets : printer.targetClause (record.itemsAt "targetList") =
      .ok (spaced [plain.column.val]) := by
    rw [items]
    simp [Printer.targetClause, Plain.clause, Query.itemsOf, commaList, target_column, Text.join,
      spaced]
  have source : listClause "FROM" (record.itemsAt "fromClause") source =
      .ok (spaced ["FROM", plain.table.val]) := by
    rw [items]
    simp [listClause, Plain.clause, Query.itemsOf, commaList, source_table, Text.join, spaced,
      ← String.append_assoc]
  have sorted : record.itemsAt "sortClause" = plain.sortItems := by
    rw [items]
    exact Query.itemsOf_ofItems plain.sortItems
  have limited : record.get? "limitCount" = plain.limit.map Plain.countNode := holds.get? _
  have skipped : record.get? "limitOffset" = plain.offset.map Plain.countNode := holds.get? _
  rw [select_eq, Printer.selectLevel_eq, tables, body, Printer.selectClauses_eq, targets,
    printer_source, source, sorted, listClause_order, limited, skipped, printer_expression,
    optionalClause_count, optionalClause_count]
  simp [holds.get?, items, Plain.clause, Query.itemsOf, Printer.distinctClause, optionalClause,
    listClause, Plain.tail, Text.join_blank, Text.spaced_append, spaced, String.append_assoc]

theorem select_of_combines {link : Link} {left right record : Tree} {leftText rightText : String}
    (combines : link.Combines left right record) (leftPrinted : select left = .ok leftText)
    (rightPrinted : select right = .ok rightText) :
    select record = .ok (leftText ++ spaced link.words ++ " " ++ rightText) := by
  have tables : printer.withClause (record.get? "withClause") = .ok "" := by
    rw [combines.tables]
    rfl
  have keyword : Printer.setKeyword? (record.textAt? "op") = some link.keyword := by
    rw [Tree.textAt?, combines.operation, Link.keyword]
    cases link.operation <;> rfl
  have flag : record.flagAt "all" = link.all := by
    rw [Tree.flagAt, combines.all]
    cases link.all <;> rfl
  rw [select_eq, Printer.selectLevel_eq, tables, Printer.selectBody, keyword]
  simp only [Printer.setOperation_eq, required, combines.larg, combines.rarg, flagText, flag]
  cases all : link.all <;>
    simp [leftPrinted, rightPrinted, Link.words, all, spaced, String.append_assoc]

theorem select_of_shown {chain : Chain} {record : Tree} (shown : chain.Shown record) :
    select record = .ok chain.text := by
  induction shown with
  | plain holds =>
      rw [select_of_holds holds, Chain.text, Chain.tail]
      simp [Chain.links]
  | combined combines leftShown rightShown leftPrinted rightPrinted =>
      rw [select_of_combines combines leftPrinted rightPrinted, Chain.text_append]

/-- The text of a query is the text of its chain. -/
theorem printWith_build (query : Compound) :
    Statement.printWith query.build Recorded.parser = .ok query.chain.text := by
  have printed : statement (.node "SelectStmt" query.build.query.record) =
      .ok query.chain.text := by
    rw [statement_eq, Printer.statementLevel, Tree.tagged?_node (by decide)]
    exact select_of_shown query.shown_build
  have unshelled : query.build.query.record.isShell = false := by
    rcases query.reached_build.shaped with ⟨kind, -, shaped⟩
    exact shaped.isShell_eq_false
  have kind : query.build.query.statementKind? = some "SelectStmt" := by
    rw [Query.statementKind?, query.named_build]
    rfl
  change Query.printWith query.build.query Recorded.parser = _
  rw [Query.printWith, unshelled, kind]
  change (shell (.shell [.node "SelectStmt" query.build.query.record])).mapError Error.print = _
  rw [shell_singleton, printed]
  rfl

end Print

/-! ## Reading -/

/-- The words, if there are any, begin with one of these. -/
def Begins (starts words : List String) : Prop := ∀ word ∈ words.head?, word ∈ starts

theorem Begins.ne_cons {starts words : List String} (begins : Begins starts words) {word : String}
    (other : word ∉ starts) (rest : List String) : words ≠ word :: rest := by
  rintro rfl
  exact other (begins word rfl)

namespace Plain

open Print

theorem countWord_injective {left right : RowCount} (same : countWord left = countWord right) :
    left = right := by
  have counts := Text.toString_int_injective (congrArg String.toList same)
  exact Fin.ext (Int.ofNat.inj counts)

theorem begins_countWords {starts rest : List String} (begins : Begins starts rest)
    (keyword : String) (count : Option RowCount) :
    Begins (keyword :: starts) (countWords keyword count ++ rest) := by
  cases count with
  | none => exact fun word mem => List.mem_cons_of_mem keyword (begins word mem)
  | some count => simp [Begins, countWords]

/-- A clause that may be missing is told by its key word. -/
theorem countWords_inj {starts leftRest rightRest : List String} {keyword : String}
    (other : keyword ∉ starts) (leftBegins : Begins starts leftRest)
    (rightBegins : Begins starts rightRest) {left right : Option RowCount}
    (same : countWords keyword left ++ leftRest = countWords keyword right ++ rightRest) :
    left = right ∧ leftRest = rightRest := by
  cases left with
  | none =>
      cases right with
      | none => exact ⟨rfl, same⟩
      | some count => exact absurd same (leftBegins.ne_cons other _)
  | some count =>
      cases right with
      | none => exact absurd same.symm (rightBegins.ne_cons other _)
      | some count =>
          simp only [countWords, Option.elim_some, List.cons_append, List.nil_append,
            List.cons.injEq, true_and] at same
          exact ⟨congrArg some (countWord_injective same.1), same.2⟩

theorem not_mem_of_isColumnName {name : String} (named : isColumnName name = true)
    {character : Char} (invalid : isColumnCharacter character = false) :
    character ∉ name.toList := by
  intro mem
  rw [(isColumnName_iff.mp named).2 character mem] at invalid
  cases invalid

theorem blank_not_mem_name (name : ColumnName) : ' ' ∉ name.val.toList :=
  not_mem_of_isColumnName name.property (by decide)

theorem blank_not_mem_listWords (order : List ColumnName) :
    ∀ word ∈ listWords order, ' ' ∉ word.toList := by
  induction order with
  | nil => simp [listWords]
  | cons name others ih =>
      have first := blank_not_mem_name name
      cases others with
      | nil => simpa [listWords] using first
      | cons next rest =>
          rw [listWords, List.forall_mem_cons]
          exact ⟨by simpa using first, ih⟩

theorem blank_not_mem_countWords {keyword : String} (solid : ' ' ∉ keyword.toList)
    (count : Option RowCount) : ∀ word ∈ countWords keyword count, ' ' ∉ word.toList := by
  cases count with
  | none => simp [countWords]
  | some count =>
      have digits : ' ' ∉ (countWord count).toList := by
        intro mem
        exact absurd (Text.isIntegerCharacter_of_mem mem) (by decide)
      simpa [countWords] using ⟨solid, digits⟩

/-- No word of a plain query has a blank in it. -/
theorem blank_not_mem_tail (plain : Plain) : ∀ word ∈ plain.tail, ' ' ∉ word.toList := by
  have order : ∀ word ∈ orderWords plain.order, ' ' ∉ word.toList := by
    unfold orderWords
    split
    · simp
    · rw [List.forall_mem_cons, List.forall_mem_cons]
      exact ⟨by decide, by decide, blank_not_mem_listWords plain.order⟩
  simp only [tail, List.forall_mem_cons, List.forall_mem_append]
  exact ⟨blank_not_mem_name _, by decide, blank_not_mem_name _, order,
    blank_not_mem_countWords (by decide) _, blank_not_mem_countWords (by decide) _⟩

/-- A comma tells that a list goes on. -/
theorem listWords_inj {left right : List ColumnName} {leftRest rightRest : List String}
    (leftSome : left ≠ []) (rightSome : right ≠ [])
    (same : listWords left ++ leftRest = listWords right ++ rightRest) :
    left = right ∧ leftRest = rightRest := by
  have comma (name other : ColumnName) : name.val ≠ other.val ++ "," := by
    intro equal
    apply not_mem_of_isColumnName name.property (show isColumnCharacter ',' = false by decide)
    simp [equal]
  induction left generalizing right with
  | nil => exact absurd rfl leftSome
  | cons name others ih =>
      rcases right with _ | ⟨otherName, otherOthers⟩
      · exact absurd rfl rightSome
      · rcases others with _ | ⟨next, rest⟩ <;> rcases otherOthers with _ | ⟨otherNext, otherRest⟩
        · simp only [listWords, List.cons_append, List.nil_append, List.cons.injEq] at same
          exact ⟨congrArg ([·]) (Subtype.ext same.1), same.2⟩
        · exact absurd (List.cons.inj same).1 (comma name otherName)
        · exact absurd (List.cons.inj same).1.symm (comma otherName name)
        · rcases List.cons.inj same with ⟨names, behind⟩
          have equal : name = otherName := by
            apply Subtype.ext
            simpa using names
          rcases ih (List.cons_ne_nil _ _) (List.cons_ne_nil _ _) behind with ⟨lists, rests⟩
          exact ⟨by rw [equal, lists], rests⟩

theorem orderWords_inj {starts leftRest rightRest : List String} (other : "ORDER" ∉ starts)
    (leftBegins : Begins starts leftRest) (rightBegins : Begins starts rightRest)
    {left right : List ColumnName}
    (same : orderWords left ++ leftRest = orderWords right ++ rightRest) :
    left = right ∧ leftRest = rightRest := by
  unfold orderWords at same
  split at same <;> split at same
  · next leftNone rightNone => exact ⟨leftNone.trans rightNone.symm, same⟩
  · exact absurd same (leftBegins.ne_cons other _)
  · exact absurd same.symm (rightBegins.ne_cons other _)
  · next leftSome rightSome =>
    simp only [List.cons_append, List.cons.injEq, true_and] at same
    exact listWords_inj leftSome rightSome same

/-- What may stand behind a plain query. -/
def linkStarts : List String := ["UNION", "EXCEPT", "INTERSECT"]

theorem tail_inj {left right : Plain} {leftRest rightRest : List String}
    (leftBegins : Begins linkStarts leftRest) (rightBegins : Begins linkStarts rightRest)
    (same : left.tail ++ leftRest = right.tail ++ rightRest) :
    left = right ∧ leftRest = rightRest := by
  rcases left with ⟨column, table, order, limit, offset⟩
  rcases right with ⟨otherColumn, otherTable, otherOrder, otherLimit, otherOffset⟩
  simp only [tail, List.cons_append, List.append_assoc, List.cons.injEq, true_and] at same
  rcases same with ⟨columns, tables, clauses⟩
  have leftOffset := begins_countWords leftBegins "OFFSET" offset
  have rightOffset := begins_countWords rightBegins "OFFSET" otherOffset
  rcases orderWords_inj (by decide) (begins_countWords leftOffset "LIMIT" limit)
    (begins_countWords rightOffset "LIMIT" otherLimit) clauses with ⟨rfl, limits⟩
  rcases countWords_inj (by decide) leftOffset rightOffset limits with ⟨rfl, offsets⟩
  rcases countWords_inj (by decide) leftBegins rightBegins offsets with ⟨rfl, rests⟩
  obtain rfl := Subtype.ext columns
  obtain rfl := Subtype.ext tables
  exact ⟨rfl, rests⟩

end Plain

namespace Chain

theorem begins_links (rest : List (Link × Plain)) : Begins Plain.linkStarts (links rest) := by
  rcases rest with _ | ⟨⟨⟨operation, all⟩, plain⟩, others⟩
  · simp [Begins, links]
  · cases operation <;> simp [Begins, links, Link.words, Link.keyword, Plain.linkStarts]

theorem linkWords_inj {left right : Link} {leftRest rightRest : List String}
    (same : left.words ++ "SELECT" :: leftRest = right.words ++ "SELECT" :: rightRest) :
    left = right ∧ leftRest = rightRest := by
  rcases left with ⟨operation, all⟩
  rcases right with ⟨otherOperation, otherAll⟩
  cases operation <;> cases otherOperation <;> cases all <;> cases otherAll <;>
    simp_all [Link.words, Link.keyword]

theorem links_injective {left right : List (Link × Plain)} (same : links left = links right) :
    left = right := by
  induction left generalizing right with
  | nil =>
      cases right with
      | nil => rfl
      | cons => simp [links, Link.words] at same
  | cons first rest ih =>
      rcases right with _ | ⟨other, others⟩
      · simp [links, Link.words] at same
      · have split (link : Link × Plain) (more : List (Link × Plain)) :
            links (link :: more) = link.1.words ++ "SELECT" :: (link.2.tail ++ links more) := by
          simp [links]
        rw [split, split] at same
        rcases linkWords_inj same with ⟨sameLink, behind⟩
        rcases Plain.tail_inj (begins_links rest) (begins_links others) behind with
          ⟨samePlain, rests⟩
        rw [Prod.ext sameLink samePlain, ih rests]

theorem blank_not_mem_tail (chain : Chain) : ∀ word ∈ chain.tail, ' ' ∉ word.toList := by
  have linkWords (link : Link) : ∀ word ∈ link.words, ' ' ∉ word.toList := by
    rcases link with ⟨operation, all⟩
    cases operation <;> cases all <;> decide
  rw [tail, List.forall_mem_append]
  refine ⟨chain.first.blank_not_mem_tail, ?_⟩
  intro word mem
  rcases List.mem_flatMap.mp mem with ⟨⟨link, plain⟩, _, inside⟩
  rcases List.mem_append.mp inside with inLink | inPlain
  · exact linkWords link word inLink
  · rcases List.mem_cons.mp inPlain with rfl | inTail
    · decide
    · exact plain.blank_not_mem_tail word inTail

/-- A text is read in one way only: its words are told by its blanks, and its arms by its words. -/
theorem text_injective {left right : Chain} (same : left.text = right.text) : left = right := by
  have words (chain : Chain) : Text.split ' ' chain.text = "SELECT" :: chain.tail := by
    apply Text.split_join (List.cons_ne_nil _ _)
    rw [List.forall_mem_cons]
    exact ⟨by decide, chain.blank_not_mem_tail⟩
  have tails : left.tail = right.tail := by
    apply List.tail_eq_of_cons_eq
    rw [← words left, same, words right]
  rcases Plain.tail_inj (begins_links left.rest) (begins_links right.rest) tails with
    ⟨firsts, rests⟩
  rcases left with ⟨first, rest⟩
  exact congrArg₂ Chain.mk firsts (links_injective rests)

end Chain

namespace Print

/--
The text of a query is that of its chain, and two queries are printed alike exactly if they have the
same chain. So neither the grouping of set operations nor the clauses behind one can be read off the
text. If set operations are grouped to the left and no clause stands behind one, then nothing is
lost: queries that are printed alike have the same record up to the order of fields.
-/
theorem printed_query_determines_chain (left right : Compound) :
    let print (query : Compound) := Statement.printWith query.build Recorded.parser
    print left = .ok left.chain.text ∧ print right = .ok right.chain.text ∧
      (print left = print right ↔ left.chain = right.chain) ∧
      (left.isBare = true → right.isBare = true → print left = print right →
        left.build.query.record.SameUpToOrder right.build.query.record) := by
  intro print
  have leftPrinted : print left = .ok left.chain.text := printWith_build left
  have rightPrinted : print right = .ok right.chain.text := printWith_build right
  have alike : print left = print right ↔ left.chain = right.chain := by
    rw [leftPrinted, rightPrinted, Except.ok.injEq]
    exact ⟨Chain.text_injective, congrArg Chain.text⟩
  refine ⟨leftPrinted, rightPrinted, alike, ?_⟩
  intro leftBare rightBare same
  exact Compound.sameUpToOrder_of_isBare leftBare rightBare (alike.mp same)

def identifiersIn (table : ColumnName) : Compound := .single ⟨"id", by decide⟩ table

def orderQuery : Compound := identifiersIn ⟨"orders", by decide⟩

def archiveQuery : Compound := identifiersIn ⟨"archive", by decide⟩

def exportQuery : Compound := identifiersIn ⟨"exports", by decide⟩

/-- The same clauses in another order, on the first arm of a union. -/
theorem clauses_of_arm_survive :
    let first := orderQuery.ordered ⟨"id", by decide⟩ |>.limited ⟨1, by decide⟩
    let second := orderQuery.limited ⟨1, by decide⟩ |>.ordered ⟨"id", by decide⟩
    let left := Compound.combined ⟨.union, true⟩ first archiveQuery
    let right := Compound.combined ⟨.union, true⟩ second archiveQuery
    left.build.query.record ≠ right.build.query.record ∧
      left.build.query.record.SameUpToOrder right.build.query.record := by
  intro first second left right
  rcases printed_query_determines_chain left right with ⟨-, -, alike, survives⟩
  exact ⟨by decide +kernel, survives rfl rfl (alike.mpr rfl)⟩

/-- A limit behind a union is not printed, and neither is the grouping of two differences. -/
theorem clauses_and_grouping_lost :
    let print (query : Compound) := Statement.printWith query.build Recorded.parser
    let union := Compound.combined ⟨.union, false⟩ orderQuery archiveQuery
    let limited := union.limited ⟨1, by decide⟩
    let except (left right : Compound) := Compound.combined ⟨.except, false⟩ left right
    let leftward := except (except orderQuery archiveQuery) exportQuery
    let rightward := except orderQuery (except archiveQuery exportQuery)
    (print union = print limited ∧
      ¬union.build.query.record.SameUpToOrder limited.build.query.record) ∧
    (print rightward = print leftward ∧
      ¬rightward.build.query.record.SameUpToOrder leftward.build.query.record) := by
  intro print union limited except leftward rightward
  have alike {left right : Compound} (same : left.chain = right.chain) :
      print left = print right := by
    rw [show print left = _ from printWith_build left, same]
    exact (printWith_build right).symm
  refine ⟨⟨alike rfl, ?_⟩, ⟨alike rfl, ?_⟩⟩
  · intro same
    have counts : Option.Rel Tree.SameUpToOrder none (some _) :=
      same.rel_get? (by decide +kernel) "limitCount"
    cases counts
  · intro same
    have arms : Option.Rel Tree.SameUpToOrder (some orderQuery.build.query.record)
        (some (except orderQuery archiveQuery).build.query.record) :=
      same.rel_get? (by decide +kernel) "larg"
    cases arms with
    | some arm =>
        have inner : Option.Rel Tree.SameUpToOrder none (some orderQuery.build.query.record) :=
          arm.rel_get? (by decide +kernel) "larg"
        cases inner

end Print

end SqlTree

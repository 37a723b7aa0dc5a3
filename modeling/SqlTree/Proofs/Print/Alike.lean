import Mathlib.Data.List.Forall2
import SqlTree.Proofs.Print.Fixpoint
import SqlTree.Proofs.Tree.Rearrangement
import SqlTree.Recorded
import SqlTree.Statement.Query

/-!
# Trees that are printed alike

A printer asks for the kind of a node, for fields by their names, for the items of a list, and for
texts, flags and integers. It never asks where in an object a field stands, how many fields there
are, or for a source location. `Tree.Alike` relates two trees that answer all these questions in the
same way, down to their parts. Trees that are alike are a family in the sense of
`SqlTree.Proofs.Print.Comparison`, so they are printed alike: the same text, or the same fault.
-/

namespace SqlTree

/-- Trees that look the same to who reads fields by their names and asks for no location. -/
inductive Tree.Alike : Tree → Tree → Prop
  | refl (tree : Tree) : Alike tree tree
  | number {left right : Number}
      (same : (Tree.number left).int? = (Tree.number right).int?) :
      Alike (.number left) (.number right)
  | list {lefts rights : List Tree} (items : List.Forall₂ Alike lefts rights) :
      Alike (.list lefts) (.list rights)
  | object {lefts rights : List (String × Tree)}
      (kind : (object lefts).kind? = (object rights).kind?)
      (fields : ∀ key, key ≠ "location" →
        Option.Rel Alike (Fields.get? key lefts) (Fields.get? key rights)) :
      Alike (.object lefts) (.object rights)

namespace Tree.Alike

theorem option_refl (option : Option Tree) : Option.Rel Alike option option := by
  cases option with
  | none => exact .none
  | some tree => exact .some (.refl tree)

theorem items_refl (items : List Tree) : List.Forall₂ Alike items items :=
  List.forall₂_same.mpr fun item _ => .refl item

/-- Objects with the same fields in another order are alike. -/
theorem of_perm {lefts rights : List (String × Tree)} (order : lefts.Perm rights)
    (same : ∀ key, Fields.get? key lefts = Fields.get? key rights) :
    Alike (.object lefts) (.object rights) := by
  refine .object ?_ ?_
  · rw [kind?, kind?, tagged?_of_perm order]
  · intro key _
    rw [same key]
    exact option_refl _

/-- Two runs of writes that are the same name by name lead to trees that are alike. -/
theorem writeAll (tree : Tree) {first second : List (String × Option Tree)}
    (same : ∀ key, writesTo key first = writesTo key second) :
    Alike (tree.writeAll first) (tree.writeAll second) := by
  have values (key : String) :
      Fields.valuesOf key (tree.writeAll first).fields =
        Fields.valuesOf key (tree.writeAll second).fields := by
    rw [valuesOf_writeAll, valuesOf_writeAll, same]
  have objects : (tree.writeAll first).isObject = (tree.writeAll second).isObject := by
    rw [isObject_writeAll, isObject_writeAll, Bool.eq_iff_iff]
    simp only [Bool.or_eq_true, List.any_eq_true, mem_iff_of_writesTo same]
  cases object : (tree.writeAll first).isObject with
  | true =>
      rcases exists_object object with ⟨lefts, leftFields⟩
      rcases exists_object (objects ▸ object) with ⟨rights, rightFields⟩
      rw [leftFields, rightFields] at values ⊢
      refine of_perm (Fields.perm_of_valuesOf values) fun key => ?_
      rw [Fields.get?_eq_head?_valuesOf, Fields.get?_eq_head?_valuesOf]
      exact congrArg List.head? (values key)
  | false =>
      rw [writeAll_of_not_isObject object, writeAll_of_not_isObject (objects ▸ object)]
      exact .refl tree

/-! ## What is read from them -/

variable {left right : Tree}

theorem get? (alike : Alike left right) (key : String) (read : key ≠ "location") :
    Option.Rel Alike (left.get? key) (right.get? key) := by
  cases alike with
  | refl => exact option_refl _
  | number | list => exact .none
  | object _ fields => exact fields key read

theorem kind? (alike : Alike left right) : left.kind? = right.kind? := by
  cases alike with
  | refl | number | list => rfl
  | object kind _ => exact kind

theorem items (alike : Alike left right) : List.Forall₂ Alike left.items right.items := by
  cases alike with
  | refl => exact items_refl _
  | number | object => exact .nil
  | list items => exact items

theorem text? (alike : Alike left right) : left.text? = right.text? := by
  cases alike <;> rfl

theorem bool? (alike : Alike left right) : left.bool? = right.bool? := by
  cases alike <;> rfl

theorem int? (alike : Alike left right) : left.int? = right.int? := by
  cases alike with
  | refl | list | object => rfl
  | number same => exact same

theorem list? (alike : Alike left right) : left.list?.isSome = right.list?.isSome := by
  cases alike <;> rfl

theorem ne_location_of_isKindName {kind : String} (named : isKindName kind = true) :
    kind ≠ "location" := by
  rintro rfl
  exact absurd named (by decide)

/-- Both are nodes of one kind with records that are alike, or neither is a node. -/
theorem tagged? (alike : Alike left right) :
    (left.tagged? = none ∧ right.tagged? = none) ∨
      ∃ kind record other, left.tagged? = some (kind, record) ∧
        right.tagged? = some (kind, other) ∧ Alike record other := by
  have kinds := alike.kind?
  rcases leftTagged : left.tagged? with _ | ⟨kind, record⟩ <;>
    rcases rightTagged : right.tagged? with _ | ⟨otherKind, other⟩ <;>
      simp only [Tree.kind?, leftTagged, rightTagged, Option.map_none, Option.map_some,
        reduceCtorEq, Option.some.injEq] at kinds
  · exact .inl ⟨rfl, rfl⟩
  · subst kinds
    rcases tagged?_eq_some_iff.mp leftTagged with ⟨named, rfl⟩
    rcases tagged?_eq_some_iff.mp rightTagged with ⟨-, rfl⟩
    have records := alike.get? kind (ne_location_of_isKindName named)
    simp only [Tree.get?, node, fields, Fields.get?, if_true] at records
    cases records with
    | some alike => exact .inr ⟨kind, record, other, rfl, rfl, alike⟩

theorem record? (alike : Alike left right) : Option.Rel Alike left.record? right.record? := by
  unfold Tree.record?
  rcases alike.tagged? with
    ⟨leftNone, rightNone⟩ | ⟨kind, record, other, leftTagged, rightTagged, records⟩
  · rw [leftNone, rightNone]
    exact .none
  · rw [leftTagged, rightTagged]
    exact .some records

theorem bind_eq {α : Type} {lefts rights : Option Tree} (parts : Option.Rel Alike lefts rights)
    {view : Tree → Option α} (same : ∀ {left right}, Alike left right → view left = view right) :
    lefts.bind view = rights.bind view := by
  cases parts with
  | none => rfl
  | some alike => exact same alike

theorem textAt? (alike : Alike left right) (key : String) (read : key ≠ "location") :
    left.textAt? key = right.textAt? key :=
  bind_eq (alike.get? key read) text?

theorem nameText? (alike : Alike left right) : Node.nameText? left = Node.nameText? right :=
  bind_eq alike.record? fun records => records.textAt? _ (by decide)

theorem node (kind : String) (alike : Alike left right) :
    Alike (.node kind left) (.node kind right) := by
  refine .object ?_ ?_
  · unfold Tree.kind? Tree.tagged?
    dsimp only
    split <;> rfl
  · intro key _
    simp only [Fields.get?]
    split
    · exact .some alike
    · exact .none

theorem shell (alike : Alike left right) : Alike (.shell [left]) (.shell [right]) := by
  have entry : Alike (.object [("stmt", left)]) (.object [("stmt", right)]) := alike.node "stmt"
  refine .object rfl ?_
  intro key _
  simp only [Fields.get?]
  split
  · exact .some (.refl _)
  · split
    · exact .some (.list (.cons entry .nil))
    · exact .none

end Tree.Alike

namespace Print

open SqlTree.Tree (Alike)

/-! ## A family of two -/

/-- Two trees that are alike, as a family. No place in them is loose. -/
def AlikePair (loose : Bool) (tree : Bool → Tree) : Prop :=
  loose = false ∧ Alike (tree true) (tree false)

theorem same_pair {α : Type} {family : Bool → α} (same : family true = family false) :
    Same family :=
  ⟨family false, fun index => by cases index <;> simp [same]⟩

theorem eq_pair {α : Type} (family : Bool → α) :
    family = fun index => cond index (family true) (family false) := by
  funext index
  cases index <;> rfl

theorem alikePair_cond {left right : Tree} (alike : Alike left right) :
    AlikePair false fun index => cond index left right :=
  ⟨rfl, alike⟩

theorem partOption_of_rel {option : Bool → Option Tree}
    (fields : Option.Rel Alike (option true) (option false)) :
    PartOption AlikePair false option := by
  have opened {left right : Option Tree} (fields : Option.Rel Alike left right) :
      PartOption AlikePair false fun index => cond index left right := by
    cases fields with
    | none =>
        convert PartOption.none using 2 with index
        cases index <;> rfl
    | some alike =>
        convert PartOption.some (alikePair_cond alike) using 2 with index
        cases index <;> rfl
  rw [eq_pair option]
  exact opened fields

theorem partItems_of_forall₂ {items : Bool → List Tree}
    (parts : List.Forall₂ Alike (items true) (items false)) :
    PartItems AlikePair false items := by
  have opened {lefts rights : List Tree} (parts : List.Forall₂ Alike lefts rights) :
      PartItems AlikePair false fun index => cond index lefts rights := by
    induction parts with
    | nil =>
        convert PartItems.nil false using 2 with index
        cases index <;> rfl
    | cons alike others ih =>
        convert PartItems.first (alikePair_cond alike) ih using 2 with index
        cases index <;> rfl
  rw [eq_pair items]
  exact opened parts

theorem partNode_of_alike {tree : Bool → Tree} (alike : Alike (tree true) (tree false)) :
    PartNode AlikePair false fun index => (tree index).tagged? := by
  rw [eq_pair fun index => (tree index).tagged?]
  rcases alike.tagged? with ⟨left, right⟩ | ⟨kind, record, other, left, right, records⟩
  · rw [left, right]
    convert PartNode.none using 2 with index
    cases index <;> rfl
  · rw [left, right]
    convert PartNode.some kind (alikePair_cond records) using 2 with index
    cases index <;> rfl

theorem ne_location_of_isRead {key : String} (read : isRead key = true) : key ≠ "location" := by
  rintro rfl
  exact absurd read (by decide)

theorem AlikePair.shows {loose : Bool} {tree : Bool → Tree} (pair : AlikePair loose tree) :
    Shows AlikePair loose tree := by
  rcases pair with ⟨rfl, alike⟩
  exact
    { node := partNode_of_alike alike
      record := ⟨none, fun _ => rfl, fun key read =>
        partOption_of_rel (alike.get? key (ne_location_of_isRead read))⟩
      items := partItems_of_forall₂ alike.items
      text := same_pair alike.text?
      flag := same_pair alike.bool?
      int := same_pair alike.int? }

theorem textLiteral_of_alike {left right : Tree} (alike : Alike left right) :
    textLiteral left = textLiteral right := by
  have fields := alike.get? "sval" (by decide)
  unfold textLiteral
  generalize left.get? "sval" = leftField at fields
  generalize right.get? "sval" = rightField at fields
  cases fields with
  | none => rfl
  | some alike => simp only [textOrEmpty, alike.textAt? "sval" (by decide)]

theorem AlikePair.literal : Handles AlikePair Same fun _ => textLiteral := by
  rintro loose tree ⟨rfl, alike⟩
  exact same_pair (textLiteral_of_alike alike)

def alikeFamilies : Families Bool :=
  .strict AlikePair AlikePair.shows (fun pair => same_pair pair.2.nameText?) AlikePair.literal

/-! ## Printing -/

variable {left right : Tree}

theorem part_of_alike (alike : Alike left right) :
    alikeFamilies.Part false fun index => cond index left right :=
  alikePair_cond alike

theorem statement_of_alike (alike : Alike left right) : statement left = statement right := by
  let levels := max left.depth right.depth + 1
  have enough := agree_printer levels
  have printed : Same fun index => (Printer.ofLevels levels).statement (cond index left right) :=
    Comparison.handles_statement alikeFamilies levels (part_of_alike alike)
  have leftPrinted : (Printer.ofLevels levels).statement left = statement left :=
    enough.statement left (by omega)
  have rightPrinted : (Printer.ofLevels levels).statement right = statement right :=
    enough.statement right (by omega)
  rw [← leftPrinted, ← rightPrinted]
  exact printed.eq true false

theorem expression_of_alike (alike : Alike left right) : expression left = expression right := by
  let levels := max left.depth right.depth + 1
  have enough := agree_printer levels
  have printed : Same fun index => (Printer.ofLevels levels).expression (cond index left right) :=
    Comparison.handles_expression alikeFamilies levels (part_of_alike alike)
  have leftPrinted : (Printer.ofLevels levels).expression left = expression left :=
    enough.expression left (by omega)
  have rightPrinted : (Printer.ofLevels levels).expression right = expression right :=
    enough.expression right (by omega)
  rw [← leftPrinted, ← rightPrinted]
  exact printed.eq true false

/-- Shells that are alike are printed alike. -/
theorem shell_of_alike (alike : Alike left right) : shell left = shell right := by
  have handled : Handles alikeFamilies.Part alikeFamilies.Loose fun _ => statement := by
    rintro loose tree ⟨rfl, alike⟩
    exact same_pair (statement_of_alike alike)
  have printed := Comparison.handles_shell alikeFamilies handled (part_of_alike alike)
  exact printed.eq true false

end Print

theorem Recorded.print_of_alike {left right : Tree} (alike : left.Alike right) :
    parser.print left = parser.print right :=
  Print.shell_of_alike alike

theorem Recorded.printNode_of_alike {left right : Tree} (alike : left.Alike right) :
    parser.printNode left = parser.printNode right :=
  Print.expression_of_alike alike

/-! ## Printing queries -/

theorem StatementKind.detect?_of_alike {left right : Tree} (alike : left.Alike right) :
    detect? left = detect? right := by
  cases alike with
  | refl | number | list => rfl
  | @object lefts rights _ fields =>
      have contains (key : String) (read : key ≠ "location") :
          Fields.contains key lefts = Fields.contains key rights := by
        have parts := fields key read
        unfold Fields.contains
        generalize Fields.get? key lefts = leftPart at parts
        generalize Fields.get? key rights = rightPart at parts
        cases parts <;> rfl
      simp (disch := decide) only [detect?, Tree.object?, Option.bind_some, detectFields?, contains]

theorem Tree.Alike.isShell {left right : Tree} (alike : left.Alike right) :
    left.isShell = right.isShell := by
  have parts := alike.get? "stmts" (by decide)
  unfold Tree.isShell
  generalize left.get? "stmts" = leftPart at parts
  generalize right.get? "stmts" = rightPart at parts
  cases parts with
  | none => rfl
  | some alike => exact alike.list?

/-- Queries of one kind whose records are alike are printed alike. -/
theorem Query.printWith_of_alike {first second : Query} (kinds : first.kind = second.kind)
    (alike : first.record.Alike second.record) :
    first.printWith Recorded.parser = second.printWith Recorded.parser := by
  have statementKinds : first.statementKind? = second.statementKind? := by
    rw [statementKind?, statementKind?, kinds, StatementKind.detect?_of_alike alike]
  unfold printWith
  rw [alike.isShell, statementKinds]
  split
  · rw [Recorded.print_of_alike alike]
  · split
    · next kind _ =>
      have nodes := alike.node kind
      dsimp only
      rw [Recorded.print_of_alike nodes.shell, Recorded.printNode_of_alike nodes]
    · rfl

end SqlTree

import SqlTree.Proofs.Print.Statements

/-!
# Printing without levels

Two printers that agree on all trees below some depth give levels that agree up to that depth. So a
printer of enough levels does not depend on their number, and the printer of all trees is its own
next level. These equations are the form in which printing is used from here on: to print a tree is
to print its top level, with the same printer for everything inside.
-/

namespace SqlTree.Print

/-- Two printers print trees of less than some depth alike. -/
structure Agree (bound : Nat) (first second : Printer) : Prop where
  statement : ∀ tree : Tree, tree.depth < bound → first.statement tree = second.statement tree
  select : ∀ tree : Tree, tree.depth < bound → first.select tree = second.select tree
  source : ∀ tree : Tree, tree.depth < bound → first.source tree = second.source tree
  expression : ∀ tree : Tree, tree.depth < bound → first.expression tree = second.expression tree

/-- A single tree of less than some depth, seen twice. -/
inductive Shallow (bound : Nat) : Bool → (Bool → Tree) → Prop
  | intro (tree : Tree) (shallow : tree.depth < bound) : Shallow bound false fun _ => tree

theorem Shallow.of_part {bound : Nat} {tree : Tree} (depth : tree.depth ≤ bound) {part : Tree}
    (mem : part ∈ tree.parts) : Shallow bound false fun _ => part :=
  .intro part (Nat.lt_of_lt_of_le (Tree.depth_lt_of_mem_parts mem) depth)

theorem Shallow.shows {bound : Nat} {loose : Bool} {tree : Bool → Tree} :
    Shallow bound loose tree → Shows (Shallow bound) loose tree
  | .intro _ shallow => shows_const fun _ => .of_part (Nat.le_of_lt shallow)

theorem Shallow.same {α : Type} {bound : Nat} {loose : Bool} {tree : Bool → Tree}
    (view : Tree → α) : Shallow bound loose tree → Same fun index => view (tree index)
  | .intro tree _ => same_const (view tree)

theorem Shallow.literal (bound : Nat) : Handles (Shallow bound) Same fun _ => textLiteral
  | _, _, .intro tree _ => same_const (textLiteral tree)

def shallowFamilies (bound : Nat) : Families Bool :=
  .strict (Shallow bound) Shallow.shows (Shallow.same Node.nameText?) (Shallow.literal bound)

namespace Agree

variable {bound : Nat} {first second : Printer}

def comparison (agree : Agree bound first second) : Comparison Bool where
  toFamilies := shallowFamilies bound
  printer index := cond index first second
  statement
    | _, _, .intro tree shallow => ⟨second.statement tree, fun index => by
        cases index <;> simp [agree.statement tree shallow]⟩
  select
    | _, _, .intro tree shallow => ⟨second.select tree, fun index => by
        cases index <;> simp [agree.select tree shallow]⟩
  source
    | _, _, .intro tree shallow => ⟨second.source tree, fun index => by
        cases index <;> simp [agree.source tree shallow]⟩
  expression
    | _, _, .intro tree shallow => ⟨second.expression tree, fun index => by
        cases index <;> simp [agree.expression tree shallow]⟩

theorem shows (agree : Agree bound first second) {tree : Tree} (depth : tree.depth ≤ bound) :
    Shows agree.comparison.Part false fun _ => tree :=
  shows_const fun _ mem => .of_part depth mem

/-- What two printers agree on decides what their next levels agree on. -/
theorem next (agree : Agree bound first second) : Agree (bound + 1) first.next second.next where
  statement _ depth :=
    (Comparison.prints_statementLevel (agree.shows (Nat.le_of_lt_succ depth))).eq true false
  select _ depth :=
    (Comparison.prints_selectLevel (agree.shows (Nat.le_of_lt_succ depth))).eq true false
  source _ depth :=
    (Comparison.prints_sourceLevel (agree.shows (Nat.le_of_lt_succ depth))).eq true false
  expression _ depth :=
    (Comparison.prints_expressionLevel (agree.shows (Nat.le_of_lt_succ depth))).eq true false

end Agree

theorem agree_zero (first second : Printer) : Agree 0 first second where
  statement _ depth := absurd depth (Nat.not_lt_zero _)
  select _ depth := absurd depth (Nat.not_lt_zero _)
  source _ depth := absurd depth (Nat.not_lt_zero _)
  expression _ depth := absurd depth (Nat.not_lt_zero _)

theorem agree_ofLevels (bound more : Nat) :
    Agree bound (.ofLevels (more + bound)) (.ofLevels bound) := by
  induction bound with
  | zero => exact agree_zero _ _
  | succ bound ih => exact ih.next

/-- With enough levels a printer prints like the printer of all trees. -/
theorem agree_printer (bound : Nat) : Agree bound (.ofLevels bound) printer := by
  have levels {tree : Tree} (depth : tree.depth < bound) :
      Agree (tree.depth + 1) (.ofLevels bound) (.ofLevels (tree.depth + 1)) := by
    have more := agree_ofLevels (tree.depth + 1) (bound - (tree.depth + 1))
    rwa [Nat.sub_add_cancel depth] at more
  exact
    { statement := fun tree depth => (levels depth).statement tree (Nat.lt_succ_self _)
      select := fun tree depth => (levels depth).select tree (Nat.lt_succ_self _)
      source := fun tree depth => (levels depth).source tree (Nat.lt_succ_self _)
      expression := fun tree depth => (levels depth).expression tree (Nat.lt_succ_self _) }

/-! ## The equations of printing -/

theorem statement_eq (tree : Tree) : statement tree = printer.statementLevel tree :=
  (agree_printer tree.depth).next.statement tree (Nat.lt_succ_self _)

theorem select_eq (record : Tree) : select record = printer.selectLevel record :=
  (agree_printer record.depth).next.select record (Nat.lt_succ_self _)

theorem source_eq (tree : Tree) : source tree = printer.sourceLevel tree :=
  (agree_printer tree.depth).next.source tree (Nat.lt_succ_self _)

theorem expression_eq (tree : Tree) : expression tree = printer.expressionLevel tree :=
  (agree_printer tree.depth).next.expression tree (Nat.lt_succ_self _)

end SqlTree.Print

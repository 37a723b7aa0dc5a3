import SqlTree.Print.Statement

/-!
# The printer

Each level of a tree is printed with the printers of the levels below it. A printer for trees of
depth up to `n` is the `n`-th step from one that prints nothing. A level hands only proper parts of
its tree to the printers below, so that the depth of a tree bounds the number of steps that are
needed to print it.
-/

namespace SqlTree.Print

def Printer.nothing : Printer :=
  let refuse : Tree → Printed := fun _ => .error (cannotPrint "nested tree")
  ⟨refuse, refuse, refuse, refuse⟩

def Printer.next (printer : Printer) : Printer where
  statement := printer.statementLevel
  select := printer.selectLevel
  source := printer.sourceLevel
  expression := printer.expressionLevel

/-- The printer of so many levels. -/
def Printer.ofLevels : Nat → Printer
  | 0 => .nothing
  | levels + 1 => (ofLevels levels).next

def statement (tree : Tree) : Printed := (Printer.ofLevels (tree.depth + 1)).statement tree

def select (record : Tree) : Printed := (Printer.ofLevels (record.depth + 1)).select record

def source (tree : Tree) : Printed := (Printer.ofLevels (tree.depth + 1)).source tree

def expression (tree : Tree) : Printed := (Printer.ofLevels (tree.depth + 1)).expression tree

def printer : Printer := ⟨statement, select, source, expression⟩

def shellEntry (entry : Tree) : Printed :=
  match entry.get? "stmt" with
  | some tree => statement tree
  | none => .error (cannotPrint "RawStmt")

def shell (tree : Tree) : Printed := do
  let texts ← (tree.itemsAt "stmts").mapM shellEntry
  return Text.join "; " texts

end SqlTree.Print

import SqlTree.Node.Relation
import SqlTree.Statement.Query

/-!
# DELETE

A DELETE has a target, further tables that its condition may speak of, a condition, and what it
returns of the deleted rows.
-/

namespace SqlTree

structure Delete where
  query : Query

namespace Delete

def start (table : TableRef) : Delete := ⟨.ofKind .delete (.object [("relation", table.relation)])⟩

def filter (delete : Delete) (condition : Option Tree) : Delete :=
  ⟨delete.query.restrict "whereClause" condition⟩

def mapFilter (delete : Delete) (change : Option Tree → Option Tree) : Delete :=
  ⟨delete.query.mapOption "whereClause" change⟩

def usingTable (delete : Delete) (table : TableRef) : Delete :=
  ⟨delete.query.append "usingClause" [table.item]⟩

def mapUsing (delete : Delete) (change : List Tree → List Tree) : Delete :=
  ⟨delete.query.mapList "usingClause" change⟩

def returning (delete : Delete) (columns : List Operand) : Delete :=
  ⟨delete.query.append "returningList" (columns.map Node.target)⟩

def mapReturning (delete : Delete) (change : List Tree → List Tree) : Delete :=
  ⟨delete.query.mapList "returningList" change⟩

end Delete

end SqlTree

import SqlTree.Traverse.Walk

/-!
# Visiting nodes

A visitor holds one callback for each kind that it has been given one for, the last one given.
Visiting a tree runs the callback of each node's kind, in document order.
-/

namespace SqlTree

structure Visitor (m : Type → Type) where
  callbacks : List (String × (Position → m Unit))

namespace Visitor

variable {m : Type → Type}

def empty : Visitor m := ⟨[]⟩

/-- Gives the callback of a kind, in place of an earlier one. -/
def on (visitor : Visitor m) (kind : String) (callback : Position → m Unit) : Visitor m :=
  ⟨Fields.insert kind callback visitor.callbacks⟩

def call [Monad m] (visitor : Visitor m) (position : Position) : m Unit :=
  match Fields.get? position.kind visitor.callbacks with
  | some callback => callback position
  | none => pure ()

def visit [Monad m] (visitor : Visitor m) (tree : Tree) : m Unit := tree.positions.forM visitor.call

end Visitor

end SqlTree

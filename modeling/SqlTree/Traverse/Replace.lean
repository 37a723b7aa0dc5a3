import SqlTree.Traverse.Context

/-!
# Replacing nodes of a tree

A replacement concerns the nodes of one kind that pass a test. Each such node is handed out in
document order and gives way to what comes back. Neither the node nor what takes its place is looked
into, and the replacement may be told to stop after the first node. New nodes are computed in a
monad, so computing one may fail or keep state.

Only the way from the root to a replaced node is built anew. A container is copied when the first of
its parts turns out to have changed, later changes are written into that copy, and a container of
which no part has changed is handed on as it is. Whether a part has changed is for an identity test
to say. The test is a parameter: all that is asked of it is that lists and objects which it calls
the same are equal.
-/

namespace SqlTree

/--
Tells whether the container that has been computed for a place is the one that stands there. The
answer may depend on the place, and equal containers need not be the same.
-/
structure Identity where
  test : Context → Tree → Tree → Bool
  eq_of_test : ∀ {context : Context} {new old : Tree}, test context new old = true → new = old

def Identity.ofContent : Identity where
  test := fun _ new old => decide (new = old)
  eq_of_test := of_decide_eq_true

/-- Which nodes to replace, and by what. -/
structure Replacement (m : Type → Type) where
  kind : String
  predicate : Option Predicate
  replace : Position → m Tree
  firstOnly : Bool
  identity : Identity

namespace Replacement

variable {m : Type → Type} [Monad m]

def isDone (replacement : Replacement m) (replaced : Bool) : Bool :=
  replacement.firstOnly && replaced

def isSame (replacement : Replacement m) (context : Context) (new old : Tree) : Bool :=
  new.isSameBy (replacement.identity.test context) old

mutual
/-- Replaces nodes at a place. The flag says whether a node has been replaced. -/
def inTree (replacement : Replacement m) (context : Context) (replaced : Bool) (tree : Tree) :
    m (Tree × Bool) :=
  if replacement.isDone replaced then pure (tree, replaced)
  else
    match _tagged : tree.tagged? with
    | some (kind, record) =>
        let position : Position := ⟨kind, record, tree, context⟩
        if position.matches replacement.kind replacement.predicate then do
          let new ← replacement.replace position
          pure (new, true)
        else do
          let (rebuilt, replaced) ← inContainer replacement context replaced record
          let node := if replacement.isSame context rebuilt record then tree else .node kind rebuilt
          pure (node, replaced)
    | none => inContainer replacement context replaced tree
termination_by 3 * tree.size + 1
decreasing_by
  · have := Tree.size_lt_of_tagged? _tagged
    omega
  · omega

def inContainer (replacement : Replacement m) (context : Context) (replaced : Bool) :
    Tree → m (Tree × Bool)
  | .object fields => do
      let (copy, replaced) ← inFields replacement context fields 0 none replaced fields
      pure (.object (copy.getD fields), replaced)
  | .list items => do
      let (copy, replaced) ← inItems replacement context items 0 none replaced items
      pure (.list (copy.getD items), replaced)
  | scalar => pure (scalar, replaced)
termination_by container => 3 * container.size
decreasing_by all_goals simp only [Tree.size]; omega

/--
Replaces nodes in the fields of an object from some place on. There is no copy of the fields before
the first change.
-/
def inFields (replacement : Replacement m) (context : Context) (fields : List (String × Tree))
    (place : Nat) (copy : Option (List (String × Tree))) (replaced : Bool) :
    List (String × Tree) → m (Option (List (String × Tree)) × Bool)
  | [] => pure (copy, replaced)
  | (key, value) :: rest =>
      if value.isContainer then do
        let within := context.field (.object fields) key
        let (new, replaced) ← inTree replacement within replaced value
        let copy :=
          if replacement.isSame within new value then copy
          else some (Fields.setAt place new (copy.getD fields))
        inFields replacement context fields (place + 1) copy replaced rest
      else inFields replacement context fields (place + 1) copy replaced rest
termination_by rest => 3 * Tree.sizeFields rest + 2
decreasing_by all_goals have := value.size_pos; simp only [Tree.sizeFields]; omega

def inItems (replacement : Replacement m) (context : Context) (items : List Tree) (index : Nat)
    (copy : Option (List Tree)) (replaced : Bool) : List Tree → m (Option (List Tree) × Bool)
  | [] => pure (copy, replaced)
  | item :: rest =>
      if item.isContainer then do
        let within := context.element (.list items) index
        let (new, replaced) ← inTree replacement within replaced item
        let copy :=
          if replacement.isSame within new item then copy
          else some ((copy.getD items).set index new)
        inItems replacement context items (index + 1) copy replaced rest
      else inItems replacement context items (index + 1) copy replaced rest
termination_by rest => 3 * Tree.sizeItems rest + 2
decreasing_by all_goals have := item.size_pos; simp only [Tree.sizeItems]; omega
end

def applyTo (replacement : Replacement m) (tree : Tree) : m Tree :=
  (·.1) <$> replacement.inTree .root false tree

end Replacement

def Tree.replaceNodes {m : Type → Type} [Monad m] (tree : Tree) (kind : String)
    (predicate : Option Predicate) (replace : Position → m Tree) (firstOnly : Bool) : m Tree :=
  Replacement.applyTo { kind, predicate, replace, firstOnly, identity := .ofContent } tree

end SqlTree

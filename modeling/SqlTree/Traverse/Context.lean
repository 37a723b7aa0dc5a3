import SqlTree.Tree.Kind

/-!
# Where a node sits

A traversal tells its caller not only which node it has reached but also where. A path consists of
names of fields and indices into lists. The kind of a node is no step of its own: stepping through
a node goes straight into its record.

A context keeps its steps with the last one in front, so that contexts which share a way share it in
memory as well. `Context.path` has them in the order in which they are taken.
-/

namespace SqlTree

inductive Segment where
  | field (name : String)
  | index (position : Nat)
  deriving DecidableEq, Repr

structure Context where
  /-- The index in the enclosing list, if the place is an element of a list. -/
  index : Option Nat
  /-- The record, object or list that holds the place. The root has none. -/
  parent : Option Tree
  /-- The name of the field that led here. Elements of a list take it from the list. -/
  key : Option String
  /-- The steps from the root, the last one first. -/
  trail : List Segment
  deriving Repr

namespace Context

def root : Context := ⟨none, none, none, []⟩

def field (context : Context) (parent : Tree) (key : String) : Context where
  index := none
  parent := some parent
  key := some key
  trail := .field key :: context.trail

def element (context : Context) (parent : Tree) (index : Nat) : Context where
  index := some index
  parent := some parent
  key := context.key
  trail := .index index :: context.trail

def path (context : Context) : List Segment := context.trail.reverse

def passes (context : Context) (name : String) : Bool := context.trail.contains (.field name)

def depth (context : Context) : Nat := context.trail.length

@[simp]
theorem path_root : root.path = [] := rfl

@[simp]
theorem path_field (context : Context) (parent : Tree) (key : String) :
    (context.field parent key).path = context.path ++ [.field key] := by
  simp [path, field]

@[simp]
theorem path_element (context : Context) (parent : Tree) (index : Nat) :
    (context.element parent index).path = context.path ++ [.index index] := by
  simp [path, element]

@[simp]
theorem passes_iff (context : Context) (name : String) :
    context.passes name ↔ .field name ∈ context.path := by
  simp [passes, path]

@[simp]
theorem depth_eq (context : Context) : context.depth = context.path.length := by
  simp [depth, path]

end Context

/-- A test on the record of a node and its context. -/
abbrev Predicate : Type := Tree → Context → Bool

structure Position where
  kind : String
  record : Tree
  wrapped : Tree
  context : Context
  deriving Repr

/-- Is this a node of the given kind that passes the test, if there is one? -/
def Position.matches (position : Position) (kind : String) (predicate : Option Predicate) : Bool :=
  position.kind == kind && predicate.all fun test => test position.record position.context

end SqlTree

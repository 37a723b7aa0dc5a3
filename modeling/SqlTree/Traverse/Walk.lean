import SqlTree.Traverse.Context

/-!
# Walking a tree

A walker enumerates the nodes of a tree in document order, a node before the nodes inside it. It
keeps the trees that it has still to look at on a stack, so that it can be stopped after any node
and resumed later. Lists and objects that are no nodes are walked through and not reported, and
scalars contribute nothing.

Each step takes one tree off the stack and puts its children back, so the total size of the stacked
trees gets smaller and the walk ends.
-/

namespace SqlTree

structure Frame where
  tree : Tree
  context : Context

def children (context : Context) (container : Tree) : List Frame :=
  match container with
  | .object fields => fields.map fun field => ⟨field.2, context.field container field.1⟩
  | .list items => items.mapIdx fun index item => ⟨item, context.element container index⟩
  | _ => []

/-- The children that are containers themselves. No node lies in any other. -/
def childFrames (context : Context) (container : Tree) : List Frame :=
  (children context container).filter (·.tree.isContainer)

/-- The trees that are still to be looked at, the next one first. -/
abbrev Walker : Type := List Frame

namespace Walker

def start (tree : Tree) : Walker := [⟨tree, .root⟩]

def pending (walker : Walker) : Nat :=
  walker.foldr (fun frame total => frame.tree.size + total) 0

@[simp]
theorem pending_nil : pending [] = 0 := rfl

@[simp]
theorem pending_cons (frame : Frame) (walker : Walker) :
    pending (frame :: walker) = frame.tree.size + pending walker := rfl

@[simp]
theorem pending_append (first second : Walker) :
    pending (first ++ second) = pending first + pending second := by
  induction first with
  | nil => simp
  | cons frame rest ih =>
      simp [ih]
      omega

theorem pending_filter_le (test : Frame → Bool) (walker : Walker) :
    pending (walker.filter test) ≤ pending walker := by
  induction walker with
  | nil => simp
  | cons frame rest ih =>
      rw [List.filter_cons]
      split <;> simp only [pending_cons] <;> omega

theorem pending_fieldFrames (place : String → Context) (fields : List (String × Tree)) :
    pending (fields.map fun field => ⟨field.2, place field.1⟩) = Tree.sizeFields fields := by
  induction fields with
  | nil => simp [Tree.sizeFields]
  | cons field rest ih => simp [Tree.sizeFields, ih]

theorem pending_itemFrames (place : Nat → Context) (items : List Tree) :
    pending (items.mapIdx fun index item => ⟨item, place index⟩) = Tree.sizeItems items := by
  induction items generalizing place with
  | nil => simp [Tree.sizeItems]
  | cons item rest ih => simp [Tree.sizeItems, List.mapIdx_cons, ih fun index => place (index + 1)]

theorem pending_children_lt (context : Context) (container : Tree) :
    pending (children context container) < container.size := by
  cases container with
  | object fields => simp [children, Tree.size, pending_fieldFrames]
  | list items => simp [children, Tree.size, pending_itemFrames]
  | _ => simp [children, Tree.size]

theorem pending_childFrames_lt (context : Context) (container : Tree) :
    pending (childFrames context container) < container.size :=
  Nat.lt_of_le_of_lt (pending_filter_le _ _) (pending_children_lt context container)

/-- The next node, and the walker behind it. -/
def next? : Walker → Option (Position × Walker)
  | [] => none
  | ⟨tree, context⟩ :: walker =>
      match tree.tagged? with
      | some (kind, record) =>
          some (⟨kind, record, tree, context⟩, childFrames context record ++ walker)
      | none => next? (childFrames context tree ++ walker)
termination_by walker => pending walker
decreasing_by
  have := pending_childFrames_lt context tree
  simp
  omega

/-- A walker that has moved on has less in front of it. -/
theorem pending_lt_of_next? {walker rest : Walker} {position : Position}
    (found : next? walker = some (position, rest)) : pending rest < pending walker := by
  fun_induction next? walker with
  | case1 => cases found
  | case2 tree context walker kind record tagged =>
      cases found
      have := pending_childFrames_lt context record
      have := Tree.size_lt_of_tagged? tagged
      simp
      omega
  | case3 tree context walker tagged ih =>
      have := ih found
      have := pending_childFrames_lt context tree
      simp at *
      omega

def positions (walker : Walker) : List Position :=
  match _found : next? walker with
  | none => []
  | some (position, rest) => position :: positions rest
termination_by pending walker
decreasing_by exact pending_lt_of_next? _found

/-- The first node that passes a test. The walker goes no further. -/
def find? (test : Position → Bool) (walker : Walker) : Option Position :=
  match _found : next? walker with
  | none => none
  | some (position, rest) => if test position then some position else find? test rest
termination_by pending walker
decreasing_by exact pending_lt_of_next? _found

/-- Does a node pass a test? The walker goes no further than the first one. -/
def any (test : Position → Bool) (walker : Walker) : Bool :=
  match _found : next? walker with
  | none => false
  | some (position, rest) => test position || any test rest
termination_by pending walker
decreasing_by exact pending_lt_of_next? _found

def count (test : Position → Bool) (walker : Walker) : Nat :=
  match _found : next? walker with
  | none => 0
  | some (position, rest) => (if test position then 1 else 0) + count test rest
termination_by pending walker
decreasing_by exact pending_lt_of_next? _found

end Walker

namespace Tree

def positions (tree : Tree) : List Position := (Walker.start tree).positions

/-- The nodes of a kind that pass a test, in document order. Nodes inside one another count. -/
def findAll (tree : Tree) (kind : String) (predicate : Option Predicate) : List Position :=
  tree.positions.filter (·.matches kind predicate)

def find? (tree : Tree) (kind : String) (predicate : Option Predicate) : Option Position :=
  (Walker.start tree).find? (·.matches kind predicate)

def has (tree : Tree) (kind : String) (predicate : Option Predicate) : Bool :=
  (Walker.start tree).any (·.matches kind predicate)

def count (tree : Tree) (kind : String) (predicate : Option Predicate) : Nat :=
  (Walker.start tree).count (·.matches kind predicate)

end Tree

end SqlTree

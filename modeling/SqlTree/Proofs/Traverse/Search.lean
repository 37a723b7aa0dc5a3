import Mathlib.Data.List.Basic
import SqlTree.Proofs.Traverse.Preorder

/-!
# Searches and the enumeration

A search steps a walker no further than it has to. Whatever it answers is what a list function
answers about the enumeration of the tree: the first node that passes a test, whether there is one,
and how many there are.

A search for a kind alone does not look at contexts. So it can be answered from `Tree.kinds`, the
kinds of all nodes of a tree in document order, and these are put together from the kind of the tree
and the kinds of the parts of its content.
-/

namespace SqlTree

theorem Position.kind_eq_of_matches {position : Position} {kind : String}
    {predicate : Option Predicate} (selected : position.matches kind predicate = true) :
    position.kind = kind :=
  eq_of_beq (Bool.and_eq_true_iff.mp selected).1

namespace Walker

variable (test : Position → Bool)

theorem find?_eq (walker : Walker) : walker.find? test = walker.preorder.find? test := by
  fun_induction find? test walker with
  | case1 walker stopped => rw [preorder_eq_of_next?, stopped, List.find?_nil]
  | case2 walker position rest found passes =>
      rw [preorder_eq_of_next?, found, List.find?_cons_of_pos passes]
  | case3 walker position rest found fails ih =>
      rw [preorder_eq_of_next?, found, List.find?_cons_of_neg fails, ih]

theorem any_eq (walker : Walker) : walker.any test = walker.preorder.any test := by
  fun_induction any test walker with
  | case1 walker stopped => rw [preorder_eq_of_next?, stopped, List.any_nil]
  | case2 walker position rest found ih =>
      rw [preorder_eq_of_next?, found, List.any_cons, ih]

theorem count_eq (walker : Walker) : walker.count test = walker.preorder.countP test := by
  fun_induction count test walker with
  | case1 walker stopped => rw [preorder_eq_of_next?, stopped, List.countP_nil]
  | case2 walker position rest found ih =>
      rw [preorder_eq_of_next?, found, List.countP_cons, ih, Nat.add_comm]

theorem preorder_start (tree : Tree) : (start tree).preorder = tree.preorder .root :=
  List.append_nil _

end Walker

namespace Tree

theorem find?_eq (tree : Tree) (kind : String) (predicate : Option Predicate) :
    tree.find? kind predicate = (tree.preorder .root).find? (·.matches kind predicate) := by
  rw [find?, Walker.find?_eq, Walker.preorder_start]

theorem find?_eq_head?_findAll (tree : Tree) (kind : String) (predicate : Option Predicate) :
    tree.find? kind predicate = (tree.findAll kind predicate).head? := by
  rw [find?_eq, findAll, positions_eq, List.head?_filter]

theorem has_iff_findAll_ne_nil (tree : Tree) (kind : String) (predicate : Option Predicate) :
    tree.has kind predicate = true ↔ tree.findAll kind predicate ≠ [] := by
  rw [has, Walker.any_eq, Walker.preorder_start, findAll, positions_eq, List.any_eq_true, Ne,
    List.filter_eq_nil_iff]
  simp

/-! ## Kinds -/

/-- The kinds of the nodes of a tree, in document order. -/
def kinds (tree : Tree) : List String := tree.positions.map (·.kind)

/-- What is known of each child gives the kinds below a container. -/
theorem map_kind_children {context : Context} {container : Tree} {kindsOf : Tree → List String}
    (known : ∀ frame ∈ children context container,
      (frame.tree.preorder frame.context).map (·.kind) = kindsOf frame.tree) :
    ((children context container).flatMap Frame.preorder).map (·.kind) =
      container.parts.flatMap kindsOf := by
  rw [← map_tree_children context, List.map_flatMap, List.flatMap_map]
  exact List.flatMap_congr known

/-- The kinds do not depend on the place of the tree. -/
theorem map_kind_preorder (context : Context) (tree : Tree) :
    (tree.preorder context).map (·.kind) = tree.kinds := by
  rw [kinds, positions_eq]
  generalize Context.root = other
  induction tree using contentInduction generalizing context other with
  | step tree ih =>
      have inside (place : Context) :
          ((children place tree.content).flatMap Frame.preorder).map (·.kind) =
            tree.content.parts.flatMap fun part => (part.preorder .root).map (·.kind) := by
        apply map_kind_children
        intro frame mem
        exact ih frame.tree (mem_parts_of_mem_children mem) frame.context .root
      rw [preorder_eq, preorder_eq, List.map_append, List.map_append, inside, inside]
      cases tagged : tree.tagged? <;> simp [position?, tagged]

/-- The kinds of a tree are its own, if it is a node, and those of the parts that it contains. -/
theorem kinds_eq (tree : Tree) :
    tree.kinds = tree.kind?.toList ++ tree.content.parts.flatMap kinds := by
  rw [← map_kind_preorder .root tree, preorder_eq, List.map_append,
    map_kind_children fun frame _ => map_kind_preorder frame.context frame.tree]
  cases tagged : tree.tagged? <;> simp [position?, kind?, tagged]

theorem kinds_node {kind : String} (named : isKindName kind = true) (record : Tree) :
    (node kind record).kinds = kind :: record.parts.flatMap kinds := by
  have tagged := tagged?_node named record
  rw [kinds_eq, content_of_tagged? tagged, kind?, tagged]
  rfl

theorem kinds_of_untagged {tree : Tree} (untagged : tree.tagged? = none) :
    tree.kinds = tree.parts.flatMap kinds := by
  rw [kinds_eq, content_of_untagged untagged, kind?, untagged]
  rfl

theorem kinds_of_scalar {tree : Tree} (scalar : tree.isContainer = false) : tree.kinds = [] := by
  rw [← map_kind_preorder .root tree, preorder_of_scalar .root scalar, List.map_nil]

theorem has_iff_mem_kinds (tree : Tree) (kind : String) :
    tree.has kind none = true ↔ kind ∈ tree.kinds := by
  rw [has, Walker.any_eq, Walker.preorder_start, ← map_kind_preorder .root tree]
  simp [Position.matches]

theorem count_eq_count_kinds (tree : Tree) (kind : String) :
    tree.count kind none = tree.kinds.count kind := by
  rw [count, Walker.count_eq, Walker.preorder_start, ← map_kind_preorder .root tree,
    List.count_eq_countP, List.countP_map]
  apply List.countP_congr
  simp [Position.matches]

end Tree

end SqlTree

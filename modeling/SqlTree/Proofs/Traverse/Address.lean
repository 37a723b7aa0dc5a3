import Mathlib.Data.List.Nodup
import SqlTree.Proofs.Traverse.Preorder

/-!
# Paths as addresses

A path can be read without any traversal: `Tree.resolve?` follows its steps, and goes through a node
into the record first. This file shows that the walker and this reading agree. In a tree whose
objects repeat no name, the walker reports a node under a path exactly if the path leads there, it
reports no path twice, and what else it says about the place is true of it.

The truth of a context is `Context.Describes`. It holds at the root and passes from a place to the
children of the place, so it holds wherever the walker gets. In the other direction, a path that
leads to a node is followed step by step through the enumeration.
-/

namespace SqlTree

namespace Segment

def name? : Segment → Option String
  | .field name => some name
  | .index _ => none

def index? : Segment → Option Nat
  | .field _ => none
  | .index position => some position

end Segment

namespace Tree

/-- The part of a container that one step leads to. -/
def part? (container : Tree) : Segment → Option Tree
  | .field name => container.get? name
  | .index position => container.items[position]?

/-- The tree at the end of a path. Each step is taken in the content of the tree reached so far. -/
def resolve? (tree : Tree) : List Segment → Option Tree
  | [] => some tree
  | segment :: rest => (tree.content.part? segment).bind fun part => part.resolve? rest

theorem resolve?_append (tree : Tree) (front back : List Segment) :
    tree.resolve? (front ++ back) =
      (tree.resolve? front).bind fun reached => reached.resolve? back := by
  induction front generalizing tree with
  | nil => rfl
  | cons segment rest ih => simp [resolve?, ih, Option.bind_assoc]

theorem resolve?_concat {tree reached part : Tree} {front : List Segment} {segment : Segment}
    (resolved : tree.resolve? front = some reached)
    (found : reached.content.part? segment = some part) :
    tree.resolve? (front ++ [segment]) = some part := by
  simp [resolve?_append, resolved, resolve?, found]

end Tree

namespace Context

def enter (context : Context) (container : Tree) : Segment → Context
  | .field name => context.field container name
  | .index position => context.element container position

@[simp]
theorem path_enter (context : Context) (container : Tree) (segment : Segment) :
    (context.enter container segment).path = context.path ++ [segment] := by
  cases segment <;> simp [enter]

@[simp]
theorem parent_enter (context : Context) (container : Tree) (segment : Segment) :
    (context.enter container segment).parent = some container := by
  cases segment <;> rfl

@[simp]
theorem index_enter (context : Context) (container : Tree) (segment : Segment) :
    (context.enter container segment).index = segment.index? := by
  cases segment <;> rfl

@[simp]
theorem key_enter (context : Context) (container : Tree) (segment : Segment) :
    (context.enter container segment).key = segment.name?.or context.key := by
  cases segment <;> simp [enter, field, element, Segment.name?]

end Context

/-! ## Children and steps -/

theorem mem_children_of_part? (context : Context) {container part : Tree} {segment : Segment}
    (found : container.part? segment = some part) :
    (⟨part, context.enter container segment⟩ : Frame) ∈ children context container := by
  cases segment with
  | field name =>
      cases container with
      | object fields => exact List.mem_map.mpr ⟨(name, part), Fields.mem_of_get? found, rfl⟩
      | _ => simp [Tree.part?, Tree.get?, Tree.fields, Fields.get?] at found
  | index position =>
      cases container with
      | list items =>
          rcases List.getElem?_eq_some_iff.mp found with ⟨inside, rfl⟩
          exact List.mem_mapIdx.mpr ⟨position, inside, rfl⟩
      | _ => simp [Tree.part?, Tree.items] at found

/-- Where names are distinct, every child is reached by a step of its own. -/
theorem part?_of_mem_children {context : Context} {container : Tree} {frame : Frame}
    (distinct : Fields.Distinct container.fields) (mem : frame ∈ children context container) :
    ∃ segment, container.part? segment = some frame.tree ∧
      frame.context = context.enter container segment := by
  cases container with
  | object fields =>
      rcases List.mem_map.mp mem with ⟨field, fieldMem, rfl⟩
      exact ⟨.field field.1, distinct.get?_of_mem fieldMem, rfl⟩
  | list items =>
      rcases List.mem_mapIdx.mp mem with ⟨index, inside, rfl⟩
      exact ⟨.index index, List.getElem?_eq_getElem inside, rfl⟩
  | _ => simp [children] at mem

theorem nodup_paths_children (context : Context) {container : Tree}
    (distinct : Fields.Distinct container.fields) :
    ((children context container).map (·.context.path)).Nodup := by
  cases container with
  | object fields =>
      have byName : (children context (.object fields)).map (·.context.path) =
          (Fields.keys fields).map fun key => context.path ++ [.field key] := by
        simp [children, Fields.keys]
      rw [byName]
      exact List.Nodup.map (fun left right same => by simpa using same) distinct
  | list items =>
      simp only [children, List.nodup_iff_pairwise_ne, List.pairwise_iff_getElem]
      intro first second firstInside secondInside before
      simp only [List.getElem_map, List.getElem_mapIdx, Context.path_element]
      simp
      omega
  | _ => simp [children]

theorem path_of_mem_children {context : Context} {container : Tree} {frame : Frame}
    (mem : frame ∈ children context container) :
    ∃ segment, frame.context.path = context.path ++ [segment] := by
  cases container with
  | object fields =>
      rcases List.mem_map.mp mem with ⟨field, -, rfl⟩
      exact ⟨.field field.1, by simp⟩
  | list items =>
      rcases List.mem_mapIdx.mp mem with ⟨index, inside, rfl⟩
      exact ⟨.index index, by simp⟩
  | _ => simp [children] at mem

/-- Where names are distinct, no path passes through two children. -/
theorem eq_of_mem_children {context : Context} {container : Tree} {left right : Frame}
    {path : List Segment} (distinct : Fields.Distinct container.fields)
    (leftMem : left ∈ children context container) (rightMem : right ∈ children context container)
    (throughLeft : left.context.path <+: path) (throughRight : right.context.path <+: path) :
    left = right := by
  rcases path_of_mem_children leftMem with ⟨leftStep, leftPath⟩
  rcases path_of_mem_children rightMem with ⟨rightStep, rightPath⟩
  have sameLength : left.context.path.length = right.context.path.length := by
    simp [leftPath, rightPath]
  have samePath : left.context.path = right.context.path := by
    apply List.IsPrefix.eq_of_length ?_ sameLength
    exact List.prefix_of_prefix_length_le throughLeft throughRight (Nat.le_of_eq sameLength)
  exact List.inj_on_of_nodup_map (nodup_paths_children context distinct) leftMem rightMem samePath

/-! ## What the enumeration reports -/

namespace Tree

theorem Distinct.resolve? {tree reached : Tree} {path : List Segment} (distinct : tree.Distinct)
    (resolved : tree.resolve? path = some reached) : reached.Distinct := by
  induction path generalizing tree with
  | nil => exact Option.some.inj resolved ▸ distinct
  | cons segment rest ih =>
      rcases Option.bind_eq_some_iff.mp resolved with ⟨part, found, further⟩
      have mem := mem_parts_of_mem_children (mem_children_of_part? .root found)
      exact ih (distinct.content.part mem) further

theorem path_prefix_of_mem_preorder {tree : Tree} {context : Context} {position : Position}
    (mem : position ∈ tree.preorder context) : context.path <+: position.context.path := by
  induction tree using contentInduction generalizing context with
  | step tree ih =>
      rw [preorder_eq] at mem
      rcases List.mem_append.mp mem with here | below
      · rcases position?_eq_some_iff.mp (Option.mem_toList.mp here) with ⟨-, -, rfl⟩
        exact List.prefix_rfl
      · rcases List.mem_flatMap.mp below with ⟨frame, frameMem, inFrame⟩
        rcases path_of_mem_children frameMem with ⟨segment, framePath⟩
        have further := ih frame.tree (mem_parts_of_mem_children frameMem) inFrame
        rw [framePath] at further
        exact (List.prefix_append context.path [segment]).trans further

theorem path_longer_of_mem_child {context : Context} {container : Tree} {frame : Frame}
    {position : Position} (frameMem : frame ∈ children context container)
    (mem : position ∈ frame.preorder) :
    context.path <+: position.context.path ∧
      context.path.length < position.context.path.length := by
  rcases path_of_mem_children frameMem with ⟨segment, framePath⟩
  have below := path_prefix_of_mem_preorder mem
  rw [framePath] at below
  refine ⟨(List.prefix_append context.path [segment]).trans below, ?_⟩
  have := below.length_le
  simp only [List.length_append, List.length_singleton] at this
  omega

/-- Only a node at the root has no path. -/
theorem path_ne_nil_of_mem_positions {tree : Tree} (bare : tree.tagged? = none)
    {position : Position} (mem : position ∈ tree.positions) : position.context.path ≠ [] := by
  rw [positions_eq, preorder_of_untagged .root bare, preorderInside_eq] at mem
  rcases List.mem_flatMap.mp mem with ⟨frame, frameMem, inFrame⟩
  have longer := (path_longer_of_mem_child frameMem inFrame).2
  exact List.ne_nil_of_length_pos (Nat.zero_lt_of_lt longer)

theorem nodup_paths_preorder {tree : Tree} (context : Context) (distinct : tree.Distinct) :
    ((tree.preorder context).map (·.context.path)).Nodup := by
  induction tree using contentInduction generalizing context with
  | step tree ih =>
      have inside := distinct.content
      have names := inside.names
      rw [preorder_eq, List.map_append, List.nodup_append]
      refine ⟨?_, ?_, ?_⟩
      · cases tree.position? context <;> simp
      · rw [List.map_flatMap, List.nodup_flatMap]
        constructor
        · intro frame frameMem
          have partMem := mem_parts_of_mem_children frameMem
          exact ih frame.tree partMem frame.context (inside.part partMem)
        · apply (nodup_paths_children context names).of_map.imp_of_mem
          intro left right leftMem rightMem different path pathLeft pathRight
          rcases List.mem_map.mp pathLeft with ⟨first, firstMem, rfl⟩
          rcases List.mem_map.mp pathRight with ⟨second, secondMem, samePath⟩
          apply different
          apply eq_of_mem_children names leftMem rightMem (path_prefix_of_mem_preorder firstMem)
          rw [← samePath]
          exact path_prefix_of_mem_preorder secondMem
      · intro path pathHere other otherBelow
        rcases List.mem_map.mp pathHere with ⟨here, hereMem, rfl⟩
        rcases List.mem_map.mp otherBelow with ⟨below, belowMem, rfl⟩
        rcases List.mem_flatMap.mp belowMem with ⟨frame, frameMem, inFrame⟩
        have longer := (path_longer_of_mem_child frameMem inFrame).2
        rw [← (position?_eq_some_iff.mp (Option.mem_toList.mp hereMem)).2.2] at longer
        intro same
        simp [same] at longer

end Tree

/-! ## Contexts that tell the truth -/

namespace Context

/-- A context is true of a place in a tree: the path leads there, and the rest fits the path. -/
structure Describes (context : Context) (root tree : Tree) : Prop where
  resolves : root.resolve? context.path = some tree
  parent_root : context.path = [] → context.parent = none
  parent_inner : ∀ {front : List Segment} {last : Segment}, context.path = front ++ [last] →
    ∃ holder, root.resolve? front = some holder ∧ context.parent = some holder.content
  index_eq : context.index = context.path.getLast?.bind Segment.index?
  key_eq : context.key = (context.path.filterMap Segment.name?).getLast?

theorem describes_root (tree : Tree) : root.Describes tree tree where
  resolves := rfl
  parent_root _ := rfl
  parent_inner impossible := by simp at impossible
  index_eq := rfl
  key_eq := rfl

theorem Describes.enter {context : Context} {root tree part : Tree} {segment : Segment}
    (describes : context.Describes root tree) (found : tree.content.part? segment = some part) :
    (context.enter tree.content segment).Describes root part where
  resolves := by
    rw [path_enter]
    exact Tree.resolve?_concat describes.resolves found
  parent_root impossible := by simp at impossible
  parent_inner := by
    intro front last split
    rw [path_enter] at split
    have same := (List.append_inj' split rfl).1
    exact ⟨tree, same ▸ describes.resolves, parent_enter context tree.content segment⟩
  index_eq := by simp
  key_eq := by
    rw [key_enter, path_enter, describes.key_eq]
    cases segment <;> simp [Segment.name?]

end Context

namespace Tree

theorem describes_of_mem_preorder {root tree : Tree} {context : Context} {position : Position}
    (distinct : tree.Distinct) (describes : context.Describes root tree)
    (mem : position ∈ tree.preorder context) :
    position.context.Describes root position.wrapped ∧
      position.wrapped.tagged? = some (position.kind, position.record) := by
  induction tree using contentInduction generalizing context with
  | step tree ih =>
      rw [preorder_eq] at mem
      rcases List.mem_append.mp mem with here | below
      · rcases position?_eq_some_iff.mp (Option.mem_toList.mp here) with ⟨tagged, rfl, rfl⟩
        exact ⟨describes, tagged⟩
      · rcases List.mem_flatMap.mp below with ⟨frame, frameMem, inFrame⟩
        have inside := distinct.content
        have partMem := mem_parts_of_mem_children frameMem
        rcases part?_of_mem_children inside.names frameMem with
          ⟨segment, found, entered⟩
        have frameDescribes : frame.context.Describes root frame.tree := by
          rw [entered]
          exact describes.enter found
        exact ih frame.tree partMem (inside.part partMem) frameDescribes inFrame

theorem exists_mem_preorder_of_resolve? {tree node : Tree} {path : List Segment}
    (context : Context) (resolved : tree.resolve? path = some node)
    (tagged : node.tagged?.isSome = true) :
    ∃ position ∈ tree.preorder context,
      position.context.path = context.path ++ path ∧ position.wrapped = node := by
  induction path generalizing tree context with
  | nil =>
      obtain rfl : tree = node := Option.some.inj resolved
      rcases Option.isSome_iff_exists.mp tagged with ⟨⟨kind, record⟩, found⟩
      refine ⟨⟨kind, record, tree, context⟩, ?_, by simp, rfl⟩
      rw [preorder_of_tagged? context found]
      exact List.mem_cons_self
  | cons segment rest ih =>
      rcases Option.bind_eq_some_iff.mp resolved with ⟨part, found, further⟩
      rcases ih (context.enter tree.content segment) further with ⟨position, mem, path, wrapped⟩
      refine ⟨position, ?_, by simpa using path, wrapped⟩
      rw [preorder_eq]
      apply List.mem_append_right
      exact List.mem_flatMap.mpr ⟨_, mem_children_of_part? context found, mem⟩

/--
In a tree whose objects repeat no name, the walker reports a node under a path exactly if the path
leads to that node. It reports no path twice, and each context describes its place.
-/
theorem positions_are_addresses (tree : Tree) (distinct : tree.Distinct) :
    (∀ (path : List Segment) (node : Tree),
      (∃ position ∈ tree.positions, position.context.path = path ∧ position.wrapped = node) ↔
        tree.resolve? path = some node ∧ node.tagged?.isSome = true) ∧
    (tree.positions.map (·.context.path)).Nodup ∧
    ∀ position ∈ tree.positions,
      position.context.Describes tree position.wrapped ∧
        position.wrapped.tagged? = some (position.kind, position.record) := by
  rw [positions_eq]
  have truthful : ∀ position ∈ tree.preorder .root,
      position.context.Describes tree position.wrapped ∧
        position.wrapped.tagged? = some (position.kind, position.record) :=
    fun position mem =>
      describes_of_mem_preorder distinct (Context.describes_root tree) mem
  refine ⟨?_, nodup_paths_preorder .root distinct, truthful⟩
  intro path node
  constructor
  · rintro ⟨position, mem, rfl, rfl⟩
    rcases truthful position mem with ⟨describes, tagged⟩
    exact ⟨describes.resolves, by simp [tagged]⟩
  · rintro ⟨resolved, tagged⟩
    simpa using exists_mem_preorder_of_resolve? .root resolved tagged

/-- A record that looks like a node itself, around a list directly inside a list. -/
def nestedReference : Tree :=
  node "RawStmt" (.object [("SelectStmt", .object [("fromClause",
    .list [.list [.null, node "RangeVar" (.object [("relname", .text "t")])]])])])

theorem nestedReference_addresses :
    nestedReference.Distinct ∧
      ∃ position ∈ nestedReference.positions,
        position.context.path = [.field "SelectStmt", .field "fromClause", .index 0, .index 1] ∧
          position.wrapped = node "RangeVar" (.object [("relname", .text "t")]) := by
  have distinct : nestedReference.Distinct := by decide
  refine ⟨distinct, ?_⟩
  exact ((positions_are_addresses nestedReference distinct).1 _ _).mpr (by decide)

end Tree

end SqlTree

import SqlTree.Proofs.Tree.Content
import SqlTree.Traverse.Walk

/-!
# The walker visits nodes in pre-order

The walker keeps what it has still to look at on a stack. Here the same nodes are enumerated by
plain recursion: `Tree.preorder` reports a node and then goes through the children of its record,
and it goes through any other list or object without reporting it.

The invariant of the walk is that the nodes in front of a walker are the enumerations of its stacked
trees, one after the other. One step of the walker removes the first node of that sequence, and a
walker that stops has none left. Hence a walk that is driven to its end reports exactly the
enumeration of the tree it was started on.
-/

namespace SqlTree

namespace Tree

mutual
/-- The nodes of a tree at a place, each before the nodes inside it. -/
def preorder (context : Context) (tree : Tree) : List Position :=
  match _tagged : tree.tagged? with
  | some (kind, record) => ⟨kind, record, tree, context⟩ :: preorderInside context record
  | none => preorderInside context tree
termination_by 3 * tree.size + 1
decreasing_by
  · have := size_lt_of_tagged? _tagged
    omega
  · omega

def preorderInside (context : Context) : Tree → List Position
  | .object fields => preorderFields context (.object fields) fields
  | .list items => preorderItems context (.list items) 0 items
  | _ => []
termination_by container => 3 * container.size
decreasing_by all_goals simp only [size]; omega

def preorderFields (context : Context) (parent : Tree) : List (String × Tree) → List Position
  | [] => []
  | (key, value) :: rest =>
      preorder (context.field parent key) value ++ preorderFields context parent rest
termination_by fields => 3 * sizeFields fields + 2
decreasing_by all_goals have := value.size_pos; simp only [sizeFields]; omega

def preorderItems (context : Context) (parent : Tree) (index : Nat) : List Tree → List Position
  | [] => []
  | item :: rest =>
      preorder (context.element parent index) item ++ preorderItems context parent (index + 1) rest
termination_by items => 3 * sizeItems items + 2
decreasing_by all_goals have := item.size_pos; simp only [sizeItems]; omega
end

theorem preorder_of_tagged? {tree record : Tree} {kind : String} (context : Context)
    (tagged : tree.tagged? = some (kind, record)) :
    tree.preorder context = ⟨kind, record, tree, context⟩ :: record.preorderInside context := by
  rw [preorder]
  split
  · next kind record found =>
    cases found.symm.trans tagged
    rfl
  · next found => simp [tagged] at found

theorem preorder_of_untagged {tree : Tree} (context : Context) (untagged : tree.tagged? = none) :
    tree.preorder context = tree.preorderInside context := by
  rw [preorder]
  split
  · next found => simp [untagged] at found
  · rfl

theorem preorder_of_scalar {tree : Tree} (context : Context) (scalar : tree.isContainer = false) :
    tree.preorder context = [] := by
  rw [preorder_of_untagged context (tagged?_of_scalar scalar)]
  cases tree <;> simp_all [preorderInside, isContainer]

end Tree

/-! ## Children -/

/-- Fields of an object, from some field on, as its children. -/
def fieldFrames (context : Context) (parent : Tree) (fields : List (String × Tree)) : List Frame :=
  fields.map fun field => ⟨field.2, context.field parent field.1⟩

/-- Elements of a list, from some index on, as its children. -/
def itemFrames (context : Context) (parent : Tree) (index : Nat) (items : List Tree) : List Frame :=
  items.mapIdx fun offset item => ⟨item, context.element parent (index + offset)⟩

@[simp]
theorem fieldFrames_cons (context : Context) (parent value : Tree) (key : String)
    (rest : List (String × Tree)) :
    fieldFrames context parent ((key, value) :: rest) =
      ⟨value, context.field parent key⟩ :: fieldFrames context parent rest := rfl

@[simp]
theorem itemFrames_cons (context : Context) (parent item : Tree) (index : Nat)
    (rest : List Tree) :
    itemFrames context parent index (item :: rest) =
      ⟨item, context.element parent index⟩ :: itemFrames context parent (index + 1) rest := by
  simp [itemFrames, List.mapIdx_cons, Nat.add_assoc, Nat.add_comm 1]

theorem children_object (context : Context) (fields : List (String × Tree)) :
    children context (.object fields) = fieldFrames context (.object fields) fields := rfl

theorem children_list (context : Context) (items : List Tree) :
    children context (.list items) = itemFrames context (.list items) 0 items := by
  simp [children, itemFrames]

theorem map_tree_children (context : Context) (container : Tree) :
    (children context container).map (·.tree) = container.parts := by
  cases container with
  | object fields => simp [children, Tree.parts]
  | list items => apply List.ext_getElem <;> simp [children, Tree.parts]
  | _ => rfl

theorem mem_parts_of_mem_children {context : Context} {container : Tree} {frame : Frame}
    (mem : frame ∈ children context container) : frame.tree ∈ container.parts := by
  rw [← map_tree_children context container]
  exact List.mem_map_of_mem mem

def Frame.preorder (frame : Frame) : List Position := frame.tree.preorder frame.context

namespace Tree

theorem preorderFields_eq (context : Context) (parent : Tree) (fields : List (String × Tree)) :
    preorderFields context parent fields =
      (fieldFrames context parent fields).flatMap Frame.preorder := by
  induction fields with
  | nil => simp [preorderFields, fieldFrames]
  | cons field rest ih =>
      rcases field with ⟨key, value⟩
      simp [preorderFields, ih, Frame.preorder]

theorem preorderItems_eq (context : Context) (parent : Tree) (index : Nat) (items : List Tree) :
    preorderItems context parent index items =
      (itemFrames context parent index items).flatMap Frame.preorder := by
  induction items generalizing index with
  | nil => simp [preorderItems, itemFrames]
  | cons item rest ih => simp [preorderItems, ih, Frame.preorder]

theorem preorderInside_eq (context : Context) (container : Tree) :
    container.preorderInside context = (children context container).flatMap Frame.preorder := by
  cases container with
  | object fields => rw [preorderInside, preorderFields_eq, children_object]
  | list items => rw [preorderInside, preorderItems_eq, children_list]
  | _ => simp [preorderInside, children]

/-- The node at a place, if the tree there is one. -/
def position? (context : Context) (tree : Tree) : Option Position :=
  tree.tagged?.map fun node => ⟨node.1, node.2, tree, context⟩

/-- The nodes of a tree are the tree itself, if it is a node, and those of the parts it contains. -/
theorem preorder_eq (context : Context) (tree : Tree) :
    tree.preorder context = (tree.position? context).toList ++
      (children context tree.content).flatMap Frame.preorder := by
  rcases tagged : tree.tagged? with _ | ⟨kind, record⟩
  · simp [preorder_of_untagged context tagged, preorderInside_eq, position?, tagged,
      content_of_untagged tagged]
  · simp [preorder_of_tagged? context tagged, preorderInside_eq, position?, tagged,
      content_of_tagged? tagged]

theorem position?_eq_some_iff {context : Context} {tree : Tree} {position : Position} :
    tree.position? context = some position ↔
      tree.tagged? = some (position.kind, position.record) ∧ position.wrapped = tree ∧
        position.context = context := by
  rcases position with ⟨kind, record, wrapped, place⟩
  simp [position?]
  grind

end Tree

/-! ## The stack of the walker -/

namespace Walker

/-- The nodes of the stacked trees, the next tree first. -/
def preorder (walker : Walker) : List Position := walker.flatMap Frame.preorder

theorem preorder_cons (frame : Frame) (walker : Walker) :
    preorder (frame :: walker) = frame.preorder ++ preorder walker := rfl

theorem preorder_append (first second : Walker) :
    preorder (first ++ second) = preorder first ++ preorder second := by
  simp [preorder]

theorem preorder_childFrames (context : Context) (container : Tree) :
    preorder (childFrames context container) = container.preorderInside context := by
  rw [Tree.preorderInside_eq]
  unfold preorder childFrames
  generalize children context container = frames
  induction frames with
  | nil => rfl
  | cons frame rest ih =>
      rw [List.filter_cons]
      split
      · simp [ih]
      · next scalar =>
        have nothing : frame.preorder = [] :=
          Tree.preorder_of_scalar frame.context (by simpa using scalar)
        simp [ih, nothing]

/-- One step takes the first node off the sequence in front of the walker, or finds it empty. -/
theorem preorder_eq_of_next? (walker : Walker) :
    walker.preorder =
      match next? walker with
      | none => []
      | some (position, rest) => position :: preorder rest := by
  fun_induction next? walker with
  | case1 => rfl
  | case2 tree context walker kind record tagged =>
      simp only [preorder_cons, preorder_append, preorder_childFrames, Frame.preorder]
      rw [Tree.preorder_of_tagged? context tagged, List.cons_append]
  | case3 tree context walker untagged ih =>
      rw [← ih]
      simp only [preorder_cons, preorder_append, preorder_childFrames, Frame.preorder]
      rw [Tree.preorder_of_untagged context untagged]

theorem positions_eq_preorder (walker : Walker) : walker.positions = walker.preorder := by
  fun_induction positions walker with
  | case1 walker stopped => rw [preorder_eq_of_next?, stopped]
  | case2 walker position rest found ih => rw [preorder_eq_of_next?, found, ih]

/-- Asked again and again, the walker reports these nodes one by one and then stops. -/
inductive Yields : Walker → List Position → Prop where
  | stop {walker : Walker} (stopped : next? walker = none) : Yields walker []
  | step {walker rest : Walker} {position : Position} {positions : List Position}
      (found : next? walker = some (position, rest)) (later : Yields rest positions) :
      Yields walker (position :: positions)

theorem yields_positions (walker : Walker) : Yields walker walker.positions := by
  fun_induction positions walker with
  | case1 walker stopped => exact .stop stopped
  | case2 walker position rest found ih => exact .step found ih

end Walker

namespace Tree

theorem positions_eq (tree : Tree) : tree.positions = tree.preorder .root := by
  rw [positions, Walker.positions_eq_preorder]
  simp [Walker.start, Walker.preorder, Frame.preorder]

/--
A walk through a tree ends, and until then it reports exactly the nodes of the recursive
enumeration, in its order and with its contexts.
-/
theorem walk_yields_preorder (tree : Tree) :
    Walker.Yields (Walker.start tree) (tree.preorder .root) ∧
      tree.positions = tree.preorder .root := by
  have whole := positions_eq tree
  refine ⟨?_, whole⟩
  rw [← whole]
  exact Walker.yields_positions (Walker.start tree)

end Tree

end SqlTree

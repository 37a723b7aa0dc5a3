import SqlTree.Proofs.Traverse.Plan

/-!
# Replacement is substitution

`Tree.substituteM` is replacement without any economy: it puts what comes back for a match in the
place of the match, looks into neither of the two, and builds all other nodes, objects and lists
anew from their substituted parts. A replacement that is told to go on after the first node, and
that leaves containers alone where it can, does the same in every monad. This does not depend on
when the identity test takes two equal containers for the same.

`Tree.substitute` is substitution by a plain function. It is what comes out of a replacement whose
every match is answered.
-/

namespace SqlTree

namespace Tree

section

variable {m : Type → Type} [Monad m] (kind : String) (predicate : Option Predicate)
  (replace : Position → m Tree)

mutual
/-- Puts new nodes in the places of those that match, and builds everything else anew. -/
def substituteM (context : Context) (tree : Tree) : m Tree :=
  match _tagged : tree.tagged? with
  | some (found, record) =>
      let position : Position := ⟨found, record, tree, context⟩
      if position.matches kind predicate then replace position
      else node found <$> substituteInsideM context record
  | none => substituteInsideM context tree
termination_by 3 * tree.size + 1
decreasing_by
  · have := size_lt_of_tagged? _tagged
    omega
  · omega

def substituteInsideM (context : Context) : Tree → m Tree
  | .object fields => object <$> substituteFieldsM context (.object fields) fields
  | .list items => list <$> substituteItemsM context (.list items) 0 items
  | scalar => pure scalar
termination_by container => 3 * container.size
decreasing_by all_goals simp only [size]; omega

def substituteFieldsM (context : Context) (parent : Tree) :
    List (String × Tree) → m (List (String × Tree))
  | [] => pure []
  | (key, value) :: rest => do
      let new ← substituteM (context.field parent key) value
      let news ← substituteFieldsM context parent rest
      pure ((key, new) :: news)
termination_by fields => 3 * sizeFields fields + 2
decreasing_by all_goals have := value.size_pos; simp only [sizeFields]; omega

def substituteItemsM (context : Context) (parent : Tree) (index : Nat) : List Tree → m (List Tree)
  | [] => pure []
  | item :: rest => do
      let new ← substituteM (context.element parent index) item
      let news ← substituteItemsM context parent (index + 1) rest
      pure (new :: news)
termination_by items => 3 * sizeItems items + 2
decreasing_by all_goals have := item.size_pos; simp only [sizeItems]; omega
end

end

/-- The tree with new nodes in the places of those that match. -/
def substitute (kind : String) (predicate : Option Predicate) (new : Position → Tree)
    (context : Context) (tree : Tree) : Tree :=
  Id.run (tree.substituteM kind predicate (fun position => pure (new position)) context)

section

variable {m : Type → Type} [Monad m] {kind : String} {predicate : Option Predicate}
  {replace : Position → m Tree}

theorem substituteM_of_target? {context : Context} {tree : Tree} {position : Position}
    (found : tree.target? (·.matches kind predicate) context = some position) :
    tree.substituteM kind predicate replace context = replace position := by
  rw [substituteM]
  split
  · next name record tagged =>
    rw [target?_of_tagged? _ context tagged] at found
    split at found
    · next selected =>
      cases found
      simp [selected]
    · cases found
  · next untagged => simp [target?_of_untagged _ context untagged] at found

variable [LawfulMonad m]

theorem substituteFieldsM_eq (context : Context) (parent : Tree) (fields : List (String × Tree)) :
    substituteFieldsM kind predicate replace context parent fields =
      (fun parts => fields.zipWith (fun field part => (field.1, part)) parts) <$>
        (fieldFrames context parent fields).mapM fun frame =>
          frame.tree.substituteM kind predicate replace frame.context := by
  induction fields with
  | nil => simp [substituteFieldsM, fieldFrames]
  | cons field rest ih =>
      rcases field with ⟨key, value⟩
      simp [substituteFieldsM, ih]

theorem substituteItemsM_eq (context : Context) (parent : Tree) (index : Nat)
    (items : List Tree) :
    substituteItemsM kind predicate replace context parent index items =
      (itemFrames context parent index items).mapM fun frame =>
        frame.tree.substituteM kind predicate replace frame.context := by
  induction items generalizing index with
  | nil => simp [substituteItemsM, itemFrames]
  | cons item rest ih => simp [substituteItemsM, ih]

theorem substituteInsideM_eq (context : Context) (container : Tree) :
    container.substituteInsideM kind predicate replace context =
      container.withParts <$> (children context container).mapM fun frame =>
        frame.tree.substituteM kind predicate replace frame.context := by
  cases container with
  | object fields =>
      rw [substituteInsideM, substituteFieldsM_eq, children_object, Functor.map_map]
      rfl
  | list items =>
      rw [substituteInsideM, substituteItemsM_eq, children_list]
      rfl
  | _ => simp [substituteInsideM, withParts, children]

theorem substituteM_of_none {context : Context} {tree : Tree}
    (missing : tree.target? (·.matches kind predicate) context = none) :
    tree.substituteM kind predicate replace context =
      (fun parts => tree.withContent (tree.content.withParts parts)) <$>
        (children context tree.content).mapM fun frame =>
          frame.tree.substituteM kind predicate replace frame.context := by
  have inside : tree.substituteM kind predicate replace context =
      tree.withContent <$> tree.content.substituteInsideM kind predicate replace context := by
    rw [substituteM]
    split
    · next name record tagged =>
      rw [target?_of_tagged? _ context tagged] at missing
      split at missing
      · cases missing
      · next rejected =>
        simp [rejected, content_of_tagged? tagged, funext (withContent_of_tagged? tagged)]
    · next untagged =>
      simp [content_of_untagged untagged, funext (withContent_of_untagged untagged)]
  rw [inside, substituteInsideM_eq, Functor.map_map]

/-- Every tree takes as many answers as it has targets, which leaves the others theirs. -/
theorem fillParts_mapM {selects : Position → Bool} {result : Frame → m Tree} (frames : List Frame)
    (filled : ∀ frame ∈ frames,
      (fun news => frame.tree.fill selects frame.context news) <$>
        (frame.tree.targets selects frame.context).mapM replace = result frame) :
    (fun news => fillParts selects news frames) <$> (targetsOf selects frames).mapM replace =
      frames.mapM result := by
  induction frames with
  | nil => simp [fillParts, targetsOf]
  | cons frame rest ih =>
      have later := ih fun other mem => filled other (List.mem_cons_of_mem frame mem)
      rw [List.mapM_cons, ← filled frame List.mem_cons_self, ← later]
      simp only [targetsOf, List.mapM_append, map_bind, bind_map_left, bind_pure_comp,
        Functor.map_map]
      apply mapM_bind_congr
      intro news length
      simp [fillParts, ← length]

/-- Asking about the targets and filling in the answers is substitution. -/
theorem fill_mapM_targets (context : Context) (tree : Tree) :
    (fun news => tree.fill (·.matches kind predicate) context news) <$>
        (tree.targets (·.matches kind predicate) context).mapM replace =
      tree.substituteM kind predicate replace context := by
  induction tree using contentInduction generalizing context with
  | step tree ih =>
      rcases found : tree.target? (·.matches kind predicate) context with _ | position
      · have partsFilled := fillParts_mapM (children context tree.content) fun frame mem =>
          ih frame.tree (mem_parts_of_mem_children mem) frame.context
        rw [substituteM_of_none found, targets_of_none found, ← partsFilled, Functor.map_map]
        simp only [fill_of_none _ found]
      · rw [substituteM_of_target? found, targets_of_target? found]
        simp [fill_of_target? _ found]

/-- Answers that are computed without effects can be substituted without effects. -/
theorem substituteM_eq_pure {context : Context} {tree : Tree} {new : Position → Tree}
    (succeeds : ∀ position ∈ tree.targets (·.matches kind predicate) context,
      replace position = pure (new position)) :
    tree.substituteM kind predicate replace context =
      pure (tree.substitute kind predicate new context) := by
  have filled : tree.substitute kind predicate new context =
      tree.fill (·.matches kind predicate) context
        ((tree.targets (·.matches kind predicate) context).map new) := by
    rw [substitute, ← fill_mapM_targets, mapM_eq_pure_map fun _ _ => rfl]
    rfl
  rw [← fill_mapM_targets, mapM_eq_pure_map succeeds, map_pure, filled]

/-- If every match is answered by itself, the tree is built anew from what it was built from. -/
theorem substituteM_eq_pure_self {context : Context} {tree : Tree}
    (kept : ∀ position ∈ tree.targets (·.matches kind predicate) context,
      replace position = pure position.wrapped) :
    tree.substituteM kind predicate replace context = pure tree := by
  induction tree using contentInduction generalizing context with
  | step tree ih =>
      rcases found : tree.target? (·.matches kind predicate) context with _ | position
      · rw [targets_of_none found, targetsOf_eq_flatMap] at kept
        have partsKept : ∀ frame ∈ children context tree.content,
            frame.tree.substituteM kind predicate replace frame.context = pure frame.tree := by
          intro frame mem
          apply ih frame.tree (mem_parts_of_mem_children mem)
          intro position inFrame
          exact kept position (List.mem_flatMap.mpr ⟨frame, mem, inFrame⟩)
        rw [substituteM_of_none found, mapM_eq_pure_map partsKept, map_pure, map_tree_children,
          withParts_parts, withContent_content]
      · have here := (Option.filter_eq_some_iff.mp found).1
        rw [substituteM_of_target? found, kept position (by simp [targets_of_target? found]),
          (position?_eq_some_iff.mp here).2.1]

end

theorem mem_findAll_of_mem_targets {tree : Tree} {kind : String} {predicate : Option Predicate}
    {position : Position} (mem : position ∈ tree.targets (·.matches kind predicate) .root) :
    position ∈ tree.findAll kind predicate := by
  rcases mem_preorder_of_mem_targets mem with ⟨found, selected⟩
  rw [findAll, positions_eq]
  exact List.mem_filter.mpr ⟨found, selected⟩

end Tree

namespace Replacement

variable {m : Type → Type} [Monad m] [LawfulMonad m]

/--
A replacement that goes on after the first node does what plain substitution does, whatever its
identity test takes for the same. If every match is answered, the outcome is the substituted tree.
In particular the tree comes back if nothing matches, or if every match is answered by itself.
-/
theorem applyTo_eq_substitute (replacement : Replacement m) (tree : Tree)
    (everywhere : replacement.firstOnly = false) :
    replacement.applyTo tree =
        tree.substituteM replacement.kind replacement.predicate replacement.replace .root ∧
      (∀ new : Position → Tree,
        (∀ position ∈ tree.findAll replacement.kind replacement.predicate,
          replacement.replace position = pure (new position)) →
        replacement.applyTo tree =
          pure (tree.substitute replacement.kind replacement.predicate new .root)) ∧
      (tree.findAll replacement.kind replacement.predicate = [] →
        replacement.applyTo tree = pure tree) ∧
      ((∀ position ∈ tree.findAll replacement.kind replacement.predicate,
          replacement.replace position = pure position.wrapped) →
        replacement.applyTo tree = pure tree) := by
  have substituted : replacement.applyTo tree =
      tree.substituteM replacement.kind replacement.predicate replacement.replace .root := by
    rw [replacement.applyTo_eq_fill everywhere]
    exact Tree.fill_mapM_targets .root tree
  have kept (unchanged : ∀ position ∈ tree.findAll replacement.kind replacement.predicate,
      replacement.replace position = pure position.wrapped) :
      replacement.applyTo tree = pure tree := by
    rw [substituted]
    apply Tree.substituteM_eq_pure_self
    intro position mem
    exact unchanged position (Tree.mem_findAll_of_mem_targets mem)
  refine ⟨substituted, ?_, ?_, kept⟩
  · intro new succeeds
    rw [substituted]
    apply Tree.substituteM_eq_pure
    intro position mem
    exact succeeds position (Tree.mem_findAll_of_mem_targets mem)
  · intro nothing
    exact kept (by simp [nothing])

/-- Two matches side by side, one of them with a match inside, among scalars. -/
def joinedTables : Tree :=
  .list [.null, .node "JoinExpr" (.object [
    ("larg", .node "RangeVar" (.object [("relname", .text "a")])),
    ("isNatural", .bool true),
    ("rarg", .node "RangeVar" (.list [.node "RangeVar" (.object [])]))])]

theorem joinedTables_substituted :
    let table := Tree.node "RangeVar" (.object [("relname", .text "t")])
    let replacement : Replacement (Except String) :=
      { kind := "RangeVar", predicate := none, replace := fun _ => .ok table, firstOnly := false,
        identity := ⟨fun _ _ _ => false, fun same => absurd same Bool.false_ne_true⟩ }
    replacement.applyTo joinedTables =
      .ok (.list [.null, .node "JoinExpr" (.object [
        ("larg", table), ("isNatural", .bool true), ("rarg", table)])]) := by
  intro table replacement
  have substituted := (applyTo_eq_substitute replacement joinedTables rfl).2.1 (fun _ => table)
    (fun _ _ => rfl)
  rw [substituted]
  exact congrArg Except.ok (by decide +kernel)

end Replacement

end SqlTree

import SqlTree.Proofs.Traverse.Outermost
import SqlTree.Proofs.Traverse.Put
import SqlTree.Proofs.Traverse.Search

/-!
# Replacing the first match

A replacement that stops after the first node keeps a flag, and goes on through the remaining parts
at every level without looking for more. A search stops its walker. Both are about the same node:
the first target of a replacement is the first node of the enumeration that is selected, whether or
not others lie inside it.

Filling in one new tree changes one part at each level, and the step that leads to this part is the
next step of the path of the node. So in a tree whose objects repeat no name, the outcome is the
tree with the new node written at the path that the search reports.
-/

namespace SqlTree

/-! ## The child that changes -/

/-- Where names are distinct, exchanging one child is writing at the step that leads to it. -/
theorem exists_step_of_children {context : Context} {container : Tree} {front back : List Frame}
    {frame : Frame} (distinct : Fields.Distinct container.fields)
    (split : children context container = front ++ frame :: back) :
    ∃ segment, container.part? segment = some frame.tree ∧
      frame.context = context.enter container segment ∧
      ∀ new, container.withParts (front.map (·.tree) ++ new :: back.map (·.tree)) =
        container.putPart segment new := by
  cases container with
  | object fields =>
      rcases List.map_eq_append_iff.mp split with ⟨before, others, rfl, rfl, later⟩
      rcases List.map_eq_cons_iff.mp later with ⟨⟨name, value⟩, after, rfl, rfl, rfl⟩
      have absent : name ∉ Fields.keys before := by
        intro present
        have apart : (before.map (·.1) ++ name :: after.map (·.1)).Nodup := by
          simpa [Fields.Distinct, Fields.keys, Tree.fields] using distinct
        exact (List.nodup_append.mp apart).2.2 name present name List.mem_cons_self rfl
      refine ⟨.field name, ?_, rfl, ?_⟩
      · simp [Tree.part?, Tree.get?, Tree.fields, Fields.get?_append_cons absent]
      · intro new
        simp only [Tree.withParts, Tree.putPart, Tree.set, Tree.fields, List.map_map,
          Function.comp_def, Fields.insert_append_cons absent]
        rw [List.zipWith_append (by simp)]
        simp [List.zipWith_map_right]
  | list items =>
      have parts : items = front.map (·.tree) ++ frame.tree :: back.map (·.tree) := by
        have trees := congrArg (List.map (·.tree)) split
        rwa [map_tree_children, List.map_append, List.map_cons] at trees
      have here : (children context (.list items))[front.length]? = some frame := by
        rw [split, List.getElem?_append_right (Nat.le_refl _), Nat.sub_self,
          List.getElem?_cons_zero]
      refine ⟨.index front.length, ?_, ?_, ?_⟩
      · simp [Tree.part?, Tree.items, parts]
      · rcases Option.map_eq_some_iff.mp (List.getElem?_mapIdx.symm.trans here) with
          ⟨item, -, rfl⟩
        rfl
      · intro new
        simp [Tree.withParts, Tree.putPart, Tree.items, parts]
  | _ => simp [children] at split

namespace Tree

variable {selects : Position → Bool}

/-- The first target is the first selected node, though later nodes may lie inside it. -/
theorem head?_targets (context : Context) (tree : Tree) :
    (tree.targets selects context).head? = (tree.preorder context).find? selects := by
  induction tree using contentInduction generalizing context with
  | step tree ih =>
      rw [preorder_eq, List.find?_append, List.find?_flatMap]
      rcases found : tree.target? selects context with _ | position
      · have noneHere : (tree.position? context).toList.find? selects = none := by
          rw [target?] at found
          cases here : tree.position? context <;> simp_all
        rw [noneHere, Option.none_or, targets_of_none found, targetsOf_eq_flatMap,
          List.head?_flatMap, ← List.head?_filterMap, ← List.head?_filterMap]
        congr 1
        apply List.filterMap_congr
        intro frame mem
        exact ih frame.tree (mem_parts_of_mem_children mem) frame.context
      · rcases Option.filter_eq_some_iff.mp found with ⟨here, selected⟩
        simp [targets_of_target? found, here, selected]

theorem fillParts_of_first {front back : List Frame} {frame : Frame} {first : Position}
    (nothing : ∀ other ∈ front, (other.tree.targets selects other.context).head? = none)
    (found : (frame.tree.targets selects frame.context).head? = some first) (new : Tree) :
    fillParts selects [new] (front ++ frame :: back) =
      front.map (·.tree) ++ frame.tree.fill selects frame.context [new] :: back.map (·.tree) := by
  induction front with
  | nil =>
      rcases List.head?_eq_some_iff.mp found with ⟨more, listed⟩
      simp only [List.nil_append, List.map_nil, fillParts, listed, List.length_cons,
        List.take_succ_cons, List.take_nil, List.drop_succ_cons, List.drop_nil]
      rw [fillParts_nil back fun other _ => fill_nil other.context other.tree]
  | cons other rest ih =>
      have nothingHere := List.head?_eq_none_iff.mp (nothing other List.mem_cons_self)
      simp only [List.cons_append, fillParts, nothingHere, List.length_nil, List.take_zero,
        List.drop_zero, List.map_cons, fill_nil]
      rw [ih fun later mem => nothing later (List.mem_cons_of_mem other mem)]

/-- One new tree is written at the path of the first target, seen from where the tree stands. -/
theorem fill_eq_put {tree : Tree} {context : Context} {first : Position} (distinct : tree.Distinct)
    (found : (tree.targets selects context).head? = some first) (new : Tree) :
    ∃ path, first.context.path = context.path ++ path ∧
      tree.fill selects context [new] = tree.put path new := by
  induction tree using contentInduction generalizing context with
  | step tree ih =>
      rcases target : tree.target? selects context with _ | position
      · have inside := distinct.content
        rw [targets_of_none target, targetsOf_eq_flatMap, List.head?_flatMap] at found
        rcases List.findSome?_eq_some_iff.mp found with
          ⟨front, frame, back, split, inFrame, nothing⟩
        have partMem : frame.tree ∈ tree.content.parts :=
          mem_parts_of_mem_children (split ▸ List.mem_append_right front List.mem_cons_self)
        rcases exists_step_of_children inside.names split with
          ⟨segment, reached, entered, exchanged⟩
        rcases ih frame.tree partMem (inside.part partMem) inFrame with ⟨path, place, filled⟩
        refine ⟨segment :: path, ?_, ?_⟩
        · simp [place, entered]
        · rw [fill_of_none _ target, split, fillParts_of_first nothing inFrame, exchanged, filled,
            put_cons reached]
      · have here := (Option.filter_eq_some_iff.mp target).1
        rw [targets_of_target? target, List.head?_cons, Option.some.injEq] at found
        subst found
        refine ⟨[], ?_, ?_⟩
        · simp [(position?_eq_some_iff.mp here).2.2]
        · rw [fill_of_target? _ target]
          rfl

end Tree

/-! ## Stopping after the first node -/

theorem Replacement.applyTo_eq_put {m : Type → Type} [Monad m] [LawfulMonad m]
    (replacement : Replacement m) (stops : replacement.firstOnly = true) {tree : Tree}
    (distinct : tree.Distinct) :
    replacement.applyTo tree =
      match tree.find? replacement.kind replacement.predicate with
      | none => pure tree
      | some position => tree.put position.context.path <$> replacement.replace position := by
  have first : tree.find? replacement.kind replacement.predicate =
      (tree.targets replacement.selects .root).head? := by
    rw [Tree.head?_targets, Tree.find?_eq]
    rfl
  rw [applyTo, inTree_eq_plan tree, first]
  cases found : (tree.targets replacement.selects .root).head? with
  | none =>
      rw [List.head?_eq_none_iff.mp found, plan_nil]
      simp [Tree.fill_nil]
  | some position =>
      have asked : replacement.asked false (tree.targets replacement.selects .root) =
          [position] := by
        simp [Replacement.asked, isDone, stops, List.take_one, found]
      have written (new : Tree) : tree.fill replacement.selects .root [new] =
          tree.put position.context.path new := by
        rcases Tree.fill_eq_put distinct found new with ⟨path, place, filled⟩
        rw [filled, place]
        rfl
      simp [plan, asked, written]

namespace Closure

variable {σ ε : Type}

/-- The outcome of replacing the first match by a closure, and the calls that are made. -/
def replaceFirst (closure : Closure σ ε) (identity : Identity) (kind : String)
    (predicate : Option Predicate) (state : σ) (tree : Tree) : Except ε Tree × List Position :=
  let replacement : Replacement (ExceptT ε (StateM (List Position × σ))) :=
    { kind, predicate, replace := closure.logged, firstOnly := true, identity }
  let (outcome, log, _) := (replacement.applyTo tree).run.run ([], state)
  (outcome, log)

theorem replaceFirst_eq (closure : Closure σ ε) (identity : Identity) (kind : String)
    (predicate : Option Predicate) (state : σ) {tree : Tree} (distinct : tree.Distinct) :
    closure.replaceFirst identity kind predicate state tree =
      match tree.find? kind predicate with
      | none => (.ok tree, [])
      | some position =>
          ((closure position state).1.map (tree.put position.context.path), [position]) := by
  have written := Replacement.applyTo_eq_put
    { kind, predicate, replace := closure.logged, firstOnly := true, identity } rfl distinct
  rw [replaceFirst, written]
  cases tree.find? kind predicate with
  | none => rfl
  | some position =>
      simp only [run_map]
      rfl

/--
A replacement that stops after the first node concerns what a search finds. If the search finds
nothing, no call is made and the tree comes back. Otherwise there is one call, on the node that is
found and with the context that it is found with. If the call fails, its error is the outcome. If it
is answered, the answer stands at the path of the node, and whatever lies neither above nor below
that path is as it was.
-/
theorem replaceFirst_replaces_found (closure : Closure σ ε) (identity : Identity) (kind : String)
    (predicate : Option Predicate) (state : σ) (tree : Tree) (distinct : tree.Distinct) :
    let (outcome, log) := closure.replaceFirst identity kind predicate state tree
    (tree.find? kind predicate = none → log = [] ∧ outcome = .ok tree) ∧
    ∀ position, tree.find? kind predicate = some position →
      let path := position.context.path
      log = [position] ∧ tree.resolve? path = some position.wrapped ∧
      (∀ error, (closure position state).1 = .error error → outcome = .error error) ∧
      ∀ new, (closure position state).1 = .ok new →
        ∃ result, outcome = .ok result ∧ result = tree.put path new ∧
          result.resolve? path = some new ∧
          ∀ other, ¬path <+: other → ¬other <+: path →
            result.resolve? other = tree.resolve? other := by
  rw [replaceFirst_eq closure identity kind predicate state distinct]
  constructor
  · intro nothing
    simp [nothing]
  · intro position found
    have reported : position ∈ tree.preorder .root := by
      rw [Tree.find?_eq] at found
      exact List.mem_of_find?_eq_some found
    have resolved := (Tree.describes_of_mem_preorder distinct (Context.describes_root tree)
      reported).1.resolves
    rw [found]
    refine ⟨rfl, resolved, ?_, ?_⟩
    · intro error failed
      simp only [failed, Except.map]
    · intro new answered
      refine ⟨_, by simp only [answered, Except.map], rfl, Tree.resolve?_put_self resolved new, ?_⟩
      intro other notBelow notAbove
      exact Tree.resolve?_put_of_apart tree new notBelow notAbove

/-- A match with another one inside, behind a node of another kind, and a match behind both. -/
def guardedTables : Tree :=
  .node "SelectStmt" (.object [
    ("fromClause", .list [.node "JoinExpr" (.object [("larg", .null)]),
      .node "RangeVar" (.object [("alias", .node "RangeVar" (.object []))])]),
    ("larg", .object [("relation", .node "RangeVar" (.object []))])])

def renames : Closure Nat String := fun _ count =>
  (.ok (.node "RangeVar" (.object [("relname", .text "t")])), count + 1)

theorem renames_first_table :
    let table := Tree.node "RangeVar" (.object [("relname", .text "t")])
    let (outcome, log) := renames.replaceFirst .ofContent "RangeVar" none 0 guardedTables
    guardedTables.count "RangeVar" none = 3 ∧
      log.map (·.context.path) = [[.field "fromClause", .index 1]] ∧
      ∃ result, outcome = .ok result ∧
        result.resolve? [.field "fromClause", .index 1] = some table ∧
        result.resolve? [.field "larg", .field "relation"] =
          some (.node "RangeVar" (.object [])) := by
  have three : guardedTables.count "RangeVar" none = 3 := by decide +kernel
  have place : (guardedTables.find? "RangeVar" none).map (·.context.path) =
      some [.field "fromClause", .index 1] := by decide +kernel
  rcases Option.map_eq_some_iff.mp place with ⟨position, found, path⟩
  rcases (replaceFirst_replaces_found renames .ofContent "RangeVar" none 0 guardedTables
    (by decide)).2 position found with ⟨logged, -, -, answered⟩
  rcases answered _ rfl with ⟨result, outcome, -, written, kept⟩
  rw [path] at written kept
  refine ⟨three, by rw [logged]; simp [path], result, outcome, written, ?_⟩
  rw [kept _ (by decide) (by decide)]
  decide +kernel

end Closure

end SqlTree

import SqlTree.Proofs.Traverse.Outermost
import SqlTree.Proofs.Tree.Distinct
import SqlTree.Proofs.Tree.Rebuilding

/-!
# Replacements repeat no name

A replacement writes new parts into a container by their place and does not look at the names. As
many parts are written as there were, so the names stay what they were, and they are distinct if
they were so before. What comes from outside are the new nodes, so all that is asked of a
replacement is that no result of its calls repeats a name.
-/

namespace SqlTree

namespace Tree

variable {selects : Position → Bool} {context : Context} {tree : Tree}

theorem Distinct.withParts (distinct : tree.Distinct) {parts : List Tree}
    (length : parts.length = tree.parts.length) (partsDistinct : ∀ part ∈ parts, part.Distinct) :
    (tree.withParts parts).Distinct := by
  rw [distinct_iff, parts_withParts length]
  refine ⟨?_, partsDistinct⟩
  cases tree with
  | object fields =>
      rw [Tree.withParts, Tree.fields, Fields.Distinct, keys_zipWith]
      · exact distinct.names
      · simpa [Tree.parts] using length
  | _ => exact distinct.names

theorem distinct_withContent {content : Tree} (distinct : content.Distinct) :
    (tree.withContent content).Distinct := by
  unfold withContent
  split
  · exact distinct_node.mpr distinct
  · exact distinct

/-- Whatever new trees are filled in, in a tree without repeated names there are none afterwards. -/
theorem Distinct.fill (distinct : tree.Distinct) {news : List Tree}
    (newsDistinct : ∀ new ∈ news, new.Distinct) : (tree.fill selects context news).Distinct := by
  induction tree using contentInduction generalizing context news with
  | step tree ih =>
      rcases found : tree.target? selects context with _ | position
      · rw [fill_of_none news found]
        apply distinct_withContent
        apply distinct.content.withParts (length_fillParts_children news tree.content)
        apply forall_mem_fillParts
        intro frame mem taken inside _
        have partMem := mem_parts_of_mem_children mem
        exact ih frame.tree partMem (distinct.content.part partMem) fun new newMem =>
          newsDistinct new (inside newMem)
      · rw [fill_of_target? news found]
        cases news with
        | nil => exact distinct
        | cons new rest => exact newsDistinct new List.mem_cons_self

end Tree

/-! ## Replacements -/

namespace Replacement

variable {σ ε : Type}

/--
A replacement keeps names distinct if the trees are distinct that it is given for the selected
nodes, whether it stops after the first one or not.
-/
theorem distinct_of_returns (replacement : Replacement (ExceptT ε (StateM σ))) {tree result : Tree}
    (distinct : tree.Distinct)
    (given : ∀ position ∈ tree.positions, replacement.selects position = true →
      ∀ new, Returns (replacement.replace position) new → new.Distinct)
    (returns : Returns (replacement.applyTo tree) result) : result.Distinct := by
  rw [applyTo_eq_fill_asked] at returns
  rcases returns.exists_of_map with ⟨news, answered, rfl⟩
  apply distinct.fill
  refine Returns.forall_mem_of_mapM ?_ answered
  intro position asked
  rcases Tree.mem_preorder_of_mem_targets (replacement.asked_subset false _ asked) with
    ⟨mem, selected⟩
  rw [← Tree.positions_eq] at mem
  exact given position mem selected

end Replacement

end SqlTree

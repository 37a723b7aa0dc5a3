import SqlTree.Proofs.Traverse.Search
import SqlTree.Proofs.Traverse.Substitution
import SqlTree.Proofs.Traverse.Outermost
import SqlTree.Proofs.Tree.Rebuilding

/-!
# Replacing a kind away

If no answer of a closure has a node of some kind, then a replacement of all nodes of this kind
leaves none behind. Two things have to be seen for this. Every node of the kind is a target or lies
inside one, so all of them go away. And a container that is rebuilt around new parts keeps the names
of its fields, so it stays a node of its kind or stays none, and no new node of the kind comes up.

The induction is over the tree before the replacement. What it says about a tree is known from the
kind of the tree and from the parts that are filled in, and neither names nor contexts matter. So
the statement needs no distinct names.
-/

namespace SqlTree

namespace Tree

/-- Below a tree that is no target, only the parts of its content change. -/
theorem kinds_fill_of_none {selects : Position → Bool} {context : Context} {tree : Tree}
    (news : List Tree) (missing : tree.target? selects context = none) :
    (tree.fill selects context news).kinds =
      tree.kind?.toList ++
        (fillParts selects news (children context tree.content)).flatMap kinds := by
  have length : (fillParts selects news (children context tree.content)).length =
      tree.content.parts.length := length_fillParts_children news tree.content
  have same := kind?_withParts length
  rw [fill_of_none news missing, kinds_eq, kind?_withContent same, content_withContent same,
    parts_withParts length]

/-- If every target of a kind gives way to a tree without that kind, the kind is gone. -/
theorem not_mem_kinds_fill {kind : String} {context : Context} {tree : Tree} {news : List Tree}
    (enough : news.length = (tree.targets (·.matches kind none) context).length)
    (clean : ∀ new ∈ news, kind ∉ new.kinds) :
    kind ∉ (tree.fill (·.matches kind none) context news).kinds := by
  induction tree using contentInduction generalizing context news with
  | step tree ih =>
      rcases target : tree.target? (·.matches kind none) context with _ | position
      · rw [targets_of_none target] at enough
        rw [kinds_fill_of_none news target, List.mem_append, not_or, List.mem_flatMap]
        constructor
        · rcases tagged : tree.tagged? with _ | ⟨name, record⟩
          · simp [kind?, tagged]
          · have other : name ≠ kind := by
              simpa [target?_of_tagged? _ context tagged, Position.matches] using target
            simp [kind?, tagged, other.symm]
        · rintro ⟨part, partMem, inPart⟩
          revert part
          apply forall_mem_fillParts
          intro frame mem taken inside length
          exact ih frame.tree (mem_parts_of_mem_children mem) (length enough) fun new newMem =>
            clean new (inside newMem)
      · rw [targets_of_target? target, List.length_singleton, List.length_eq_one_iff] at enough
        rcases enough with ⟨new, rfl⟩
        rw [fill_of_target? _ target]
        exact clean new List.mem_cons_self

end Tree

namespace Closure

variable {σ ε : Type}

/-- When all calls are answered, there are as many results, each the answer to a call. -/
theorem answers_of_run_mapM_logged {closure : Closure σ ε} {calls log : List Position} {state : σ}
    {news : List Tree} (ran : ((calls.mapM closure.logged).run.run (log, state)).1 = .ok news) :
    news.length = calls.length ∧
      ∀ new ∈ news, ∃ position ∈ calls, ∃ state, (closure position state).1 = .ok new := by
  induction calls generalizing log state news with
  | nil =>
      cases ran
      simp
  | cons position rest ih =>
      rw [List.mapM_cons, run_logged_bind] at ran
      rcases answer : (closure position state).1 with error | new
      · rw [answer] at ran
        cases ran
      · simp only [answer, bind_pure_comp, run_map] at ran
        rcases later : ((rest.mapM closure.logged).run.run
          (log ++ [position], (closure position state).2)).1 with error | others
        · rw [later] at ran
          cases ran
        · rw [later] at ran
          cases ran
          rcases ih later with ⟨length, answered⟩
          refine ⟨congrArg Nat.succ length, ?_⟩
          rw [List.forall_mem_cons]
          refine ⟨⟨position, List.mem_cons_self, state, answer⟩, ?_⟩
          intro other mem
          rcases answered other mem with ⟨call, callMem, answers⟩
          exact ⟨call, List.mem_cons_of_mem position callMem, answers⟩

/--
If no answer of a closure to a node of some kind has a node of that kind in it, then a replacement
of all nodes of the kind that succeeds leaves no such node in the tree.
-/
theorem replaceAll_removes_kind (closure : Closure σ ε) (identity : Identity) (kind : String)
    (state : σ) (tree result : Tree)
    (removes : ∀ position ∈ tree.findAll kind none, ∀ (state : σ) (new : Tree),
      (closure position state).1 = .ok new → new.has kind none = false)
    (succeeds : (closure.replaceAll identity kind none state tree).1 = .ok result) :
    result.has kind none = false ∧ result.count kind none = 0 := by
  rw [replaceAll_eq_fill] at succeeds
  rcases ran : (((tree.targets (·.matches kind none) .root).mapM closure.logged).run.run
    ([], state)).1 with error | news
  · simp [ran, Except.map] at succeeds
  · obtain rfl : tree.fill (·.matches kind none) .root news = result := by
      simpa [ran, Except.map] using succeeds
    rcases answers_of_run_mapM_logged ran with ⟨enough, answered⟩
    have clean : ∀ new ∈ news, kind ∉ new.kinds := by
      intro new newMem
      rcases answered new newMem with ⟨position, mem, after, answer⟩
      rw [← Tree.has_iff_mem_kinds, Bool.not_eq_true]
      exact removes position (Tree.mem_findAll_of_mem_targets mem) after new answer
    have gone := Tree.not_mem_kinds_fill enough clean
    constructor
    · rwa [← Bool.not_eq_true, Tree.has_iff_mem_kinds]
    · rw [Tree.count_eq_count_kinds, List.count_eq_zero]
      exact gone

/-- Matches in an object that is no node, in one another, and in a record that looks like one. -/
def scatteredTables : Tree :=
  .list [.object [("relation", .node "RangeVar" (.object [("inner", .node "RangeVar" .null)])),
      ("other", .null)],
    .node "JoinExpr" (.object [("RangeVar", .list [.node "RangeVar" (.object [])])])]

def callsFunction : Closure Nat String := fun _ count =>
  (.ok (.node "RangeFunction" (.object [("ordinality", .bool true)])), count + 1)

theorem callsFunction_removes_tables :
    let (outcome, log) := callsFunction.replaceAll .ofContent "RangeVar" none 0 scatteredTables
    scatteredTables.count "RangeVar" none = 3 ∧ log.length = 2 ∧
      ∃ result, outcome = .ok result ∧ result.count "RangeFunction" none = 2 ∧
        result.has "RangeVar" none = false ∧ result.count "RangeVar" none = 0 := by
  have two : (callsFunction.replaceAll .ofContent "RangeVar" none 0 scatteredTables).1.toOption.map
      (·.count "RangeFunction" none) = some 2 := by decide +kernel
  rcases outcome : (callsFunction.replaceAll .ofContent "RangeVar" none 0 scatteredTables).1 with
    error | result
  · rw [outcome] at two
    cases two
  · rw [outcome] at two
    refine ⟨by decide +kernel, by decide +kernel, result, outcome, Option.some.inj two, ?_⟩
    apply replaceAll_removes_kind callsFunction .ofContent "RangeVar" 0 scatteredTables result ?_
      outcome
    intro position _ state new answer
    cases answer
    decide +kernel

end Closure

end SqlTree

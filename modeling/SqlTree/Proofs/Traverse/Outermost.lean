import SqlTree.Proofs.Traverse.Address
import SqlTree.Proofs.Traverse.Plan

/-!
# What a replacement asks about

Searching and replacing disagree about nodes inside one another: a search reports all of them, and a
replacement stops at the outermost. Apart from that they see the same nodes, in the same order and
with the same contexts. In a tree whose objects repeat no name, the targets of a replacement are the
results of the search for the same nodes without those that lie inside another result.

The new nodes are computed by a `Closure`, which may fail and whose state survives a failure. A
closure is called on the targets one after the other, and a replacement ends with the first call
that fails.
-/

namespace SqlTree

/-- The place of a node is properly below that of another. -/
def Position.LiesInside (position other : Position) : Prop :=
  other.context.path <+: position.context.path ∧ other.context.path ≠ position.context.path

instance (position other : Position) : Decidable (position.LiesInside other) :=
  inferInstanceAs (Decidable (_ ∧ _))

/-- The positions of a list that lie inside no other. -/
def outermost (positions : List Position) : List Position :=
  positions.filter fun position => ∀ other ∈ positions, ¬position.LiesInside other

theorem not_liesInside_of_length_le {position other : Position}
    (short : position.context.path.length ≤ other.context.path.length) :
    ¬position.LiesInside other := by
  rintro ⟨below, different⟩
  exact different (below.eq_of_length (Nat.le_antisymm below.length_le short))

/-- If no position of one group lies inside one of another, each group can be looked at alone. -/
theorem outermost_flatMap {α : Type} (groups : List α) (positions : α → List Position)
    (apart : ∀ left ∈ groups, ∀ right ∈ groups, ∀ position ∈ positions left,
      ∀ other ∈ positions right, position.LiesInside other → left = right) :
    outermost (groups.flatMap positions) =
      groups.flatMap fun group => outermost (positions group) := by
  unfold outermost
  rw [List.filter_flatMap]
  apply List.flatMap_congr
  intro group groupMem
  apply List.filter_congr
  intro position mem
  rw [decide_eq_decide]
  constructor
  · intro alone other otherMem
    exact alone other (List.mem_flatMap.mpr ⟨group, groupMem, otherMem⟩)
  · intro alone other otherMem inside
    rcases List.mem_flatMap.mp otherMem with ⟨neighbour, neighbourMem, otherInside⟩
    have same := apart group groupMem neighbour neighbourMem position mem other otherInside inside
    exact alone other (same ▸ otherInside) inside

theorem outermost_cons_of_all_inside {first : Position} {rest : List Position}
    (inside : ∀ position ∈ rest, position.LiesInside first) :
    outermost (first :: rest) = [first] := by
  have keepsFirst : ∀ other ∈ first :: rest, ¬first.LiesInside other := by
    intro other mem
    apply not_liesInside_of_length_le
    rcases List.mem_cons.mp mem with rfl | later
    · exact Nat.le_refl _
    · exact (inside other later).1.length_le
  have dropsRest : ∀ position ∈ rest, ¬∀ other ∈ first :: rest, ¬position.LiesInside other := by
    intro position mem alone
    exact alone first List.mem_cons_self (inside position mem)
  rw [outermost, List.filter_cons_of_pos (by simpa using keepsFirst), List.filter_eq_nil_iff.mpr]
  intro position mem
  simpa using dropsRest position mem

namespace Tree

/--
The targets of a replacement are the outermost of the selected nodes. A node inside another one is
below the place of both, so one child holds the two, and the children can be looked at one by one.
-/
theorem targets_eq_outermost {tree : Tree} {selects : Position → Bool} (context : Context)
    (distinct : tree.Distinct) :
    tree.targets selects context = outermost ((tree.preorder context).filter selects) := by
  induction tree using contentInduction generalizing context with
  | step tree ih =>
      have inside := distinct.content
      have names := inside.names
      rw [preorder_eq, List.filter_append, List.filter_flatMap]
      rcases found : tree.target? selects context with _ | target
      · have noneHere : (tree.position? context).toList.filter selects = [] := by
          rw [target?] at found
          cases here : tree.position? context <;> simp_all
        rw [noneHere, List.nil_append, targets_of_none found, targetsOf_eq_flatMap,
          outermost_flatMap]
        · apply List.flatMap_congr
          intro frame frameMem
          have partMem := mem_parts_of_mem_children frameMem
          exact ih frame.tree partMem frame.context (inside.part partMem)
        · intro left leftMem right rightMem position positionMem other otherMem within
          apply eq_of_mem_children names leftMem rightMem
            (path_prefix_of_mem_preorder (List.mem_of_mem_filter positionMem))
          exact (path_prefix_of_mem_preorder (List.mem_of_mem_filter otherMem)).trans within.1
      · rcases Option.filter_eq_some_iff.mp found with ⟨here, selected⟩
        rw [targets_of_target? found, here]
        simp only [Option.toList_some, List.filter_cons, selected, if_true, List.filter_nil,
          List.singleton_append]
        rw [outermost_cons_of_all_inside]
        intro position mem
        rcases List.mem_flatMap.mp mem with ⟨frame, frameMem, inFrame⟩
        rcases path_longer_of_mem_child frameMem (List.mem_of_mem_filter inFrame) with
          ⟨below, longer⟩
        rw [← (position?_eq_some_iff.mp here).2.2] at below longer
        refine ⟨below, ?_⟩
        intro same
        simp [same] at longer

theorem targets_eq_outermost_findAll {tree : Tree} (kind : String) (predicate : Option Predicate)
    (distinct : tree.Distinct) :
    tree.targets (·.matches kind predicate) .root = outermost (tree.findAll kind predicate) := by
  rw [targets_eq_outermost .root distinct, findAll, positions_eq]

end Tree

/-! ## Results of computations that may fail and keep state -/

/-- Some run of the computation ends with this result. -/
def Returns {σ ε α : Type} (computation : ExceptT ε (StateM σ) α) (result : α) : Prop :=
  ∃ first last, computation.run.run first = (.ok result, last)

namespace Returns

variable {σ ε α β : Type}

theorem eq_of_pure {value result : α}
    (returns : Returns (pure value : ExceptT ε (StateM σ) α) result) : result = value := by
  rcases returns with ⟨first, last, ran⟩
  cases ran
  rfl

/-- A computation in two steps ends with a result of the second one. -/
theorem exists_of_bind {computation : ExceptT ε (StateM σ) α}
    {next : α → ExceptT ε (StateM σ) β} {result : β}
    (returns : Returns (computation >>= next) result) :
    ∃ value, Returns computation value ∧ Returns (next value) result := by
  rcases returns with ⟨first, last, ran⟩
  have split : (computation >>= next).run.run first =
      (ExceptT.bindCont next (computation.run.run first).1).run (computation.run.run first).2 := rfl
  rw [split] at ran
  cases outcome : computation.run.run first with
  | mk answer middle =>
      rw [outcome] at ran
      cases answer with
      | error error => cases ran
      | ok value => exact ⟨value, ⟨first, middle, outcome⟩, middle, last, ran⟩

theorem exists_of_map {computation : ExceptT ε (StateM σ) α} {change : α → β} {result : β}
    (returns : Returns (change <$> computation) result) :
    ∃ value, Returns computation value ∧ result = change value := by
  rw [← bind_pure_comp] at returns
  rcases exists_of_bind returns with ⟨value, returned, changed⟩
  exact ⟨value, returned, eq_of_pure changed⟩

/-- What holds of all results of the calls holds of the results that a row of calls collects. -/
theorem forall_mem_of_mapM {items : List α} {call : α → ExceptT ε (StateM σ) β}
    {property : β → Prop}
    (known : ∀ item ∈ items, ∀ result, Returns (call item) result → property result)
    {results : List β} (returns : Returns (items.mapM call) results) :
    ∀ result ∈ results, property result := by
  induction items generalizing results with
  | nil =>
      rw [List.mapM_nil] at returns
      simp [eq_of_pure returns]
  | cons item rest ih =>
      rw [List.mapM_cons] at returns
      rcases exists_of_bind returns with ⟨first, answered, further⟩
      rcases exists_of_bind further with ⟨others, later, collected⟩
      rw [eq_of_pure collected, List.forall_mem_cons]
      refine ⟨known item List.mem_cons_self first answered, ?_⟩
      exact ih (fun other mem => known other (List.mem_cons_of_mem item mem)) later

end Returns

/-! ## Calls of a closure -/

/-- Computes a new node, or fails, and changes its state in either case. -/
abbrev Closure (σ ε : Type) : Type := Position → σ → Except ε Tree × σ

namespace Closure

variable {σ ε : Type}

/-- The answers of a closure that is called on these positions in turn. -/
def answers (closure : Closure σ ε) : σ → List Position → List (Except ε Tree)
  | _, [] => []
  | state, position :: rest =>
      (closure position state).1 :: answers closure (closure position state).2 rest

theorem length_answers (closure : Closure σ ε) (state : σ) (calls : List Position) :
    (closure.answers state calls).length = calls.length := by
  induction calls generalizing state with
  | nil => rfl
  | cons position rest ih => simp [answers, ih]

/-- The answer at this index is an error, and all earlier ones are trees. -/
def FailsFirst (answers : List (Except ε Tree)) (index : Nat) (error : ε) : Prop :=
  answers[index]? = some (.error error) ∧
    ∀ earlier < index, ∃ new, answers[earlier]? = some (.ok new)

/-- Runs a closure, and keeps a log of the positions that it has been called on. -/
def logged (closure : Closure σ ε) (position : Position) :
    ExceptT ε (StateM (List Position × σ)) Tree :=
  ExceptT.mk fun (log, state) =>
    ((closure position state).1, (log ++ [position], (closure position state).2))

/-- The outcome of replacing all matches by a closure, and the calls that are made. -/
def replaceAll (closure : Closure σ ε) (identity : Identity) (kind : String)
    (predicate : Option Predicate) (state : σ) (tree : Tree) : Except ε Tree × List Position :=
  let replacement : Replacement (ExceptT ε (StateM (List Position × σ))) :=
    { kind, predicate, replace := closure.logged, firstOnly := false, identity }
  let (outcome, log, _) := (replacement.applyTo tree).run.run ([], state)
  (outcome, log)

theorem run_logged_bind {β : Type} (closure : Closure σ ε) (position : Position)
    (next : Tree → ExceptT ε (StateM (List Position × σ)) β) (log : List Position) (state : σ) :
    (closure.logged position >>= next).run.run (log, state) =
      match (closure position state).1 with
      | .ok new => (next new).run.run (log ++ [position], (closure position state).2)
      | .error error => (.error error, log ++ [position], (closure position state).2) := by
  have unfolded : (closure.logged position >>= next).run.run (log, state) =
      (ExceptT.bindCont next (closure position state).1).run
        (log ++ [position], (closure position state).2) := rfl
  rw [unfolded]
  cases (closure position state).1 <;> rfl

theorem run_map {α β : Type} (action : ExceptT ε (StateM σ) α) (change : α → β) (memory : σ) :
    (change <$> action).run.run memory =
      ((action.run.run memory).1.map change, (action.run.run memory).2) := by
  simp only [ExceptT.run_map, StateT.run_map]
  rfl

theorem run_mapM_logged_of_ok (closure : Closure σ ε) (calls log : List Position) (state : σ)
    (answered : ∀ answer ∈ closure.answers state calls, ∃ new, answer = .ok new) :
    ∃ news after, (calls.mapM closure.logged).run.run (log, state) =
      (.ok news, log ++ calls, after) := by
  induction calls generalizing log state with
  | nil => exact ⟨[], state, by simp; rfl⟩
  | cons position rest ih =>
      simp only [answers, List.forall_mem_cons] at answered
      rcases answered with ⟨⟨new, answer⟩, later⟩
      rcases ih (log ++ [position]) (closure position state).2 later with ⟨news, after, ran⟩
      refine ⟨new :: news, after, ?_⟩
      rw [List.mapM_cons, run_logged_bind, answer]
      simp only [bind_pure_comp]
      rw [run_map, ran]
      simp [Except.map]

theorem run_mapM_logged_of_error (closure : Closure σ ε) (calls log : List Position) (state : σ)
    (index : Nat) (error : ε) (fails : FailsFirst (closure.answers state calls) index error) :
    ∃ after, (calls.mapM closure.logged).run.run (log, state) =
      (.error error, log ++ calls.take (index + 1), after) := by
  induction calls generalizing log state index with
  | nil => simp [answers, FailsFirst] at fails
  | cons position rest ih =>
      rcases fails with ⟨failed, answered⟩
      rw [List.mapM_cons, run_logged_bind]
      cases index with
      | zero =>
          simp only [answers, List.getElem?_cons_zero, Option.some.injEq] at failed
          rw [failed]
          exact ⟨(closure position state).2, by simp⟩
      | succ index =>
          simp only [answers, List.getElem?_cons_succ] at failed
          rcases answered 0 (Nat.succ_pos index) with ⟨new, answer⟩
          simp only [answers, List.getElem?_cons_zero, Option.some.injEq] at answer
          have later : ∀ earlier < index, ∃ new,
              (closure.answers (closure position state).2 rest)[earlier]? = some (.ok new) := by
            intro earlier before
            simpa [answers] using answered (earlier + 1) (by omega)
          rcases ih (log ++ [position]) (closure position state).2 index ⟨failed, later⟩ with
            ⟨after, ran⟩
          refine ⟨after, ?_⟩
          rw [answer]
          simp only [bind_pure_comp]
          rw [run_map, ran]
          simp [Except.map]

theorem replaceAll_eq_fill (closure : Closure σ ε) (identity : Identity) (kind : String)
    (predicate : Option Predicate) (state : σ) (tree : Tree) :
    closure.replaceAll identity kind predicate state tree =
      let calls := tree.targets (·.matches kind predicate) .root
      let ran := (calls.mapM closure.logged).run.run ([], state)
      (ran.1.map fun news => tree.fill (·.matches kind predicate) .root news, ran.2.1) := by
  have filled := Replacement.applyTo_eq_fill
    { kind, predicate, replace := closure.logged, firstOnly := false, identity } rfl tree
  rw [replaceAll, filled, run_map]
  rfl

theorem replaceAll_eq (closure : Closure σ ε) (identity : Identity) (kind : String)
    (predicate : Option Predicate) (state : σ) {tree : Tree} (distinct : tree.Distinct) :
    closure.replaceAll identity kind predicate state tree =
      let ran := ((outermost (tree.findAll kind predicate)).mapM closure.logged).run.run ([], state)
      (ran.1.map fun news => tree.fill (·.matches kind predicate) .root news, ran.2.1) := by
  rw [replaceAll_eq_fill, Tree.targets_eq_outermost_findAll kind predicate distinct]

/--
A closure is called on the results of the search for the same nodes, without those that lie inside
another one. If a call fails and all earlier ones are answered, then that call is the last one and
its error is the outcome. If all calls are answered, then all are made and the outcome is a tree.
-/
theorem replaceAll_calls_outermost (closure : Closure σ ε) (identity : Identity) (kind : String)
    (predicate : Option Predicate) (state : σ) (tree : Tree) (distinct : tree.Distinct) :
    let calls := outermost (tree.findAll kind predicate)
    let answers := closure.answers state calls
    let (outcome, log) := closure.replaceAll identity kind predicate state tree
    (∀ (index : Nat) (error : ε), FailsFirst answers index error →
      log = calls.take (index + 1) ∧ log.length = index + 1 ∧ outcome = .error error) ∧
    ((∀ answer ∈ answers, ∃ new, answer = .ok new) →
      log = calls ∧ ∃ result, outcome = .ok result) := by
  intro calls answers
  rw [replaceAll_eq closure identity kind predicate state distinct]
  constructor
  · intro index error fails
    have made : index < calls.length := by
      rw [← closure.length_answers state calls]
      exact (List.getElem?_eq_some_iff.mp fails.1).1
    rcases run_mapM_logged_of_error closure (outermost (tree.findAll kind predicate)) [] state index
      error fails with ⟨after, ran⟩
    simp only [ran, List.nil_append]
    refine ⟨rfl, ?_, rfl⟩
    rw [List.length_take]
    exact Nat.min_eq_left made
  · intro answered
    rcases run_mapM_logged_of_ok closure (outermost (tree.findAll kind predicate)) [] state
      answered with ⟨news, after, ran⟩
    simp only [ran, List.nil_append]
    exact ⟨rfl, _, rfl⟩

/-- Three statements side by side, the first with a statement inside. -/
def nestedSelects : Tree :=
  .list [.node "SelectStmt" (.object [("larg", .node "SelectStmt" (.object []))]),
    .node "SelectStmt" (.object []), .list [.node "SelectStmt" (.object [])]]

def failsSecond : Closure Nat String := fun position count =>
  if count = 1 then (.error "second call", count + 1) else (.ok position.wrapped, count + 1)

theorem failsSecond_stops :
    let calls := outermost (nestedSelects.findAll "SelectStmt" none)
    let (outcome, log) := failsSecond.replaceAll .ofContent "SelectStmt" none 0 nestedSelects
    nestedSelects.Distinct ∧ calls.length = 3 ∧ log = calls.take 2 ∧
      outcome = .error "second call" := by
  intro calls
  have distinct : nestedSelects.Distinct := by decide
  have three : calls.length = 3 := by decide +kernel
  rcases List.length_eq_three.mp three with ⟨first, second, third, listed⟩
  have fails : FailsFirst (failsSecond.answers 0 calls) 1 "second call" := by
    refine ⟨by simp [listed, answers, failsSecond], ?_⟩
    intro earlier before
    obtain rfl : earlier = 0 := by omega
    simp [listed, answers, failsSecond]
  rcases (replaceAll_calls_outermost failsSecond .ofContent "SelectStmt" none 0 nestedSelects
    distinct).1 1 "second call" fails with ⟨logged, _, outcome⟩
  exact ⟨distinct, three, logged, outcome⟩

end Closure

end SqlTree

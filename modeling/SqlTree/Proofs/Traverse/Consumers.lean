import SqlTree.Node.Relation
import SqlTree.Proofs.Traverse.Search
import SqlTree.Proofs.Tree.Repeated
import SqlTree.Traverse.Visit

/-!
# All consumers of a walk agree

The searches and the visitors of a tree step one and the same walker, each as far as it has to. The
first match, whether there is a match and how many there are can be told from the list of all
matches, and that list can be gone through lazily: a walker that is stopped right behind a match has
the later matches still in front of it, and any search that goes on from there answers for them.

A visitor that was given several callbacks calls one at most for a node. Which one is told by the
registrations alone, the last one for the kind of the node. So a visit can be taken apart into the
list of its calls and the running of that list.
-/

namespace SqlTree

namespace Walker

/-- Asked as many times as there are positions here, the walker reports them, and this is left. -/
inductive Reports : Walker → List Position → Walker → Prop
  | stay (walker : Walker) : Reports walker [] walker
  | step {walker next rest : Walker} {position : Position} {positions : List Position}
      (found : next? walker = some (position, next)) (later : Reports next positions rest) :
      Reports walker (position :: positions) rest

theorem positions_of_next? {walker next : Walker} {position : Position}
    (found : next? walker = some (position, next)) :
    walker.positions = position :: next.positions := by
  rw [positions_eq_preorder, preorder_eq_of_next?, found, positions_eq_preorder]

/-- A walker can be stopped anywhere, and has then reported one part and keeps the other. -/
theorem exists_reports {walker : Walker} {front back : List Position}
    (split : walker.positions = front ++ back) :
    ∃ rest, walker.Reports front rest ∧ rest.positions = back := by
  induction front generalizing walker with
  | nil => exact ⟨walker, .stay walker, split⟩
  | cons position front ih =>
      cases found : next? walker with
      | none =>
          rw [positions_eq_preorder, preorder_eq_of_next?, found] at split
          cases split
      | some step =>
          rcases step with ⟨reported, next⟩
          rw [positions_of_next? found, List.cons_append, List.cons.injEq] at split
          rcases split with ⟨rfl, remaining⟩
          rcases ih remaining with ⟨rest, later, left⟩
          exact ⟨rest, .step found later, left⟩

end Walker

namespace Tree

theorem count_eq_length_findAll (tree : Tree) (kind : String) (predicate : Option Predicate) :
    tree.count kind predicate = (tree.findAll kind predicate).length := by
  rw [count, Walker.count_eq, Walker.preorder_start, findAll, positions_eq,
    List.countP_eq_length_filter]

/-- Behind a match, the walker has seen the earlier ones and has the later ones in front of it. -/
theorem exists_reports_of_findAll {tree : Tree} {kind : String} {predicate : Option Predicate}
    {earlier later : List Position} {found : Position}
    (split : tree.findAll kind predicate = earlier ++ found :: later) :
    ∃ passed rest, (Walker.start tree).Reports (passed ++ [found]) rest ∧
      passed.filter (·.matches kind predicate) = earlier ∧
      rest.preorder.filter (·.matches kind predicate) = later := by
  rcases List.filter_eq_append_iff.mp split with ⟨front, middle, whole, early, fromFound⟩
  rcases List.filter_eq_cons_iff.mp fromFound with ⟨between, back, rfl, rejected, -, late⟩
  have reported : (Walker.start tree).positions = (front ++ between ++ [found]) ++ back := by
    rw [← Tree.positions, whole]
    simp
  rcases Walker.exists_reports reported with ⟨rest, reports, remaining⟩
  refine ⟨front ++ between, rest, reports, ?_, ?_⟩
  · rw [List.filter_append, early, List.filter_eq_nil_iff.mpr rejected, List.append_nil]
  · rw [← Walker.positions_eq_preorder, remaining, late]

end Tree

/-! ## Visits -/

namespace Visitor

variable {m : Type → Type} {β : Type}

/-- The visitor that is given these callbacks one after the other. -/
def ofRegistrations (registrations : List (String × (Position → m Unit))) : Visitor m :=
  registrations.foldl (fun visitor registration => visitor.on registration.1 registration.2) empty

/--
The calls of a visit: for each node whose kind has been registered, the node and what was registered
last for its kind.
-/
def calls (registrations : List (String × β)) (tree : Tree) : List (β × Position) :=
  tree.positions.filterMap fun position =>
    (Fields.get? position.kind registrations.reverse).map fun callback => (callback, position)

theorem callbacks_ofRegistrations (registrations : List (String × (Position → m Unit))) :
    (ofRegistrations registrations).callbacks = Fields.ofPairs registrations := by
  have run (visitor : Visitor m) :
      (registrations.foldl (fun visitor registration =>
        visitor.on registration.1 registration.2) visitor).callbacks =
      Fields.merge visitor.callbacks registrations := by
    induction registrations generalizing visitor with
    | nil => rfl
    | cons registration rest ih => exact ih (visitor.on registration.1 registration.2)
  exact run empty

theorem visit_ofRegistrations [Monad m] [LawfulMonad m]
    (registrations : List (String × (Position → m Unit))) (tree : Tree) :
    (ofRegistrations registrations).visit tree =
      (calls registrations tree).forM fun call => call.1 call.2 := by
  rw [visit, calls]
  induction tree.positions with
  | nil => rfl
  | cons position rest ih =>
      simp only [List.forM_eq_forM] at ih
      cases last : Fields.get? position.kind registrations.reverse with
      | none =>
          have answer : (ofRegistrations registrations).call position = pure () := by
            rw [call, callbacks_ofRegistrations, Fields.get?_ofPairs, last]
          simp [answer, last, ih]
      | some callback =>
          have answer : (ofRegistrations registrations).call position = callback position := by
            rw [call, callbacks_ofRegistrations, Fields.get?_ofPairs, last]
          simp [answer, last, ih]

theorem map_position_calls (registrations : List (String × β)) (tree : Tree) :
    (calls registrations tree).map (·.2) =
      tree.positions.filter fun position => position.kind ∈ Fields.keys registrations := by
  rw [calls, List.map_filterMap, ← List.filterMap_eq_filter]
  apply List.filterMap_congr
  intro position _
  have registered : position.kind ∈ Fields.keys registrations ↔
      (Fields.get? position.kind registrations.reverse).isSome = true := by
    simp [Fields.get?_isSome, Fields.keys]
  cases last : Fields.get? position.kind registrations.reverse <;>
    simp [registered, last, Option.guard]

theorem calls_of_kind {registrations : List (String × β)} {kind : String} {callback : β}
    (last : Fields.get? kind registrations.reverse = some callback) (tree : Tree) :
    (calls registrations tree).filter (·.2.kind = kind) =
      (tree.findAll kind none).map fun position => (callback, position) := by
  rw [calls, Tree.findAll, List.filter_filterMap, ← List.filterMap_eq_filter, List.map_filterMap]
  apply List.filterMap_congr
  intro position _
  by_cases same : position.kind = kind
  · simp [same, last, Position.matches, Option.guard]
  · cases Fields.get? position.kind registrations.reverse <;>
      simp [same, Position.matches, Option.guard]

end Visitor

/--
The first match, whether there is one and how many there are can be read off the list of all
matches. A walker that is stopped right behind any match answers the same of the matches that come
later. A visitor with several callbacks runs through the nodes whose kind was registered, in order,
and calls for each the callback that was registered last.
-/
theorem Tree.consumers_agree (tree : Tree) (kind : String) (predicate : Option Predicate) :
    tree.find? kind predicate = (tree.findAll kind predicate).head? ∧
    (tree.has kind predicate = true ↔ tree.findAll kind predicate ≠ []) ∧
    tree.count kind predicate = (tree.findAll kind predicate).length ∧
    (∀ earlier found later, tree.findAll kind predicate = earlier ++ found :: later →
      ∃ passed rest, (Walker.start tree).Reports (passed ++ [found]) rest ∧
        passed.filter (·.matches kind predicate) = earlier ∧
        rest.find? (·.matches kind predicate) = later.head? ∧
        (rest.any (·.matches kind predicate) = true ↔ later ≠ []) ∧
        rest.count (·.matches kind predicate) = later.length) ∧
    ∀ {m : Type → Type} [Monad m] [LawfulMonad m]
      (registrations : List (String × (Position → m Unit))),
      (Visitor.ofRegistrations registrations).visit tree =
        (Visitor.calls registrations tree).forM (fun call => call.1 call.2) ∧
      (Visitor.calls registrations tree).map (·.2) =
        tree.positions.filter (fun position => position.kind ∈ Fields.keys registrations) ∧
      ∀ registered callback,
        Fields.get? registered registrations.reverse = some callback →
        (Visitor.calls registrations tree).filter (·.2.kind = registered) =
          (tree.findAll registered none).map fun position => (callback, position) := by
  refine ⟨find?_eq_head?_findAll tree kind predicate, has_iff_findAll_ne_nil tree kind predicate,
    count_eq_length_findAll tree kind predicate, ?_, ?_⟩
  · intro earlier found later split
    rcases exists_reports_of_findAll split with ⟨passed, rest, reports, before, behind⟩
    refine ⟨passed, rest, reports, before, ?_, ?_, ?_⟩
    · rw [Walker.find?_eq, ← behind, List.head?_filter]
    · rw [Walker.any_eq, ← behind, List.any_eq_true, Ne, List.filter_eq_nil_iff]
      simp
    · rw [Walker.count_eq, ← behind, List.countP_eq_length_filter]
  · intro m _ _ registrations
    exact ⟨Visitor.visit_ofRegistrations registrations tree,
      Visitor.map_position_calls registrations tree,
      fun _ _ last => Visitor.calls_of_kind last tree⟩

namespace Tree

def twoTables : Tree := .list [Node.table "users", Node.table "orders"]

/-- Notes the kind of each table, and then, registered later, its relation instead. -/
def noteRelations : List (String × (Position → StateM (List String) Unit)) :=
  [("RangeVar", fun position => modify (· ++ [position.kind])),
    ("RangeVar", fun position =>
      modify (· ++ ((position.record.get? "relname").bind text?).toList))]

theorem twoTables_consumed :
    (∃ first second, twoTables.findAll "RangeVar" none = [first, second] ∧
      ∃ passed rest, (Walker.start twoTables).Reports (passed ++ [first]) rest ∧
        rest.find? (·.matches "RangeVar" none) = some second ∧
        rest.count (·.matches "RangeVar" none) = 1) ∧
    (((Visitor.ofRegistrations noteRelations).visit twoTables).run []).run =
      ((), ["users", "orders"]) := by
  have agree := consumers_agree twoTables "RangeVar" none
  constructor
  · have matched : (twoTables.findAll "RangeVar" none).length = 2 := by decide +kernel
    rcases List.length_eq_two.mp matched with ⟨first, second, both⟩
    rcases agree.2.2.2.1 [] first [second] both with ⟨passed, rest, reports, -, next, -, left⟩
    exact ⟨first, second, both, passed, rest, reports, next, left⟩
  · rw [(agree.2.2.2.2 noteRelations).1]
    decide +kernel

end Tree

end SqlTree

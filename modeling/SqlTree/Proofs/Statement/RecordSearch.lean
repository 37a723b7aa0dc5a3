import SqlTree.Proofs.Statement.Lineage
import SqlTree.Proofs.Traverse.First
import SqlTree.Proofs.Traverse.Substitution
import SqlTree.Traverse.Predicate

/-!
# Searching from a record

A builder of a node holds the record without its kind, and a search of it starts at the record. The
walker steps from a node straight into its record, with the context of the node. So a walk from the
record goes the same way, with the same contexts, and reports all that a walk from the node reports
but for the node itself. It would go another way only if the record were a node in turn: as the
record of the node it is walked through, and by itself it is reported.

What a search gives back is wrapped in builders of its own, and a replacement unwraps what it is
given. Nothing is lost between the two, so a replacement of nodes by themselves leaves a builder as
it is.
-/

namespace SqlTree

namespace Tree

/-- A walk from a node reports the node, and goes on as a walk from its record. -/
theorem positions_of_tagged? {tree record : Tree} {kind : String}
    (tagged : tree.tagged? = some (kind, record)) (bare : record.tagged? = none) :
    tree.positions = ⟨kind, record, tree, .root⟩ :: record.positions := by
  rw [positions_eq, positions_eq, preorder_of_tagged? .root tagged,
    preorder_of_untagged .root bare]

/-- The matches of a record are those of its node, except for the node itself. -/
theorem findAll_record {tree record : Tree} {kind : String}
    (tagged : tree.tagged? = some (kind, record)) (bare : record.tagged? = none)
    (sought : String) (predicate : Option Predicate) :
    record.findAll sought predicate =
      (tree.findAll sought predicate).filter fun position => position.context.path ≠ [] := by
  have below : record.positions.filter (fun position => position.context.path ≠ []) =
      record.positions := by
    apply List.filter_eq_self.mpr
    intro position mem
    exact decide_eq_true (path_ne_nil_of_mem_positions bare mem)
  rw [findAll, findAll, List.filter_comm, positions_of_tagged? tagged bare,
    List.filter_cons_of_neg (by simp), below]

/-- A match stands at its path, and is the node of its record. -/
theorem wrapped_of_mem_findAll {tree : Tree} (distinct : tree.Distinct) {kind : String}
    {predicate : Option Predicate} {position : Position}
    (mem : position ∈ tree.findAll kind predicate) :
    tree.resolve? position.context.path = some position.wrapped ∧
      position.wrapped = .node kind position.record := by
  rcases List.mem_filter.mp mem with ⟨reported, selected⟩
  rw [positions_eq] at reported
  rcases describes_of_mem_preorder distinct (Context.describes_root tree) reported with
    ⟨describes, tagged⟩
  refine ⟨describes.resolves, ?_⟩
  rw [← Position.kind_eq_of_matches selected]
  exact (tagged?_eq_some_iff.mp tagged).2

section

variable {m : Type → Type} [Monad m] [LawfulMonad m]

/--
Replacing nodes by themselves changes nothing, wherever the replacement stops. Everywhere it is
substitution, which rebuilds the tree; once it writes at the path of a match.
-/
theorem replaceNodes_eq_pure_self {tree : Tree} (distinct : tree.Distinct) {kind : String}
    {predicate : Option Predicate} {replace : Position → m Tree}
    (kept : ∀ position ∈ tree.findAll kind predicate, replace position = pure position.wrapped)
    (firstOnly : Bool) : tree.replaceNodes kind predicate replace firstOnly = pure tree := by
  cases firstOnly with
  | false =>
      rw [replaceNodes, Replacement.applyTo_eq_fill _ rfl]
      refine (fill_mapM_targets .root tree).trans ?_
      apply substituteM_eq_pure_self
      intro position mem
      exact kept position (mem_findAll_of_mem_targets mem)
  | true =>
      rw [replaceNodes, Replacement.applyTo_eq_put _ rfl distinct]
      cases first : tree.find? kind predicate with
      | none => rfl
      | some position =>
          have mem : position ∈ tree.findAll kind predicate := by
            rw [find?_eq_head?_findAll] at first
            exact List.mem_of_head? first
          change tree.put position.context.path <$> replace position = pure tree
          rw [kept position mem, map_pure,
            put_of_resolve? (wrapped_of_mem_findAll distinct mem).1]

end

end Tree

namespace Builder

theorem toNode_ofRecord (kind : String) (record : Tree) (parser : Option Parser) :
    Statement.toNode (ofRecord kind record parser) = .node kind record :=
  congrArg Query.toNode (toQuery_ofQuery ⟨record, some kind, parser⟩)

/--
A search of the builder of a node agrees with a search of the node. The walk that it makes is the
walk from the node without its first position, with the same records and the same contexts for a
test to look at. So the nodes that it finds are those found from the node, except for the node
itself, and the first of them and whether there is one are asked of the same list. Replacing what
is found by itself, everywhere or once, gives the builder back.
-/
theorem search_agrees_with_node {tree record : Tree} {kind : String} (distinct : tree.Distinct)
    (tagged : tree.tagged? = some (kind, record)) (bare : record.tagged? = none)
    (parser : Option Parser) (sought : String) (predicate : Option Predicate) :
    let builder := ofTree tree parser
    let found := Statement.findAll builder sought predicate
    tree.positions = ⟨kind, record, tree, .root⟩ :: (Statement.record builder).positions ∧
    found.map Statement.toNode =
      ((tree.findAll sought predicate).filter fun position =>
        position.context.path ≠ []).map (·.wrapped) ∧
    Statement.find? builder sought predicate = found.head? ∧
    (Statement.has builder sought predicate = true ↔ found ≠ []) ∧
    ∀ {m : Type → Type} [Monad m] [LawfulMonad m] (firstOnly : Bool),
      Statement.replaceNodes (m := m) builder sought predicate
        (fun node => pure (Statement.toNode node)) firstOnly = pure builder := by
  intro builder found
  have reading : tree.Reading (some kind) record := .node tagged
  have held : Statement.record builder = record := (reading.answers parser).2.2.1
  have inside : record.Distinct := by
    have content := distinct.content
    rwa [Tree.content_of_tagged? tagged] at content
  refine ⟨?_, ?_, ?_, ?_, ?_⟩
  · rw [held]
    exact Tree.positions_of_tagged? tagged bare
  · change (((Statement.record builder).findAll sought predicate).map
      (Statement.detach builder)).map Statement.toNode = _
    rw [← Tree.findAll_record tagged bare, ← held, List.map_map]
    apply List.map_congr_left
    intro position mem
    have wrapped := (Tree.wrapped_of_mem_findAll (held ▸ inside) mem).2
    have selected := Position.kind_eq_of_matches (List.mem_filter.mp mem).2
    rw [wrapped, ← selected]
    exact toNode_ofRecord position.kind position.record _
  · rw [Statement.find?, Tree.find?_eq_head?_findAll, ← List.head?_map]
    rfl
  · rw [Statement.has, Tree.has_iff_findAll_ne_nil]
    simp [found, Statement.findAll]
  · intro m _ _ firstOnly
    have same : (Statement.toQuery builder).withRecord (Statement.record builder) =
      builder.toQuery := rfl
    rw [Statement.replaceNodes, Tree.replaceNodes_eq_pure_self (held ▸ inside), pure_bind, same]
    · exact congrArg pure (fits_ofTree tree parser).ofQuery_toQuery
    · intro position mem
      rw [toNode_ofRecord, (Tree.wrapped_of_mem_findAll (held ▸ inside) mem).2]

/-- A SELECT with one in its FROM clause and one as an arm. -/
def nestedSelects : Tree :=
  .node "SelectStmt" (.object [
    ("fromClause", .list [.node "RangeSubselect" (.object [
      ("subquery", .node "SelectStmt" (.object [("op", .text "SETOP_NONE")]))])]),
    ("larg", .node "SelectStmt" (.object []))])

theorem nestedSelects_found_from_record :
    let builder := ofTree nestedSelects none
    nestedSelects.count "SelectStmt" none = 3 ∧
      (Statement.findAll builder "SelectStmt" none).map Statement.toNode =
        [.node "SelectStmt" (.object [("op", .text "SETOP_NONE")]),
          .node "SelectStmt" (.object [])] ∧
      Statement.has builder "SelectStmt" (some (Predicate.below "larg")) = true ∧
      Statement.replaceNodes (m := Except Error) builder "SelectStmt" none
        (fun node => pure (Statement.toNode node)) true = .ok builder := by
  intro builder
  have distinct : nestedSelects.Distinct := by decide
  rcases search_agrees_with_node distinct rfl rfl none "SelectStmt" none with
    ⟨-, nodes, -, -, kept⟩
  rcases search_agrees_with_node distinct rfl rfl none "SelectStmt"
    (some (Predicate.below "larg")) with ⟨-, below, -, has, -⟩
  have three : nestedSelects.count "SelectStmt" none = 3 := by decide +kernel
  refine ⟨three, nodes.trans (by decide +kernel), has.mpr ?_, kept true⟩
  intro none
  rw [none] at below
  revert below
  decide +kernel

end Builder

end SqlTree

import SqlTree.Node.Relation
import SqlTree.Proofs.Traverse.Outermost
import SqlTree.Proofs.Traverse.Search
import SqlTree.Traverse.Predicate

/-!
# Where a name is mentioned

The tests `mentionsTable` and `mentionsColumn` look at a record and start a walk of their own from
it. The nodes that this walk reports carry paths that begin at the record, and not at the root of
the tree in which the record was found. This file says what the tests mean in that tree: they hold
of a node exactly if the node refers to the name itself or lies above one that does.

What is behind it is that a place can be reached in one go or in two. A path from the root that goes
through a node continues in the record of the node, and every path in the record continues the path
of the node. A record that is a node in turn is left out: a walk that starts at it reports it, while
a walk that comes through its own node passes it by.
-/

namespace SqlTree

namespace Tree

/-! ## What it is to refer to a name -/

/-- The record is that of a relation with this name. -/
def IsCalled (record : Tree) (name : String) : Prop := record.textAt? "relname" = some name

/-- The record has a target relation with this name. -/
def TargetsTable (record : Tree) (name : String) : Prop :=
  ∃ relation, record.get? "relation" = some relation ∧ relation.IsCalled name

/-- One of the names in the record is this one, or they are several and it is all of them. -/
def NamesColumn (record : Tree) (name : String) : Prop :=
  name ∈ Node.columnNames record ∨
    2 ≤ (Node.columnNames record).length ∧ Text.join "." (Node.columnNames record) = name

instance (record : Tree) (name : String) : Decidable (record.IsCalled name) :=
  inferInstanceAs (Decidable (_ = _))

instance (record : Tree) (name : String) : Decidable (record.TargetsTable name) :=
  decidable_of_iff ((record.get? "relation").any fun relation => decide (relation.IsCalled name))
    (by simp [TargetsTable, Option.any_eq_true])

instance (record : Tree) (name : String) : Decidable (record.NamesColumn name) :=
  inferInstanceAs (Decidable (_ ∨ _))

end Tree

/-- A reference to a table is a node of its own, or the bare record of a target in another node. -/
def Position.RefersToTable (position : Position) (name : String) : Prop :=
  (position.kind = "RangeVar" ∧ position.record.IsCalled name) ∨
    (position.kind ≠ "RangeVar" ∧ position.record.TargetsTable name)

def Position.RefersToColumn (position : Position) (name : String) : Prop :=
  position.kind = "ColumnRef" ∧ position.record.NamesColumn name

instance (position : Position) (name : String) : Decidable (position.RefersToTable name) :=
  inferInstanceAs (Decidable (_ ∨ _))

instance (position : Position) (name : String) : Decidable (position.RefersToColumn name) :=
  inferInstanceAs (Decidable (_ ∧ _))

namespace Predicate

theorem hasRelationName_iff (name : String) (record : Tree) :
    hasRelationName name record = true ↔ record.IsCalled name := by
  simp [hasRelationName, Tree.IsCalled]

theorem targetsRelation_iff (name : String) (record : Tree) :
    targetsRelation name record = true ↔ record.TargetsTable name := by
  simp [targetsRelation, Tree.TargetsTable, Option.any_eq_true, hasRelationName_iff]

theorem hasColumnName_iff (name : String) (record : Tree) :
    hasColumnName name record = true ↔ record.NamesColumn name := by
  simp [hasColumnName, Tree.NamesColumn, Nat.succ_le_iff]

/-- A test on the record, and on the nodes that a walk from the record reports. -/
theorem mentionsTable_iff (name : String) (record : Tree) (context : Context) :
    mentionsTable name record context = true ↔
      record.IsCalled name ∨ record.TargetsTable name ∨
        ∃ inner ∈ record.positions, inner.RefersToTable name := by
  have here (position : Position) :
      (if position.kind = "RangeVar" then hasRelationName name position.record
        else targetsRelation name position.record) = true ↔ position.RefersToTable name := by
    rw [Position.RefersToTable]
    split
    · next reference => simp [reference, hasRelationName_iff]
    · next other => simp [other, targetsRelation_iff]
  rw [mentionsTable, Walker.any_eq, Walker.preorder_start, ← Tree.positions_eq]
  simp only [Bool.or_eq_true, List.any_eq_true, hasRelationName_iff, targetsRelation_iff, here,
    or_assoc]

theorem mentionsColumn_iff (name : String) (record : Tree) (context : Context) :
    mentionsColumn name record context = true ↔
      record.NamesColumn name ∨ ∃ inner ∈ record.positions, inner.RefersToColumn name := by
  rw [mentionsColumn, Walker.any_eq, Walker.preorder_start, ← Tree.positions_eq]
  simp [hasColumnName_iff, Position.RefersToColumn]

end Predicate

/-! ## One walk inside another -/

namespace Tree

/-- A path that goes through a node continues in its record. -/
theorem resolve?_below {root node record : Tree} {kind : String} {front back : List Segment}
    (reached : root.resolve? front = some node) (tagged : node.tagged? = some (kind, record))
    (bare : record.tagged? = none) (further : back ≠ []) :
    root.resolve? (front ++ back) = record.resolve? back := by
  rcases back with _ | ⟨segment, rest⟩
  · exact absurd rfl further
  · rw [resolve?_append, reached, Option.bind_some, resolve?, resolve?, content_of_tagged? tagged,
      content_of_untagged bare]

/-- A reported node is told by the tree that it wraps. -/
theorem kind_and_record_of_mem_preorder {tree node record : Tree} {kind : String}
    {position : Position} (distinct : tree.Distinct) (mem : position ∈ tree.preorder .root)
    (wrapped : position.wrapped = node) (tagged : node.tagged? = some (kind, record)) :
    position.kind = kind ∧ position.record = record := by
  have own := (describes_of_mem_preorder distinct (Context.describes_root tree) mem).2
  rw [wrapped, tagged] at own
  cases own
  exact ⟨rfl, rfl⟩

/--
The nodes that a walk from the record of a node reports are those that lie inside the node. At the
end of the path there is the same node in both trees, and only the contexts of the walks differ.
-/
theorem exists_inside_iff {tree : Tree} (distinct : tree.Distinct) {node : Position}
    (reported : node ∈ tree.positions) (bare : node.record.tagged? = none)
    (property : String → Tree → Prop) :
    (∃ inner ∈ node.record.positions, property inner.kind inner.record) ↔
      ∃ inner ∈ tree.positions, inner.LiesInside node ∧ property inner.kind inner.record := by
  rw [positions_eq] at reported
  rcases describes_of_mem_preorder distinct (Context.describes_root tree) reported with
    ⟨describes, tagged⟩
  have inside : node.record.Distinct := by
    have content := (distinct.resolve? describes.resolves).content
    rwa [content_of_tagged? tagged] at content
  constructor
  · rintro ⟨inner, mem, holds⟩
    have further := path_ne_nil_of_mem_positions bare mem
    rw [positions_eq] at mem
    rcases describes_of_mem_preorder inside (Context.describes_root node.record) mem with
      ⟨innerDescribes, innerTagged⟩
    have place := (resolve?_below describes.resolves tagged bare further).trans
      innerDescribes.resolves
    rcases exists_mem_preorder_of_resolve? .root place (by simp [innerTagged]) with
      ⟨outer, outerMem, path, wrapped⟩
    rcases kind_and_record_of_mem_preorder distinct outerMem wrapped innerTagged with ⟨kind, record⟩
    rw [Context.path_root, List.nil_append] at path
    refine ⟨outer, positions_eq tree ▸ outerMem, ⟨?_, ?_⟩, by rwa [kind, record]⟩
    · exact ⟨inner.context.path, path.symm⟩
    · intro same
      exact further (List.self_eq_append_right.mp (same.trans path))
  · rintro ⟨inner, mem, ⟨⟨back, path⟩, different⟩, holds⟩
    have further : back ≠ [] := by
      rintro rfl
      exact different (by rw [← path, List.append_nil])
    rw [positions_eq] at mem
    rcases describes_of_mem_preorder distinct (Context.describes_root tree) mem with
      ⟨innerDescribes, innerTagged⟩
    have place := resolve?_below describes.resolves tagged bare further
    rw [path, innerDescribes.resolves] at place
    rcases exists_mem_preorder_of_resolve? .root place.symm (by simp [innerTagged]) with
      ⟨found, foundMem, -, wrapped⟩
    rcases kind_and_record_of_mem_preorder inside foundMem wrapped innerTagged with ⟨kind, record⟩
    exact ⟨found, positions_eq node.record ▸ foundMem, by rwa [kind, record]⟩

/--
A test for a mention of a name holds of a node exactly if the node refers to the name itself or a
node inside it does. The tests start a walk at the record of the node, and the nodes inside are
those of the walk from the root.
-/
theorem mentions_at_and_above_references (tree : Tree) (distinct : tree.Distinct) (name : String)
    {node : Position} (reported : node ∈ tree.positions) (bare : node.record.tagged? = none) :
    (Predicate.mentionsTable name node.record node.context = true ↔
      node.record.IsCalled name ∨ node.record.TargetsTable name ∨
        ∃ inner ∈ tree.positions, inner.LiesInside node ∧ inner.RefersToTable name) ∧
    (Predicate.mentionsColumn name node.record node.context = true ↔
      node.record.NamesColumn name ∨
        ∃ inner ∈ tree.positions, inner.LiesInside node ∧ inner.RefersToColumn name) := by
  constructor
  · rw [Predicate.mentionsTable_iff]
    exact or_congr_right (or_congr_right
      (exists_inside_iff distinct reported bare fun kind record =>
        (kind = "RangeVar" ∧ record.IsCalled name) ∨
          (kind ≠ "RangeVar" ∧ record.TargetsTable name)))
  · rw [Predicate.mentionsColumn_iff]
    exact or_congr_right (exists_inside_iff distinct reported bare fun kind record =>
      kind = "ColumnRef" ∧ record.NamesColumn name)

/-- A join with an UPDATE inside, whose target is a bare record. -/
def joinedUpdate : Tree :=
  node "SelectStmt" (.object [("fromClause", .list [node "JoinExpr" (.object [
    ("larg", Node.table "users"),
    ("rarg", node "UpdateStmt" (.object [
      ("relation", Node.relation "orders"), ("whereClause", Node.column "o.id")]))])])])

/-- The second node of the walk. -/
def updateJoin : Position := joinedUpdate.positions.get ⟨1, by decide +kernel⟩

theorem updateJoin_mentions_target :
    joinedUpdate.Distinct ∧ updateJoin ∈ joinedUpdate.positions ∧ updateJoin.kind = "JoinExpr" ∧
      updateJoin.record.tagged? = none ∧
      Predicate.mentionsTable "orders" updateJoin.record updateJoin.context = true ∧
      ¬Predicate.mentionsTable "o" updateJoin.record updateJoin.context = true ∧
      Predicate.mentionsColumn "o.id" updateJoin.record updateJoin.context = true := by
  have distinct : joinedUpdate.Distinct := by decide
  have mem : updateJoin ∈ joinedUpdate.positions := List.get_mem _ _
  have bare : updateJoin.record.tagged? = none := by decide +kernel
  refine ⟨distinct, mem, by decide +kernel, bare, ?_, ?_, ?_⟩
  · rw [(mentions_at_and_above_references joinedUpdate distinct "orders" mem bare).1]
    decide +kernel
  · rw [(mentions_at_and_above_references joinedUpdate distinct "o" mem bare).1]
    decide +kernel
  · rw [(mentions_at_and_above_references joinedUpdate distinct "o.id" mem bare).2]
    decide +kernel

end Tree

end SqlTree

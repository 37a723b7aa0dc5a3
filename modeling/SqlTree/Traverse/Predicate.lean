import SqlTree.Node.Name
import SqlTree.Traverse.Walk

/-!
# Predicates

Tests for searches and replacements. `mentionsTable` and `mentionsColumn` look at a node's own
record and at every node inside it; the others look at the record or the context alone.
-/

namespace SqlTree.Predicate

def hasRelationName (name : String) (record : Tree) : Bool := record.textAt? "relname" == some name

/-- Is the target relation of a record called this? Targets stand in a record without a kind. -/
def targetsRelation (name : String) (record : Tree) : Bool :=
  (record.get? "relation").any (hasRelationName name)

/-- The node is a reference to the table, or there is one inside it. -/
def mentionsTable (name : String) : Predicate := fun record _ =>
  hasRelationName name record || targetsRelation name record ||
    (Walker.start record).any fun position =>
      if position.kind = "RangeVar" then hasRelationName name position.record
      else targetsRelation name position.record

/-- Does a column record have this name as one of its parts, or as all of them joined by dots? -/
def hasColumnName (name : String) (record : Tree) : Bool :=
  let parts := Node.columnNames record
  parts.contains name || (parts.length > 1 && Text.join "." parts == name)

def mentionsColumn (name : String) : Predicate := fun record _ =>
  hasColumnName name record ||
    (Walker.start record).any fun position =>
      position.kind == "ColumnRef" && hasColumnName name position.record

def hasStar : Predicate := fun record _ =>
  (record.itemsAt "fields").any fun part => part.kind? == some "A_Star"

def below (name : String) : Predicate := fun _ context => context.passes name

def conjunction (predicates : List Predicate) : Predicate := fun record context =>
  predicates.all fun test => test record context

def disjunction (predicates : List Predicate) : Predicate := fun record context =>
  predicates.any fun test => test record context

def negation (predicate : Predicate) : Predicate := fun record context => !predicate record context

end SqlTree.Predicate

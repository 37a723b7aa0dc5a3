import SqlTree.Node.Relation
import SqlTree.Statement.Query

/-!
# CREATE INDEX

An index has a name and an access method from the start; its table and its columns are added.
-/

namespace SqlTree

structure CreateIndex where
  query : Query

namespace CreateIndex

/-- The access method of an index that names none. -/
def defaultMethod : String := "btree"

def start (name : String) : CreateIndex :=
  ⟨.ofKind .createIndex <| .object
    [("idxname", .text name), ("accessMethod", .text defaultMethod)]⟩

def flag (index : CreateIndex) (field : String) : CreateIndex :=
  ⟨index.query.set field (.bool true)⟩

def on (index : CreateIndex) (table : String) : CreateIndex :=
  ⟨index.query.set "relation" (Node.relation table)⟩

def onSchema (index : CreateIndex) (table schema : String) : CreateIndex :=
  ⟨index.query.set "relation" (Node.relationIn schema table)⟩

def columns (index : CreateIndex) (columns : List String) : CreateIndex :=
  ⟨index.query.append "indexParams" (columns.map Node.indexElement)⟩

def mapColumns (index : CreateIndex) (change : List Tree → List Tree) : CreateIndex :=
  ⟨index.query.mapList "indexParams" change⟩

def including (index : CreateIndex) (columns : List String) : CreateIndex :=
  ⟨index.query.append "indexIncludingParams" (columns.map Node.indexElement)⟩

def usingMethod (index : CreateIndex) (method : String) : CreateIndex :=
  ⟨index.query.set "accessMethod" (.text method)⟩

def unique (index : CreateIndex) : CreateIndex := index.flag "unique"

def concurrently (index : CreateIndex) : CreateIndex := index.flag "concurrent"

def ifNotExists (index : CreateIndex) : CreateIndex := index.flag "if_not_exists"

def filter (index : CreateIndex) (condition : Option Tree) : CreateIndex :=
  ⟨index.query.restrict "whereClause" condition⟩

def mapFilter (index : CreateIndex) (change : Option Tree → Option Tree) : CreateIndex :=
  ⟨index.query.mapOption "whereClause" change⟩

def accessMethod? (index : CreateIndex) : Option String :=
  index.query.record.textAt? "accessMethod"

end CreateIndex

end SqlTree

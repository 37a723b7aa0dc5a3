import SqlTree.Text.Split
import SqlTree.Tree.Kind

/-!
# Names and column references

Names stand in a tree as `String` nodes. A qualified name is a list of them, one for each part
between dots. In a column reference a part that is a lone star becomes an `A_Star` node, which has
no name.
-/

namespace SqlTree.Node

def name (text : String) : Tree := .node "String" (.object [("sval", .text text)])

def names (texts : List String) : Tree := .list (texts.map name)

def dottedNames (text : String) : Tree := names (Text.split '.' text)

def list (items : List Tree) : Tree := .node "List" (.object [("items", .list items)])

def columnPart (part : String) : Tree :=
  if part = "*" then .node "A_Star" (.object []) else name part

def columnRef (parts : List String) : Tree :=
  .node "ColumnRef" (.object [("fields", .list (parts.map columnPart))])

def column (text : String) : Tree := columnRef (Text.split '.' text)

def star : Tree := columnRef ["*"]

def starOf (table : String) : Tree := columnRef [table, "*"]

def nameText? (atom : Tree) : Option String := atom.record?.bind (·.textAt? "sval")

/-- The names in the record of a column reference. Stars have none. -/
def columnNames (record : Tree) : List String := (record.itemsAt "fields").filterMap nameText?

def isLoneStar (tree : Tree) : Bool :=
  match tree.recordOf? "ColumnRef" with
  | some record =>
      match record.itemsAt "fields" with
      | [part] => part.kind? == some "A_Star"
      | _ => false
  | none => false

end SqlTree.Node

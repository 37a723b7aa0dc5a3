import SqlTree.Tree.Basic

/-!
# Nodes and their kinds

A node of kind `K` with record `r` is the object whose only field is `K` and holds `r`. Whether a
one-field object is a node depends on the name of its field alone.
-/

namespace SqlTree

def isKindCharacter (character : Char) : Bool := character == '_' || character.isAlphanum

def isKindNameChars : List Char → Bool
  | [] => false
  | first :: rest => first.isUpper && rest.all isKindCharacter

/-- A kind name is an ASCII upper-case letter followed by ASCII letters, digits and underscores. -/
def isKindName (name : String) : Bool := isKindNameChars name.toList

namespace Tree

def node (kind : String) (record : Tree) : Tree := .object [(kind, record)]

def tagged? : Tree → Option (String × Tree)
  | .object [(kind, record)] => if isKindName kind then some (kind, record) else none
  | _ => none

theorem tagged?_node {kind : String} (named : isKindName kind = true) (record : Tree) :
    (node kind record).tagged? = some (kind, record) := by
  simp [node, tagged?, named]

/-- A tree is a node exactly if it is built as one from a kind name. -/
theorem tagged?_eq_some_iff {tree record : Tree} {kind : String} :
    tree.tagged? = some (kind, record) ↔ isKindName kind = true ∧ tree = node kind record := by
  unfold tagged?
  split
  · split <;> grind [node]
  · next other => simp_all [node]

theorem size_lt_of_tagged? {tree record : Tree} {kind : String}
    (tagged : tree.tagged? = some (kind, record)) : record.size < tree.size := by
  rw [(tagged?_eq_some_iff.mp tagged).2]
  simp [node, size, sizeFields]

def kind? (tree : Tree) : Option String := tree.tagged?.map (·.1)

def record? (tree : Tree) : Option Tree := tree.tagged?.map (·.2)

def recordOf? (tree : Tree) (kind : String) : Option Tree :=
  match tree.tagged? with
  | some (found, record) => if found = kind then some record else none
  | none => none

end Tree

end SqlTree

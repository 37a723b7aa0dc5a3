import SqlTree.Json.Reader
import SqlTree.Json.Writer

/-!
# Interchange documents

A document is a JSON value on its own, as other tools hand it over: it knows nothing of nodes and
kinds. Trees are converted to documents and back.

There are two ways from a document to a tree. `Document.toTree` converts level by level, and
`Document.feed` replays the document into a reader's target, as if its text were being read.
-/

namespace SqlTree

/-- A JSON value whose objects keep the order in which names arrived. -/
inductive Document where
  | null
  | bool (value : Bool)
  | number (value : Number)
  | string (value : String)
  | array (items : List Document)
  | map (entries : List (String × Document))
  deriving Repr, Inhabited

namespace Document

/-- Documents as the result of reading: a repeated name is replaced in place. -/
def target : Json.Target Document where
  null := .null
  bool := .bool
  number := .number
  text := .string
  list := .array
  object pairs := .map (Fields.ofPairs pairs)

def ofJson? (text : String) : Option Document := Json.read target text

mutual
def toTree : Document → Tree
  | .null => .null
  | .bool value => .bool value
  | .number value => .number value
  | .string value => .text value
  | .array items => .list (toTrees items)
  | .map entries => .object (Fields.ofPairs (toFields entries))
termination_by structural document => document

def toTrees : List Document → List Tree
  | [] => []
  | item :: rest => toTree item :: toTrees rest
termination_by structural items => items

def toFields : List (String × Document) → List (String × Tree)
  | [] => []
  | (key, value) :: rest => (key, toTree value) :: toFields rest
termination_by structural entries => entries
end

mutual
/-- Replays a document into a target. -/
def feed {α : Type} (target : Json.Target α) : Document → α
  | .null => target.null
  | .bool value => target.bool value
  | .number value => target.number value
  | .string value => target.text value
  | .array items => target.list (feedItems target items)
  | .map entries => target.object (feedEntries target entries)
termination_by structural document => document

def feedItems {α : Type} (target : Json.Target α) : List Document → List α
  | [] => []
  | item :: rest => feed target item :: feedItems target rest
termination_by structural items => items

def feedEntries {α : Type} (target : Json.Target α) : List (String × Document) → List (String × α)
  | [] => []
  | (key, value) :: rest => (key, feed target value) :: feedEntries target rest
termination_by structural entries => entries
end

/-- The tree that reading the document's text would give. -/
def decode (document : Document) : Tree := feed Tree.target document

mutual
def write (document : Document) (rest : List Char) : List Char :=
  match document with
  | .null => 'n' :: 'u' :: 'l' :: 'l' :: rest
  | .bool value => Json.writeBool value ++ rest
  | .number value => Json.writeNumber value ++ rest
  | .string value => Json.writeString value rest
  | .array items => '[' :: writeItems items (']' :: rest)
  | .map entries => '\x7b' :: writeEntries entries ('\x7d' :: rest)
termination_by structural document

def writeItems (items : List Document) (rest : List Char) : List Char :=
  match items with
  | [] => rest
  | item :: more =>
      write item (match more with | [] => rest | _ :: _ => ',' :: writeItems more rest)
termination_by structural items

def writeEntries (entries : List (String × Document)) (rest : List Char) : List Char :=
  match entries with
  | [] => rest
  | (key, value) :: more =>
      Json.writeString key (':' :: write value
        (match more with | [] => rest | _ :: _ => ',' :: writeEntries more rest))
termination_by structural entries
end

def toJson (document : Document) : String := String.ofList (document.write [])

end Document

namespace Tree

mutual
def toDocument : Tree → Document
  | .null => .null
  | .bool value => .bool value
  | .number value => .number value
  | .text value => .string value
  | .list items => .array (toDocuments items)
  | .object fields => .map (Fields.ofPairs (toEntries fields))
termination_by structural tree => tree

def toDocuments : List Tree → List Document
  | [] => []
  | item :: rest => toDocument item :: toDocuments rest
termination_by structural items => items

def toEntries : List (String × Tree) → List (String × Document)
  | [] => []
  | (key, value) :: rest => (key, toDocument value) :: toEntries rest
termination_by structural fields => fields
end

end Tree

end SqlTree

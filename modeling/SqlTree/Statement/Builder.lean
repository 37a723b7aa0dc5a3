import SqlTree.Statement.AlterTable
import SqlTree.Statement.CreateIndex
import SqlTree.Statement.CreateTable
import SqlTree.Statement.Delete
import SqlTree.Statement.Insert
import SqlTree.Statement.Select
import SqlTree.Statement.Update
import SqlTree.Traverse.Replace
import SqlTree.Traverse.Walk

/-!
# Builders

A builder is a statement of any kind, or a query that is none of them. It is what a search gives
back: the record that was found, with its kind and with the parser of the place where it was found.

`Statement` is the class of types that wrap a query. It carries what all of them share: searching,
replacing, merging and printing. An update gives a statement of the same type. A
builder that is made from a query is always of the variant that the kind of the query asks for.
-/

namespace SqlTree

inductive Builder where
  | plain (query : Query)
  | select (select : Select)
  | insert (insert : Insert)
  | update (update : Update)
  | delete (delete : Delete)
  | createTable (table : CreateTable)
  | alterTable (table : AlterTable)
  | createIndex (index : CreateIndex)

namespace Builder

def toQuery : Builder → Query
  | .plain inner => inner
  | .select inner => inner.query
  | .insert inner => inner.query
  | .update inner => inner.query
  | .delete inner => inner.query
  | .createTable inner => inner.query
  | .alterTable inner => inner.query
  | .createIndex inner => inner.query

def ofStatement (query : Query) : Option StatementKind → Builder
  | some .select => .select ⟨query⟩
  | some .insert => .insert ⟨query⟩
  | some .update => .update ⟨query⟩
  | some .delete => .delete ⟨query⟩
  | some .createTable => .createTable ⟨query⟩
  | some .alterTable => .alterTable ⟨query⟩
  | some .createIndex => .createIndex ⟨query⟩
  | none => .plain query

/-- The builder that the kind of a query asks for. -/
def ofQuery (query : Query) : Builder :=
  ofStatement query (query.kind.bind StatementKind.ofName?)

/-- The statement that the variant of a builder stands for. -/
def statement? : Builder → Option StatementKind
  | .plain _ => none
  | .select _ => some .select
  | .insert _ => some .insert
  | .update _ => some .update
  | .delete _ => some .delete
  | .createTable _ => some .createTable
  | .alterTable _ => some .alterTable
  | .createIndex _ => some .createIndex

def ofRecord (kind : String) (record : Tree) (parser : Option Parser) : Builder :=
  ofQuery ⟨record, some kind, parser⟩

/--
The most specific builder of a tree. A shell stays a query. A node is dispatched on its kind, and a
bare record on the kind that its fields tell.
-/
def ofTree (tree : Tree) (parser : Option Parser) : Builder :=
  if tree.isShell then .plain ⟨tree, none, parser⟩
  else
    match tree.tagged? with
    | some (kind, record) => ofRecord kind record parser
    | none =>
        match StatementKind.detect? tree with
        | some kind => ofRecord kind.name tree parser
        | none => .plain ⟨tree, none, parser⟩

def parse (parser : Parser) (source : String) : Except Error Builder :=
  match parser.parse source with
  | .ok tree => .ok (ofTree tree (some parser))
  | .error error => .error (.parse error)

def parseStatement (parser : Parser) (source : String) : Except Error Builder :=
  match parser.parse source with
  | .error error => .error (.parse error)
  | .ok tree =>
      match tree.statements with
      | [statement] => .ok (ofTree statement (some parser))
      | statements => .error (.inexpressible (.statementCount statements.length))

end Builder

def scan (parser : Parser) (source : String) : Except Error (List Token) :=
  (parser.scan source).mapError .scan

/-- The types that wrap a query. -/
class Statement (β : Type) where
  toQuery : β → Query
  ofQuery : Query → β

instance : Statement Query := ⟨id, id⟩
instance : Statement Select := ⟨Select.query, Select.mk⟩
instance : Statement Insert := ⟨Insert.query, Insert.mk⟩
instance : Statement Update := ⟨Update.query, Update.mk⟩
instance : Statement Delete := ⟨Delete.query, Delete.mk⟩
instance : Statement CreateTable := ⟨CreateTable.query, CreateTable.mk⟩
instance : Statement AlterTable := ⟨AlterTable.query, AlterTable.mk⟩
instance : Statement CreateIndex := ⟨CreateIndex.query, CreateIndex.mk⟩
instance : Statement Builder := ⟨Builder.toQuery, Builder.ofQuery⟩

namespace Statement

variable {β : Type} [Statement β]

def record (statement : β) : Tree := (toQuery statement).record

def kind? (statement : β) : Option String := (toQuery statement).kind

def parser? (statement : β) : Option Parser := (toQuery statement).parser

def withParser (statement : β) (parser : Parser) : β :=
  ofQuery { toQuery statement with parser := some parser }

def detach (statement : β) (position : Position) : Builder :=
  .ofRecord position.kind position.record (parser? statement)

def find? (statement : β) (kind : String) (predicate : Option Predicate) : Option Builder :=
  ((record statement).find? kind predicate).map (detach statement)

def findAll (statement : β) (kind : String) (predicate : Option Predicate) : List Builder :=
  ((record statement).findAll kind predicate).map (detach statement)

def has (statement : β) (kind : String) (predicate : Option Predicate) : Bool :=
  (record statement).has kind predicate

def replaceNodes {m : Type → Type} [Monad m] (statement : β) (kind : String)
    (predicate : Option Predicate) (replace : Builder → m Tree) (firstOnly : Bool) : m β := do
  let rebuilt ←
    (record statement).replaceNodes kind predicate
      (fun position => replace (.ofRecord kind position.record (parser? statement))) firstOnly
  pure (ofQuery ((toQuery statement).withRecord rebuilt))

def merge (statement : β) (pairs : List (String × Tree)) : β :=
  ofQuery ((toQuery statement).withRecord ((record statement).merge pairs))

def toNode (statement : β) : Tree := (toQuery statement).toNode

def print (statement : β) : Except Error String := (toQuery statement).print

def printWith (statement : β) (parser : Parser) : Except Error String :=
  (toQuery statement).printWith parser

end Statement

end SqlTree

import SqlTree.Error
import SqlTree.Tree.Basic

/-!
# Parsers

The grammar lies outside this library. A `Parser` is what a grammar has to offer: it parses a text
into a tree, prints a tree, prints a single node that is no statement, and cuts a text into tokens.

The tree of a parsed text is a shell around its statements: a version number and a list whose
entries hold one statement each.
-/

namespace SqlTree

inductive KeywordClass where
  | none
  | unreserved
  | columnName
  | typeOrFunctionName
  | reserved
  deriving DecidableEq, Repr, Inhabited

/-- The class of a scanner's code. Codes without a meaning are no keywords. -/
def KeywordClass.ofCode (code : Int) : KeywordClass :=
  match code with
  | 1 => .unreserved
  | 2 => .columnName
  | 3 => .typeOrFunctionName
  | 4 => .reserved
  | _ => .none

/-- A token of a text. Its ends are offsets in bytes. -/
structure Token where
  kind : String
  text : String
  start : Nat
  stop : Nat
  keyword : KeywordClass
  deriving DecidableEq, Repr, Inhabited

/-- The text between two offsets in bytes, if both lie between characters of the text. -/
def sliceBytes? (text : String) (start stop : Nat) : Option String :=
  if start ≤ stop ∧ String.Pos.Raw.isValid text ⟨start⟩ ∧ String.Pos.Raw.isValid text ⟨stop⟩ then
    some (String.Pos.Raw.extract text ⟨start⟩ ⟨stop⟩)
  else none

/-- The token at a place of a text. A place that is no part of the text gives an empty token. -/
def Token.ofSource (source kind : String) (start stop : Nat) (code : Int) : Token where
  kind
  text := (sliceBytes? source start stop).getD ""
  start
  stop
  keyword := .ofCode code

structure Parser where
  parse : String → Except ParseError Tree
  print : Tree → Except PrintError String
  /-- Prints a node that is no statement. A grammar need not be able to. -/
  printNode : Tree → Except PrintError String := fun _ =>
    .error ⟨"fragment deparse is not supported by this parser"⟩
  scan : String → Except ScanError (List Token)

def grammarVersion : Int := 170004

namespace Tree

def shell (statements : List Tree) : Tree :=
  .object
    [("version", .number (.int grammarVersion)),
      ("stmts", .list (statements.map fun statement => .object [("stmt", statement)]))]

def isShell (tree : Tree) : Bool := ((tree.get? "stmts").bind list?).isSome

def statements (tree : Tree) : List Tree := (tree.itemsAt "stmts").filterMap (·.get? "stmt")

end Tree

end SqlTree

/-!
# Errors

An error names its cause; the wording is in one place, `Error.message`. Errors of a parser, of a
printer and of a scanner are records of their own, because tools exchange them.
-/

namespace SqlTree

inductive ParseFault where
  | grammar
  | semantic
  | unknown
  deriving DecidableEq, Repr, Inhabited

structure ParseError where
  message : String
  /-- Offset into the text in bytes, counted from one; zero if unknown. -/
  position : Nat
  fault : ParseFault
  deriving DecidableEq, Repr, Inhabited

/-- A tree that cannot be printed. It has no place in a text. -/
structure PrintError where
  message : String
  deriving DecidableEq, Repr, Inhabited

inductive ScanFault where
  | grammar
  | unknown
  deriving DecidableEq, Repr, Inhabited

structure ScanError where
  message : String
  position : Nat
  fault : ScanFault
  deriving DecidableEq, Repr, Inhabited

/-- A request that no single statement of its kind can meet. -/
inductive Inexpressible where
  | renameColumn (old new : String)
  | renameTable (new : String)
  /-- One statement was asked for, and the text has this many. -/
  | statementCount (found : Nat)
  deriving DecidableEq, Repr

inductive Error where
  | missingParser
  /-- There is nothing in FROM that a join could extend. -/
  | nothingToJoin
  | inexpressible (operation : Inexpressible)
  | unknownKind
  | replacement (message : String)
  | parse (error : ParseError)
  | print (error : PrintError)
  | scan (error : ScanError)
  deriving DecidableEq, Repr

def ParseError.text (error : ParseError) : String :=
  "Parse error at position " ++ toString error.position ++ ": " ++ error.message

def PrintError.text (error : PrintError) : String := "Deparse error: " ++ error.message

def ScanError.text (error : ScanError) : String :=
  "Scan error at position " ++ toString error.position ++ ": " ++ error.message

def Inexpressible.text : Inexpressible → String
  | .renameColumn old new => "renaming column " ++ old ++ " to " ++ new ++ " needs a RenameStmt"
  | .renameTable new => "renaming table to " ++ new ++ " needs a RenameStmt"
  | .statementCount found => "expected 1 statement, found " ++ toString found

def Error.message : Error → String
  | .missingParser => "No parser bound: pass one to to_sql_with() or bind it with with_parser()"
  | .nothingToJoin => "Cannot join: the FROM clause is empty"
  | .inexpressible operation => "Unsupported: " ++ operation.text
  | .unknownKind => "Cannot determine the statement kind of the node to deparse"
  | .replacement message => "Rewrite error: " ++ message
  | .parse error => error.text
  | .print error => error.text
  | .scan error => error.text

end SqlTree

import SqlTree.Error
import SqlTree.Node.Name

/-!
# Parts of printed statements

Printing a tree either gives a text or names the part that cannot be printed. This file has the
parts that every clause is made of: names, lists with commas, optional clauses, and relations.

The printers of a tree's parts are passed along in a `Printer`, so that each clause is a function of
its own. `Print.Statement` and `Print.Expression` describe one level of a tree in this way, and
`Print.Printer` ties the levels together.
-/

namespace SqlTree

/-- A text, or the part that cannot be printed. -/
abbrev Printed : Type := Except PrintError String

namespace Print

/-- The printers of the parts of a tree. -/
structure Printer where
  statement : Tree → Printed
  select : Tree → Printed
  source : Tree → Printed
  expression : Tree → Printed

def cannotPrint (part : String) : PrintError := ⟨"cannot deparse " ++ part⟩

def required (record : Tree) (key : String) : Except PrintError Tree :=
  match record.get? key with
  | some value => .ok value
  | none => .error (cannotPrint key)

/-- The record of a node; a tree that is no node cannot be printed as the given part. -/
def requiredRecord (tree : Tree) (part : String) : Except PrintError Tree :=
  match tree.record? with
  | some record => .ok record
  | none => .error (cannotPrint part)

def commaList (items : List Tree) (print : Tree → Printed) : Printed := do
  let texts ← items.mapM print
  return Text.join ", " texts

/-- A keyword with a list behind it. An empty list prints nothing. -/
def listClause (keyword : String) (items : List Tree) (print : Tree → Printed) : Printed :=
  if items.isEmpty then .ok ""
  else do
    let text ← commaList items print
    return " " ++ keyword ++ " " ++ text

/-- A keyword with an expression behind it. An absent expression prints nothing. -/
def optionalClause (keyword : String) (tree : Option Tree) (print : Tree → Printed) : Printed :=
  match tree with
  | some tree => do
      let text ← print tree
      return " " ++ keyword ++ " " ++ text
  | none => .ok ""

def flagText (record : Tree) (key text : String) : String :=
  if record.flagAt key then text else ""

def nameList (items : List Tree) (separator : String) : String :=
  Text.join separator (items.filterMap Node.nameText?)

def textOrEmpty (record : Tree) (key : String) : String := (record.textAt? key).getD ""

def aliasName? (record : Tree) : Option String := (record.get? "alias").bind (·.textAt? "aliasname")

def relation (record : Tree) : String :=
  let name :=
    match record.textAt? "schemaname" with
    | some schema => schema ++ "." ++ textOrEmpty record "relname"
    | none => textOrEmpty record "relname"
  match aliasName? record with
  | some otherName => name ++ " " ++ otherName
  | none => name

end Print

end SqlTree

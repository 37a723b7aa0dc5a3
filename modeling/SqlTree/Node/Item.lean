import SqlTree.Node.TypeName

/-!
# Items of clauses

The nodes that stand in the lists of a statement: output columns, sort items, definitions of
columns, elements of indexes, and the calls, parameters and casts inside them.
-/

namespace SqlTree

inductive SortDirection where
  | default
  | ascending
  | descending
  deriving DecidableEq, Repr, Inhabited

inductive NullsOrder where
  | default
  | first
  | last
  deriving DecidableEq, Repr, Inhabited

def SortDirection.word : SortDirection → String
  | .default => "SORTBY_DEFAULT"
  | .ascending => "SORTBY_ASC"
  | .descending => "SORTBY_DESC"

def NullsOrder.word : NullsOrder → String
  | .default => "SORTBY_NULLS_DEFAULT"
  | .first => "SORTBY_NULLS_FIRST"
  | .last => "SORTBY_NULLS_LAST"

namespace Node

def aliased (operand : Operand) (name : String) : Tree :=
  .node "ResTarget" (.object [("name", .text name), ("val", operand.reference)])

/-- An output column. One that is already built stays as it is. -/
def target (operand : Operand) : Tree :=
  let value := operand.reference
  if value.kind? = some "ResTarget" then value
  else .node "ResTarget" (.object [("val", value)])

/-- A function call. A lone star as its argument makes it the star form of an aggregate. -/
def call (name : String) (operands : List Operand) : Tree :=
  let arguments := operands.map Operand.reference
  let given : List (String × Tree) :=
    match arguments with
    | [] => []
    | [argument] =>
        if isLoneStar argument then [("agg_star", .bool true)] else [("args", .list [argument])]
    | _ => [("args", .list arguments)]
  .node "FuncCall" <| .object <|
    ("funcname", dottedNames name) :: given ++ [("funcformat", .text "COERCE_EXPLICIT_CALL")]

def parameter (number : Nat) : Tree :=
  .node "ParamRef" (.object [("number", .number (.int number))])

def cast (operand : Operand) (type : String) : Tree :=
  .node "TypeCast" (.object [("arg", operand.reference), ("typeName", writtenType type)])

def sortItem (operand : Operand) (direction : SortDirection) (nulls : NullsOrder) : Tree :=
  .node "SortBy" <| .object
    [("node", operand.reference), ("sortby_dir", .text direction.word),
      ("sortby_nulls", .text nulls.word)]

def columnDefinition (name type : String) : Tree :=
  .node "ColumnDef" <| .object
    [("colname", .text name), ("typeName", writtenType type), ("is_local", .bool true)]

def indexElement (name : String) : Tree :=
  .node "IndexElem" <| .object
    [("name", .text name), ("ordering", .text SortDirection.default.word),
      ("nulls_ordering", .text NullsOrder.default.word)]

end Node

end SqlTree

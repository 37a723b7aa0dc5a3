import SqlTree.Node.Item
import SqlTree.Parser
import SqlTree.Print.Printer
import SqlTree.Scanner
import SqlTree.Text.Quoted

/-!
# Recorded parses

A parser for a small set of texts. It knows the parse of a few texts by heart, and it prints and
scans with the printer and the scanner of this library. The recorded trees carry the source
locations that a grammar reports, which printing ignores.
-/

namespace SqlTree.Recorded

/-! ## Trees with locations -/

def location (offset : Int) : String × Tree := ("location", .number (.int offset))

/-- The two fields that end the record of a plain SELECT. -/
def plainEnd : List (String × Tree) :=
  [("limitOption", .text "LIMIT_OPTION_DEFAULT"), ("op", .text "SETOP_NONE")]

def column (name : String) (offset : Int) : Tree :=
  .node "ColumnRef" (.object [("fields", Node.dottedNames name), location offset])

def tableRecord (name : String) (offset : Int) (otherName : Option String) : Tree :=
  .object <|
    [("relname", .text name), ("inh", .bool true), ("relpersistence", .text "p"),
      location offset] ++
    (match otherName with
      | some otherName => [("alias", .object [("aliasname", .text otherName)])]
      | none => [])

def table (name : String) (offset : Int) : Tree := .node "RangeVar" (tableRecord name offset none)

def tableAs (name otherName : String) (offset : Int) : Tree :=
  .node "RangeVar" (tableRecord name offset (some otherName))

def target (name : String) (offset : Int) : Tree :=
  .node "ResTarget" (.object [("val", column name offset), location offset])

def constant (field : String) (value : Tree) (offset : Int) : Tree :=
  .node "A_Const" (.object [(field, .object [(field, value)]), location offset])

def intConstant (value offset : Int) : Tree := constant "ival" (.number (.int value)) offset

def textConstant (value : String) (offset : Int) : Tree := constant "sval" (.text value) offset

def binary (kind operator : String) (left right : Tree) (offset : Int) : Tree :=
  .node "A_Expr" <| .object
    [("kind", .text kind), ("name", Node.names [operator]), ("lexpr", left), ("rexpr", right),
      location offset]

def select (clauses : List (String × Tree)) : Tree :=
  .node "SelectStmt" (.object (clauses ++ plainEnd))

def columnOf (name : String) (nameOffset : Int) (relation : String) (relationOffset : Int) :
    List (String × Tree) :=
  [("targetList", .list [target name nameOffset]),
    ("fromClause", .list [table relation relationOffset])]

def selectOf (name relation : String) : Tree := select (columnOf name 7 relation 15)

def tableExpression (name : String) (query : Tree) (offset : Int) : Tree :=
  .node "CommonTableExpr" <| .object
    [("ctename", .text name), ("ctematerialized", .text "CTEMaterializeDefault"),
      ("ctequery", query), location offset]

/-! ## The recorded texts -/

def usersThenPosts : Tree := .shell [selectOf "id" "users", selectOf "id" "posts"]

def activeFilter : Tree :=
  .shell [select <| columnOf "id" 7 "users" 15 ++
    [("whereClause",
      binary "AEXPR_OP" "=" (column "active" 28) (constant "boolval" (.bool true) 37) 35)]]

/-- Tables at three depths: in a common table expression, in a join and in a subquery. -/
def tablesAtThreeDepths : Tree :=
  .shell [select
    [("targetList", .list [target "u.id" 56]),
      ("fromClause", .list
        [.node "JoinExpr" <| .object
          [("jointype", .text "JOIN_INNER"), ("larg", tableAs "users" "u" 68),
            ("rarg", tableAs "recent" "r" 81),
            ("quals", binary "AEXPR_OP" "=" (column "r.user_id" 93) (column "u.id" 105) 103)]]),
      ("whereClause", .node "SubLink" <| .object
        [("subLinkType", .text "ANY_SUBLINK"), ("testexpr", column "u.id" 116),
          ("subselect", selectOf "user_id" "bans"), location 121]),
      ("withClause", .object
        [("ctes", .list [tableExpression "recent" (selectOf "user_id" "orders") 5])])]]

def ageBetween : Tree :=
  .shell [select <| columnOf "id" 7 "users" 15 ++
    [("whereClause", binary "AEXPR_BETWEEN" "BETWEEN" (column "age" 27)
      (Node.list [intConstant 1 39, intConstant 10 45]) 31)]]

def roleIn : Tree :=
  .shell [select <| columnOf "id" 7 "users" 15 ++
    [("whereClause", binary "AEXPR_IN" "=" (column "role" 27)
      (Node.list [textConstant "admin" 36, textConstant "owner" 45]) 32)]]

def upsert : Tree :=
  .shell [.node "InsertStmt" <| .object
    [("relation", tableRecord "users" 12 none),
      ("cols", .list [.node "ResTarget" (.object [("name", .text "email"), location 19])]),
      ("selectStmt", select
        [("valuesLists", .list [Node.list [textConstant "a@b.c" 34]])]),
      ("onConflictClause", .object
        [("action", .text "ONCONFLICT_UPDATE"),
          ("infer", .object [("indexElems", .list [Node.indexElement "email"]), location 55]),
          ("targetList", .list
            [.node "ResTarget" <| .object
              [("name", .text "name"), ("val", textConstant "x" 84), location 77]]),
          location 43]),
      ("override", .text "OVERRIDING_NOT_SET")]]

def recentOrders : Tree :=
  .shell [.node "SelectStmt" <| .object <|
    columnOf "user_id" 51 "recent" 64 ++
      [("limitOption", .text "LIMIT_OPTION_DEFAULT"),
        ("withClause", .object
          [("ctes", .list
            [tableExpression "recent" (select (columnOf "user_id" 23 "orders" 36)) 5])]),
        ("op", .text "SETOP_NONE")]]

def distinctStatus : Tree :=
  .shell [select <| ("distinctClause", .list [.object []]) :: columnOf "status" 16 "orders" 28]

def distinctOnUser : Tree :=
  .shell [select <|
    ("distinctClause", .list [column "user_id" 20]) :: columnOf "user_id" 29 "orders" 42]

/-- The texts whose parse is known. -/
def entries : List (String × Tree) :=
  [("SELECT id FROM users; SELECT id FROM posts", usersThenPosts),
    ("SELECT id FROM users WHERE active = true", activeFilter),
    ("WITH recent AS (SELECT user_id FROM orders) SELECT u.id FROM users u " ++
      "JOIN recent r ON r.user_id = u.id WHERE u.id IN (SELECT user_id FROM bans)",
      tablesAtThreeDepths),
    ("SELECT id FROM users WHERE age BETWEEN 1 AND 10", ageBetween),
    ("SELECT id FROM users WHERE role IN ('admin', 'owner')", roleIn),
    ("INSERT INTO users (email) VALUES ('a@b.c') ON CONFLICT (email) DO UPDATE SET name = 'x'",
      upsert),
    ("WITH recent AS (SELECT user_id FROM orders) SELECT user_id FROM recent", recentOrders),
    ("SELECT DISTINCT status FROM orders", distinctStatus),
    ("SELECT DISTINCT ON (user_id) user_id FROM orders", distinctOnUser)]

def parse (source : String) : Except ParseError Tree :=
  match Fields.get? source entries with
  | some tree => .ok tree
  | none => .error ⟨"no fixture for " ++ Text.quoted source, 1, .grammar⟩

def parser : Parser where
  parse
  print := Print.shell
  printNode := Print.expression
  scan source := .ok (Scanner.tokens source)

end SqlTree.Recorded

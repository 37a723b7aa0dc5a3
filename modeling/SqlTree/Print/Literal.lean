/-!
# String literals

A string literal of SQL stands between single quotes, and a single quote inside it is written
twice.
-/

namespace SqlTree.Print

def quoteChar (character : Char) : List Char :=
  if character = '\'' then ['\'', '\''] else [character]

def quote (text : String) : String :=
  String.ofList ('\'' :: text.toList.flatMap quoteChar ++ ['\''])

end SqlTree.Print

import SqlTree.Node.Item
import SqlTree.Proofs.Print.Nodes
import SqlTree.Proofs.Print.Pieces
import SqlTree.Proofs.Traverse.Mentions
import SqlTree.Statement.Kind

/-!
# Dotted names in trees and in texts

A name with dots is taken apart when a node is made of it, and put together again when the node is
printed. Columns and functions are split at every dot and relations at the first one only, and in a
column a part that is a lone star becomes a node of another kind. This file says that every name
comes back as it was, wherever it was used, and that nothing depends on what the parts are: they may
be empty, and there may be stars among them.

For the target of a statement this is said of the whole text. `Frames` holds of what is printed with
a name in it if the name stands between two texts that do not depend on it.

The only trace of the splitting is in a search for a column by its whole name. Stars have no name,
so a reference with a star among its parts is not found by the text that it was made of.
-/

namespace SqlTree

namespace Print

/-! ## Relations and calls -/

theorem relation_set_alias {record : Tree} (bare : record.get? "alias" = none) (name : String) :
    relation (record.set "alias" (Node.aliasRecord name)) = relation record ++ " " ++ name := by
  have own : aliasName? (record.set "alias" (Node.aliasRecord name)) = some name := by
    rw [aliasName?, Tree.get?_set, if_pos rfl]
    rfl
  have unnamed : aliasName? record = none := by
    rw [aliasName?, bare, Option.bind_none]
  simp [relation, own, unnamed, Tree.textAt?, textOrEmpty, Tree.get?_set]

theorem source_tableAs (name other : String) :
    source (Node.tableAs name other) = .ok (name ++ " " ++ other) := by
  have bare : (Node.relation name).get? "alias" = none := by
    unfold Node.relation
    split <;> rfl
  rw [Node.tableAs, source_eq, Printer.sourceLevel, Tree.tagged?_node (by decide)]
  exact congrArg Except.ok (by rw [relation_set_alias bare, relation_relation])

theorem nameList_dottedNames (name : String) :
    nameList (Node.dottedNames name).items "." = name := by
  rw [nameList, Node.dottedNames, Node.names, Tree.items_list, List.filterMap_map]
  simp only [Function.comp_def, Node.nameText?_name, List.filterMap_some]
  exact Text.join_split '.' name

theorem expression_call_nil (name : String) :
    expression (Node.call name []) = .ok (name ++ "()") := by
  rw [Node.call, expression_node (by decide)]
  change Except.ok (nameList (Node.dottedNames name).items "." ++ "(" ++ "" ++ ")") = _
  rw [nameList_dottedNames, String.append_empty, String.append_assoc]
  rfl

/-! ## Targets of statements -/

/-- Every name is printed between the same two texts, or there is the same fault with every name. -/
def Frames (print : String → Printed) : Prop :=
  (∃ fault, ∀ name, print name = .error fault) ∨
    ∃ before after, ∀ name, print name = .ok (before ++ name ++ after)

theorem frames_concat (front back : List Printed) :
    Frames fun name => concat (front ++ .ok name :: back) := by
  simp only [concat_append front]
  rcases concat front with fault | before
  · exact Or.inl ⟨fault, fun _ => rfl⟩
  · rcases result : concat back with fault | after
    · exact Or.inl ⟨fault, fun name => by simp [result]⟩
    · exact Or.inr ⟨before, after, fun name => by simp [result, String.append_assoc]⟩

theorem Frames.bind {α : Type} {print : α → String → Printed}
    (frames : ∀ value, Frames (print value)) (outer : Except PrintError α) :
    Frames fun name => outer >>= fun value => print value name := by
  rcases outer with fault | value
  · exact Or.inl ⟨fault, fun _ => rfl⟩
  · exact frames value

/-- The record of a statement on the relation of this name. -/
def withTarget (record : Tree) (name : String) : Tree := record.set "relation" (Node.relation name)

section Target

variable (record : Tree) (name : String)

theorem targetRelation_withTarget :
    Printer.targetRelation (withTarget record name) = .ok name := by
  rw [Printer.targetRelation, withTarget, required, Tree.get?_set, if_pos rfl]
  exact congrArg Except.ok (relation_relation name)

variable {key : String} (other : key ≠ "relation")
include other

theorem get?_withTarget : (withTarget record name).get? key = record.get? key := by
  rw [withTarget, Tree.get?_set, if_neg other.symm]

theorem itemsAt_withTarget : (withTarget record name).itemsAt key = record.itemsAt key := by
  rw [Tree.itemsAt, get?_withTarget record name other, Tree.itemsAt]

theorem textAt?_withTarget : (withTarget record name).textAt? key = record.textAt? key := by
  rw [Tree.textAt?, get?_withTarget record name other, Tree.textAt?]

theorem flagText_withTarget (text : String) :
    flagText (withTarget record name) key text = flagText record key text := by
  rw [flagText, Tree.flagAt, get?_withTarget record name other, flagText, Tree.flagAt]

end Target

/--
A statement has its target's name in one place, and reads it nowhere else. The elements of a table
are looked at before its name, so their fault comes first.
-/
theorem frames_statement {kind : StatementKind} (targeted : kind ≠ .select) (record : Tree) :
    Frames fun name => statement (.node kind.name (withTarget record name)) := by
  simp only [statement_eq, Printer.statementLevel, Tree.tagged?_node kind.isKindName_name]
  cases kind with
  | select => exact absurd rfl targeted
  | insert =>
      change Frames fun name => printer.insert (withTarget record name)
      simp (disch := decide) only [Printer.insert_eq, Printer.returning,
        targetRelation_withTarget, itemsAt_withTarget, get?_withTarget]
      exact frames_concat [_] _
  | update =>
      change Frames fun name => printer.update (withTarget record name)
      simp (disch := decide) only [Printer.update_eq, Printer.returning,
        targetRelation_withTarget, itemsAt_withTarget, get?_withTarget]
      exact frames_concat [_] _
  | delete =>
      change Frames fun name => printer.delete (withTarget record name)
      simp (disch := decide) only [Printer.delete_eq, Printer.returning,
        targetRelation_withTarget, itemsAt_withTarget, get?_withTarget]
      exact frames_concat [_] _
  | createTable =>
      change Frames fun name => printer.createTable (withTarget record name)
      simp (disch := decide) only [Printer.createTable, targetRelation_withTarget,
        itemsAt_withTarget, flagText_withTarget]
      apply Frames.bind
      intro elements
      refine Or.inr ⟨"CREATE TABLE " ++ flagText record "if_not_exists" "IF NOT EXISTS ",
        " (" ++ elements ++ ")", fun name => ?_⟩
      simp [String.append_assoc]
  | alterTable =>
      change Frames fun name => printer.alterTable (withTarget record name)
      simp (disch := decide) only [Printer.alterTable, targetRelation_withTarget,
        itemsAt_withTarget, flagText_withTarget]
      apply Frames.bind
      intro commands
      refine Or.inr ⟨"ALTER TABLE " ++ flagText record "missing_ok" "IF EXISTS ",
        " " ++ commands, fun name => ?_⟩
      simp [String.append_assoc]
  | createIndex =>
      change Frames fun name => printer.createIndex (withTarget record name)
      simp (disch := decide) only [Printer.createIndex_eq, Printer.indexStart, textOrEmpty,
        targetRelation_withTarget, itemsAt_withTarget, get?_withTarget, flagText_withTarget,
        textAt?_withTarget]
      exact frames_concat [_] _

example :
    statement (.node "DeleteStmt" (withTarget (.object []) "..audit")) =
      .ok "DELETE FROM ..audit" := by decide +kernel

end Print

/-! ## Searching for a column by its whole name -/

namespace Node

/-- The record of a column reference with these parts. -/
def columnRecord (parts : List String) : Tree :=
  .object [("fields", .list (parts.map columnPart))]

theorem tagged?_columnRef (parts : List String) :
    (columnRef parts).tagged? = some ("ColumnRef", columnRecord parts) :=
  Tree.tagged?_node (by decide) _

@[simp]
theorem nameText?_columnPart (part : String) :
    nameText? (columnPart part) = if part = "*" then none else some part := by
  unfold columnPart
  split
  · rfl
  · rfl

/-- The names of a column reference are its parts, without the stars. -/
theorem columnNames_columnRecord (parts : List String) :
    columnNames (columnRecord parts) = parts.filter (· ≠ "*") := by
  change (parts.map columnPart).filterMap nameText? = _
  rw [List.filterMap_map, ← List.filterMap_eq_filter]
  apply List.filterMap_congr
  intro part _
  by_cases star : part = "*" <;> simp [star, Option.guard]

theorem kinds_columnPart (part : String) :
    (columnPart part).kinds = [if part = "*" then "A_Star" else "String"] := by
  unfold columnPart
  split
  · exact Tree.kinds_node (by decide) _
  · rw [name, Tree.kinds_node (by decide)]
    change "String" :: [Tree.text part].flatMap Tree.kinds = _
    rw [List.flatMap_singleton, Tree.kinds_of_scalar rfl]

/-- No column reference stands inside another one. -/
theorem columnRef_not_mem_kinds (parts : List String) :
    "ColumnRef" ∉ (columnRecord parts).kinds := by
  have record : (columnRecord parts).tagged? = none := rfl
  have fields : (Tree.list (parts.map columnPart)).tagged? = none := rfl
  rw [Tree.kinds_of_untagged record]
  change "ColumnRef" ∉ [Tree.list (parts.map columnPart)].flatMap Tree.kinds
  rw [List.flatMap_singleton, Tree.kinds_of_untagged fields]
  change "ColumnRef" ∉ (parts.map columnPart).flatMap Tree.kinds
  simp only [List.mem_flatMap, List.mem_map, not_exists, not_and]
  rintro _ ⟨part, _, rfl⟩
  rw [kinds_columnPart]
  split <;> simp

/-- So the search looks at the parts of the reference alone. -/
theorem mentionsColumn_columnRecord (parts : List String) (text : String) (context : Context) :
    Predicate.mentionsColumn text (columnRecord parts) context = true ↔
      (columnRecord parts).NamesColumn text := by
  rw [Predicate.mentionsColumn_iff]
  apply or_iff_left
  rintro ⟨inner, mem, reference, _⟩
  apply columnRef_not_mem_kinds parts
  rw [← reference]
  exact List.mem_map_of_mem mem

/--
A reference is found by its whole name unless a part is a star. A name that is one of its own parts
has no dot, so it is its only part, and splitting the joined parts gives back those without a star.
-/
theorem namesColumn_whole_iff (text : String) :
    (columnRecord (Text.split '.' text)).NamesColumn text ↔ "*" ∉ Text.split '.' text := by
  rw [Tree.NamesColumn, columnNames_columnRecord]
  have whole : Text.join "." (Text.split '.' text) = text := Text.join_split '.' text
  constructor
  · rintro (part | ⟨several, joined⟩) starred
    · rcases List.mem_filter.mp part with ⟨mem, plain⟩
      have single := Text.split_of_not_mem (Text.not_mem_of_mem_split mem)
      rw [single, List.mem_singleton] at starred
      simp [starred] at plain
    · have dotless : ∀ part ∈ (Text.split '.' text).filter (· ≠ "*"), '.' ∉ part.toList :=
        fun part mem => Text.not_mem_of_mem_split (List.mem_filter.mp mem).1
      have back := Text.split_join (List.ne_nil_of_length_pos (by omega)) dotless
      change Text.split '.' (Text.join "." _) = _ at back
      rw [joined] at back
      rw [back] at starred
      simp at starred
  · intro starless
    have all : (Text.split '.' text).filter (· ≠ "*") = Text.split '.' text :=
      List.filter_eq_self.mpr fun part mem => by
        simpa using fun star : part = "*" => starless (star ▸ mem)
    rw [all]
    rcases pieces : Text.split '.' text with _ | ⟨first, _ | ⟨second, rest⟩⟩
    · exact absurd pieces (Text.split_ne_nil '.' text)
    · rw [pieces] at whole
      exact Or.inl (by simp [← whole, Text.join])
    · rw [← pieces]
      exact Or.inr ⟨by simp [pieces], whole⟩

end Node

namespace Print

/--
A dotted name comes back as it was: as a column, as a table with or without another name, as the
target of a statement, and as a function without arguments. The text of a statement has its target's
name in it and is otherwise the same for all names. A search for the whole name finds the column
that was made of it, unless one of the parts between the dots is a lone star.
-/
theorem dotted_names_survive :
    (∀ name, expression (Node.column name) = .ok name) ∧
    (∀ name, source (Node.table name) = .ok name) ∧
    (∀ record name, Printer.targetRelation (withTarget record name) = .ok name) ∧
    (∀ kind : StatementKind, kind ≠ .select → ∀ record,
      Frames fun name => statement (.node kind.name (withTarget record name))) ∧
    (∀ name other, source (Node.tableAs name other) = .ok (name ++ " " ++ other)) ∧
    (∀ name, expression (Node.call name []) = .ok (name ++ "()")) ∧
    ∀ name, ∃ record, (Node.column name).tagged? = some ("ColumnRef", record) ∧
      ∀ context, Predicate.mentionsColumn name record context = true ↔
        ['*'] ∉ name.toList.splitOn '.' := by
  refine ⟨expression_column, source_table, targetRelation_withTarget,
    fun kind targeted record => frames_statement targeted record, source_tableAs,
    expression_call_nil, ?_⟩
  intro name
  refine ⟨Node.columnRecord (Text.split '.' name), Node.tagged?_columnRef _, fun context => ?_⟩
  rw [Node.mentionsColumn_columnRecord, Node.namesColumn_whole_iff, Text.mem_split_iff]
  rfl

/-- A name with an empty part and a star. -/
theorem starredName_survives :
    expression (Node.column ".audit.*") = .ok ".audit.*" ∧
      source (Node.tableAs ".audit.*" "a") = .ok ".audit.* a" ∧
      expression (Node.call ".audit.*" []) = .ok ".audit.*()" ∧
      StatementKind.delete ≠ .select ∧
      Frames (fun name => statement (.node "DeleteStmt" (withTarget (.object []) name))) ∧
      ∃ record, (Node.column ".audit.*").tagged? = some ("ColumnRef", record) ∧
        ¬Predicate.mentionsColumn ".audit.*" record .root = true := by
  rcases dotted_names_survive with ⟨column, _, _, target, table, call, search⟩
  have targeted : StatementKind.delete ≠ .select := by decide
  rcases search ".audit.*" with ⟨record, tagged, found⟩
  refine ⟨column _, table _ _, call _, targeted, target .delete targeted (.object []), record,
    tagged, ?_⟩
  rw [found]
  decide +kernel

end Print

end SqlTree

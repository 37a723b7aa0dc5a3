import SqlTree.Proofs.Print.Statements
import SqlTree.Proofs.Traverse.Put
import SqlTree.Recorded

/-!
# String data in printed statements

The text of a string constant does not change the shape of what is printed. If the constant is
printed at all, it is printed as its own quotation between two texts that do not depend on it; and
if it is not, then its text has no influence on the result.

The trees that differ in the text of one string constant are a loose family, `OneConstant`, and the
results of printing them have the form `Embeds`. No clause looks at the text of a constant other
than to quote it, so the two fit into a `Comparison`.
-/

namespace SqlTree.Print

/-- The results do not depend on the text, or they are its quotation between two fixed texts. -/
def Embeds (printed : String → Printed) : Prop :=
  (∃ result, ∀ text, printed text = result) ∨
    ∃ before after, ∀ text, printed text = .ok (before ++ quote text ++ after)

/-- Trees that differ in the text of one string constant. -/
inductive OneConstant : (String → Tree) → Prop
  | here : OneConstant Node.textConstant
  | item (front back : List Tree) {tree : String → Tree} (inside : OneConstant tree) :
      OneConstant fun text => .list (front ++ tree text :: back)
  | field (front back : List (String × Tree)) (key : String) {tree : String → Tree}
      (first : key ∉ Fields.keys front) (inside : OneConstant tree) :
      OneConstant fun text => .object (front ++ (key, tree text) :: back)

theorem oneConstant_putPart {container part : Tree} {segment : Segment}
    (found : container.part? segment = some part) {tree : String → Tree}
    (inside : OneConstant tree) :
    OneConstant fun text => container.putPart segment (tree text) := by
  cases segment with
  | field name =>
      cases container with
      | object fields =>
          rcases Fields.exists_split_of_get? found with ⟨front, back, rfl, absent⟩
          simp only [Tree.putPart, Tree.set, Tree.fields, Fields.insert_append_cons absent]
          exact .field front back name absent inside
      | _ => simp [Tree.part?, Tree.get?, Tree.fields, Fields.get?] at found
  | index position =>
      cases container with
      | list items =>
          rcases List.getElem?_eq_some_iff.mp found with ⟨bound, rfl⟩
          change position < items.length at bound
          simp only [Tree.putPart, Tree.items, List.set_eq_take_append_cons_drop, bound, if_true]
          exact .item _ _ inside
      | _ => simp [Tree.part?, Tree.items] at found

/-- Wherever a string constant stands in a tree, its text alone can be varied. -/
theorem oneConstant_put {tree : Tree} {path : List Segment} {text : String}
    (found : tree.resolve? path = some (Node.textConstant text)) :
    OneConstant fun text => tree.put path (Node.textConstant text) := by
  induction path generalizing tree with
  | nil => exact .here
  | cons segment rest ih =>
      rcases Option.bind_eq_some_iff.mp found with ⟨part, partFound, further⟩
      have inside := oneConstant_putPart partFound (ih further)
      simp only [Tree.put_cons partFound]
      rcases tagged : tree.tagged? with _ | ⟨kind, record⟩
      · simpa only [Tree.withContent_of_untagged tagged] using inside
      · simpa only [Tree.withContent_of_tagged? tagged, Tree.node, List.nil_append] using
          OneConstant.field [] [] kind (by simp) inside

/-! ## What a printer sees of them -/

def constantRecord (text : String) : Tree := .object [("sval", .object [("sval", .text text)])]

def constantValue (text : String) : Tree := .object [("sval", .text text)]

/-- A single tree, or trees that differ in one constant, or what is inside such a constant. -/
inductive Varied : Bool → (String → Tree) → Prop
  | fixed (tree : Tree) : Varied false fun _ => tree
  | inside {tree : String → Tree} (varied : OneConstant tree) : Varied true tree
  | record : Varied true constantRecord
  | value : Varied true constantValue

namespace OneConstant

variable {tree : String → Tree}

theorem same_text? (varied : OneConstant tree) : Same fun text => (tree text).text? := by
  cases varied <;> exact same_const none

theorem same_bool? (varied : OneConstant tree) : Same fun text => (tree text).bool? := by
  cases varied <;> exact same_const none

theorem same_int? (varied : OneConstant tree) : Same fun text => (tree text).int? := by
  cases varied <;> exact same_const none

/-- Of the fields of an object, only the one that the constant stands in differs. -/
theorem exists_slot (varied : OneConstant tree) : ∃ slot, ∀ key,
    PartOption Varied (slot == some key) fun text => (tree text).get? key := by
  have single (name : String) (front back : List (String × Tree)) {part : String → Tree}
      (first : name ∉ Fields.keys front) (inside : Varied true part) (key : String) :
      PartOption Varied (some name == some key) fun text =>
        Tree.get? (.object (front ++ (name, part text) :: back)) key := by
    simp only [Tree.get?, Tree.fields, Fields.get?_append_cons first]
    by_cases same : name = key
    · simpa [same] using PartOption.some inside
    · rw [show (some name == some key) = false by simpa using same]
      simpa only [same, if_false] using partOption_const fun part _ => Varied.fixed part
  cases varied with
  | here => exact ⟨some "A_Const", single "A_Const" [] [] (by simp) .record⟩
  | item front back inside => exact ⟨none, fun key => PartOption.none⟩
  | field front back name first inside =>
      exact ⟨some name, single name front back first (.inside inside)⟩

/-- Whether an object is a node does not depend on what its fields hold. -/
theorem tagged?_field (front back : List (String × Tree)) (name : String) :
    (∀ value, Tree.tagged? (.object (front ++ (name, value) :: back)) = none) ∨
      ∀ value, Tree.tagged? (.object (front ++ (name, value) :: back)) = some (name, value) := by
  rcases front with _ | ⟨other, _ | ⟨next, rest⟩⟩
  · rcases back with _ | ⟨other, rest⟩
    · by_cases named : isKindName name = true
      · exact .inr fun value => Tree.tagged?_node named value
      · exact .inl fun value => by simp [Tree.tagged?, named]
    · exact .inl fun value => rfl
  · exact .inl fun value => rfl
  · exact .inl fun value => rfl

theorem partNode (varied : OneConstant tree) :
    PartNode Varied true fun text => (tree text).tagged? := by
  cases varied with
  | here => exact .some "A_Const" .record
  | item front back inside => exact .none
  | field front back name first inside =>
      rcases tagged?_field front back name with untagged | tagged
      · simpa only [untagged] using PartNode.none
      · simpa only [tagged] using PartNode.some name (.inside inside)

theorem shows (varied : OneConstant tree) : Shows Varied true tree where
  node := varied.partNode
  record := by
    rcases varied.exists_slot with ⟨slot, fields⟩
    exact ⟨slot, by simp, fun key _ => fields key⟩
  items := by
    cases varied with
    | here => exact .nil true
    | item front back inside =>
        apply partItems_append front fun item _ => Varied.fixed item
        exact .first (.inside inside) (partItems_const fun item _ => .fixed item)
    | field => exact .nil true
  text := varied.same_text?
  flag := varied.same_bool?
  int := varied.same_int?

end OneConstant

/-- An object with no field that is read. -/
theorem shows_hidden (part : String → Tree) :
    Shows Varied true fun text => .object [("sval", part text)] where
  node := .none
  record := by
    refine ⟨none, by simp, fun key read => ?_⟩
    have other : "sval" ≠ key := by
      rintro rfl
      simp [isRead] at read
    simpa [Tree.get?, Tree.fields, Fields.get?, other] using PartOption.none
  items := .nil true
  text := same_const none
  flag := same_const none
  int := same_const none

theorem Varied.shows {loose : Bool} {tree : String → Tree} (varied : Varied loose tree) :
    Shows Varied loose tree := by
  cases varied with
  | fixed tree => exact shows_const fun part _ => .fixed part
  | inside varied => exact varied.shows
  | record => exact shows_hidden fun text => .object [("sval", .text text)]
  | value => exact shows_hidden .text

/-! ## Names and literals -/

namespace OneConstant

variable {tree : String → Tree}

theorem same_sval (varied : OneConstant tree) : Same fun text => (tree text).textAt? "sval" := by
  have opened {loose : Bool} {option : String → Option Tree}
      (found : PartOption Varied loose option) :
      Same fun text => (option text).bind Tree.text? := by
    cases found with
    | none => exact same_const none
    | some part => exact part.shows.text
  rcases varied.exists_slot with ⟨slot, fields⟩
  exact opened (fields "sval")

theorem same_name (varied : OneConstant tree) :
    Same fun text => Node.nameText? (tree text) := by
  cases varied with
  | here => exact same_const none
  | item front back inside => exact same_const none
  | field front back name first inside =>
      rcases tagged?_field front back name with untagged | tagged
      · simpa [Node.nameText?, Tree.record?, untagged] using same_const none
      · simpa [Node.nameText?, Tree.record?, tagged] using inside.same_sval

theorem same_literal (varied : OneConstant tree) : Same fun text => textLiteral (tree text) := by
  cases varied with
  | here => exact ⟨_, fun _ => rfl⟩
  | item front back inside => exact ⟨_, fun _ => rfl⟩
  | field front back name first inside =>
      simp only [textLiteral, Tree.get?, Tree.fields, Fields.get?_append_cons first]
      split
      · exact inside.same_sval.map fun text => (.ok (quote (text.getD "")) : Printed)
      · exact same_const _

end OneConstant

theorem Varied.same_name {loose : Bool} {tree : String → Tree} (varied : Varied loose tree) :
    Same fun text => Node.nameText? (tree text) := by
  cases varied with
  | fixed tree => exact same_const _
  | inside varied => exact varied.same_name
  | record => exact same_const none
  | value => exact same_const none

/-- Only the record of the constant itself is printed as a literal of the text. -/
theorem Varied.literal {loose : Bool} {tree : String → Tree} (varied : Varied loose tree) :
    Prints Embeds loose fun text => textLiteral (tree text) := by
  cases varied with
  | fixed tree => exact same_const _
  | inside varied => exact .inl varied.same_literal
  | record =>
      refine .inr ⟨"", "", fun text => ?_⟩
      rw [String.empty_append, String.append_empty]
      rfl
  | value => exact .inl ⟨.ok (quote ""), fun _ => rfl⟩

/-! ## Printing -/

theorem embeds_around {printed : String → Printed} (before after : String)
    (embeds : Embeds printed) :
    Embeds fun text => (fun inner => before ++ inner ++ after) <$> printed text := by
  rcases embeds with same | ⟨front, back, equal⟩
  · exact .inl (Same.map same _)
  · refine .inr ⟨before ++ front, back ++ after, fun text => ?_⟩
    simp [equal, String.append_assoc]

def constantFamilies : Families String where
  Part := Varied
  Loose := Embeds
  loose_of_same := .inl
  loose_around := embeds_around
  same_or_texts := by
    rintro results (same | ⟨before, after, equal⟩)
    · exact .inl same
    · exact .inr ⟨_, equal⟩
  shows := Varied.shows
  name := Varied.same_name
  literal := fun _ _ varied => varied.literal

theorem depthItems_append_cons (front back : List Tree) (item : Tree) :
    Tree.depthItems (front ++ item :: back) =
      max item.depth (max (Tree.depthItems front) (Tree.depthItems back)) := by
  induction front with
  | nil => simp [Tree.depthItems]
  | cons first rest ih =>
      simp only [List.cons_append, Tree.depthItems, ih]
      omega

theorem depthFields_append_cons (front back : List (String × Tree)) (key : String) (value : Tree) :
    Tree.depthFields (front ++ (key, value) :: back) =
      max value.depth (max (Tree.depthFields front) (Tree.depthFields back)) := by
  induction front with
  | nil => simp [Tree.depthFields]
  | cons first rest ih =>
      rcases first with ⟨name, other⟩
      simp only [List.cons_append, Tree.depthFields, ih]
      omega

theorem OneConstant.same_depth {tree : String → Tree} (varied : OneConstant tree) :
    Same fun text => (tree text).depth := by
  induction varied with
  | here => exact same_const 3
  | item front back inside ih =>
      simp only [Tree.depth, depthItems_append_cons]
      exact ih.map fun depth => max depth (max (Tree.depthItems front) (Tree.depthItems back)) + 1
  | field front back key first inside ih =>
      simp only [Tree.depth, depthFields_append_cons]
      exact ih.map fun depth =>
        max depth (max (Tree.depthFields front) (Tree.depthFields back)) + 1

theorem Varied.same_depth {loose : Bool} {tree : String → Tree} (varied : Varied loose tree) :
    Same fun text => (tree text).depth := by
  cases varied with
  | fixed tree => exact same_const _
  | inside varied => exact varied.same_depth
  | record => exact same_const 2
  | value => exact same_const 1

theorem handles_expression : Handles Varied Embeds fun _ => expression := by
  intro loose tree varied
  rcases varied.same_depth with ⟨depth, equal⟩
  simp only [expression, equal]
  exact Comparison.handles_expression constantFamilies (depth + 1) varied

theorem handles_statement : Handles Varied Embeds fun _ => statement := by
  intro loose tree varied
  rcases varied.same_depth with ⟨depth, equal⟩
  simp only [statement, equal]
  exact Comparison.handles_statement constantFamilies (depth + 1) varied

theorem handles_shell : Handles Varied Embeds fun _ => shell :=
  Comparison.handles_shell constantFamilies handles_statement

/--
However a string constant is nested in a tree, its text does not change the shape of the printed
SQL. The result does not depend on the text, or it is the quoted text between two texts that do not
depend on it. Both hold of a shell that is printed as statements and of a tree that is printed as
an expression.
-/
theorem string_data_keeps_shape (tree : Tree) (path : List Segment) (text : String)
    (found : tree.resolve? path = some (Node.textConstant text)) :
    tree.put path (Node.textConstant text) = tree ∧
      Embeds (fun other => Recorded.parser.print (tree.put path (Node.textConstant other))) ∧
      Embeds fun other => Recorded.parser.printNode (tree.put path (Node.textConstant other)) := by
  have varied : Varied true fun other => tree.put path (Node.textConstant other) :=
    .inside (oneConstant_put found)
  exact ⟨Tree.put_of_resolve? found, handles_shell varied, handles_expression varied⟩

/-- A list of two roles behind IN, in the condition of a query. The second text has quotes. -/
def roleList : Tree :=
  .shell [.node "SelectStmt" (.object
    [("fromClause", .list [.node "RangeVar" (.object [("relname", .text "users")])]),
      ("whereClause", .node "A_Expr" (.object
        [("kind", .text "AEXPR_IN"), ("lexpr", Node.column "role"),
          ("rexpr", Node.list [Node.textConstant "admin", Node.textConstant "' OR ''='"])]))])]

def secondRole : List Segment :=
  [.field "stmts", .index 0, .field "stmt", .field "whereClause", .field "rexpr", .field "items",
    .index 1]

theorem secondRole_is_quoted :
    roleList.resolve? secondRole = some (Node.textConstant "' OR ''='") ∧
      ∃ before after, ∀ text,
        Recorded.parser.print (roleList.put secondRole (Node.textConstant text)) =
          .ok (before ++ quote text ++ after) := by
  have found : roleList.resolve? secondRole = some (Node.textConstant "' OR ''='") := by decide
  refine ⟨found, ?_⟩
  rcases (string_data_keeps_shape roleList secondRole _ found).2.1 with ⟨result, same⟩ | embeds
  · exact absurd ((same "").trans (same "a").symm) (by decide +kernel)
  · exact embeds

end SqlTree.Print

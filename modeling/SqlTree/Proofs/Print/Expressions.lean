import Mathlib.Tactic.SplitIfs
import SqlTree.Proofs.Print.Comparison

/-!
# Expressions side by side

One level of an expression, printed for a family of trees. Names, operators and key words are read
from fields that the members of a family share, so that only the printed parts can differ.
-/

namespace SqlTree.Print

variable {ι : Type}

theorem join_around (separator : String) (front back : List String) :
    ∃ before after, ∀ text,
      Text.join separator (front ++ text :: back) = before ++ text ++ after := by
  induction front with
  | nil =>
      cases back with
      | nil => exact ⟨"", "", fun text => by simp [Text.join]⟩
      | cons next rest =>
          exact ⟨"", separator ++ Text.join separator (next :: rest), fun text => by
            simp [Text.join, String.append_assoc]⟩
  | cons first rest ih =>
      rcases ih with ⟨before, after, built⟩
      have cons (text : String) :
          Text.join separator (first :: (rest ++ text :: back)) =
            first ++ separator ++ Text.join separator (rest ++ text :: back) := by
        cases rest <;> simp [Text.join]
      exact ⟨first ++ separator ++ before, after, fun text => by
        simp [cons, built, String.append_assoc]⟩

namespace Comparison

variable {comparison : Comparison ι} {loose : Bool} {tree record : ι → Tree}
  {items : ι → List Tree}

/-! ## Names -/

theorem same_columnPart (seen : comparison.Part loose tree) :
    Same fun index => columnPart (tree index) :=
  (same_kind? (comparison.shows seen)).map₂ (comparison.name seen) fun kind name =>
    if kind = some "A_Star" then "*" else name.getD ""

theorem same_map {view : Tree → String}
    (same : ∀ {loose : Bool} {tree : ι → Tree}, comparison.Part loose tree →
      Same fun index => view (tree index))
    (parts : PartItems comparison.Part loose items) :
    Same fun index => (items index).map view := by
  induction parts with
  | nil => exact same_const []
  | first part others ih | later part others ih => exact (same part).map₂ ih List.cons

theorem same_names (seen : Shows comparison.Part loose record) (key : String)
    (read : isRead key = true) (separator : String) :
    Same fun index => nameList ((record index).itemsAt key) separator :=
  same_nameList (partItems_itemsAt seen key read) separator

theorem same_operator (seen : Shows comparison.Part loose record) :
    Same fun index => Printer.operator (record index) := by
  have first {items : ι → List Tree} (parts : PartItems comparison.Part loose items) :
      Same fun index => ((items index).head?.bind Node.nameText?).getD "=" := by
    cases parts with
    | nil => exact same_const "="
    | first part others | later part others => exact (comparison.name part).map (·.getD "=")
  exact first (partItems_itemsAt seen "name" rfl)

/-! ## Constants -/

theorem same_number (seen : Shows comparison.Part loose record) (key : String)
    (read : isRead key = true) :
    Same fun index => ((record index).get? key).bind (·.int?) := by
  rcases seen.record with ⟨slot, fields⟩
  exact same_bind (fields.field key read) fun part => (comparison.shows part).int

theorem prints_constant (part : comparison.Part loose record) :
    Prints comparison.Loose loose fun index => constant (record index) := by
  have seen := comparison.shows part
  rcases seen.record with ⟨slot, fields⟩
  rcases same_flagAt seen "isnull" rfl with ⟨null, nullEqual⟩
  simp only [constant_eq, nullEqual]
  split
  · exact prints_of_same (same_const _)
  apply prints_elim_same (fields.field "ival" (by decide)) _ fun value =>
    (same_number (comparison.shows value) "ival" rfl).map fun number =>
      (.ok (toString (number.getD 0)) : Printed)
  apply prints_elim_same (fields.field "fval" (by decide)) _ fun value =>
    (same_textAt? (comparison.shows value) "fval" rfl).map fun text =>
      (.ok (text.getD "0") : Printed)
  apply prints_elim_same (fields.field "boolval" (by decide)) _ fun value =>
    (same_flagAt (comparison.shows value) "boolval" rfl).map fun flag =>
      (.ok (if flag then "true" else "false") : Printed)
  exact comparison.literal part

/-! ## Types -/

/-- Texts that are all the same, or all the same except for one that is loose. -/
def Texts (comparison : Comparison ι) (loose : Bool) (texts : ι → List String) : Prop :=
  Same texts ∨ loose = true ∧ ∃ front back, ∃ text : ι → String,
    (∀ index, texts index = front ++ text index :: back) ∧
      comparison.Loose fun index => pure (text index)

/-- The modifiers of a type that can be printed. -/
def modifiers (printer : Printer) (items : List Tree) : List String :=
  items.filterMap fun modifier => (printer.expression modifier).toOption

theorem modifiers_cons (printer : Printer) (item : Tree) (items : List Tree) :
    modifiers printer (item :: items) =
      (printer.expression item).toOption.toList ++ modifiers printer items := by
  unfold modifiers
  rw [List.filterMap_cons]
  cases (printer.expression item).toOption <;> rfl

theorem texts_modifiers (parts : PartItems comparison.Part loose items) :
    comparison.Texts loose fun index => modifiers (comparison.printer index) (items index) := by
  induction parts with
  | nil => exact .inl (same_const [])
  | @first loose item items part others ih =>
      obtain ⟨rest, restEqual⟩ : Same _ := ih.resolve_right (by simp)
      have ofSame
          (same : Same fun index => (comparison.printer index).expression (item index)) :
          Same fun index => modifiers (comparison.printer index) (item index :: items index) := by
        simpa [modifiers_cons, restEqual] using same.map fun result =>
          result.toOption.toList ++ rest
      have printed := comparison.expression part
      cases loose with
      | false => exact .inl (ofSame printed)
      | true =>
          rcases comparison.same_or_texts printed with same | ⟨text, equal⟩
          · exact .inl (ofSame same)
          · refine .inr ⟨rfl, [], rest, text, fun index => ?_, ?_⟩
            · simp [modifiers_cons, restEqual, equal, Except.toOption]
            · simp only [equal] at printed
              exact printed
  | @later loose item items part others ih =>
      rcases comparison.expression part with ⟨result, equal⟩
      rcases ih with ⟨rest, restEqual⟩ | ⟨isLoose, front, back, text, restEqual, form⟩
      · exact .inl ⟨result.toOption.toList ++ rest, fun index => by
          simp [modifiers_cons, equal, restEqual]⟩
      · exact .inr ⟨isLoose, result.toOption.toList ++ front, back, text, fun index => by
          simp [modifiers_cons, equal, restEqual], form⟩

theorem prints_typeName (seen : Shows comparison.Part loose record) :
    Prints comparison.Loose loose fun index =>
      pure ((comparison.printer index).typeName (record index)) := by
  rcases same_names seen "names" rfl "." with ⟨names, namesEqual⟩
  let text (texts : List String) : String :=
    let name := Text.dropStart "pg_catalog." names
    if texts.isEmpty then name else name ++ "(" ++ Text.join ", " texts ++ ")"
  have shape (index : ι) :
      (comparison.printer index).typeName (record index) =
        text (modifiers (comparison.printer index) ((record index).itemsAt "typmods")) := by
    simp only [Printer.typeName, namesEqual, text, modifiers]
  simp only [shape]
  rcases texts_modifiers (partItems_itemsAt seen "typmods" rfl) with
    same | ⟨rfl, front, back, modifier, equal, form⟩
  · exact prints_text (same.map text)
  · rcases join_around ", " front back with ⟨before, after, built⟩
    have around := comparison.loose_around
      (Text.dropStart "pg_catalog." names ++ "(" ++ before) (after ++ ")") form
    simpa [Prints, text, equal, built, String.append_assoc] using around

/-! ## Operators -/

theorem same_length (parts : PartItems comparison.Part loose items) :
    Same fun index => (items index).length := by
  induction parts with
  | nil => exact same_const 0
  | first part others ih | later part others ih => exact ih.map (· + 1)

/-- The two bounds of BETWEEN are a list with the word AND for a separator. -/
def between (items : List Tree) (print : Tree → Printed) : Printed :=
  if items.length = 2 then (" BETWEEN " ++ ·) <$> joined " AND " items print
  else .error (cannotPrint "BETWEEN bounds")

theorem bounds_eq (tree : Tree) (print : Tree → Printed) :
    (do
      let (low, high) ← Printer.bounds tree
      let low ← print low
      let high ← print high
      return "" ++ " BETWEEN " ++ low ++ " AND " ++ high) =
      (tree.recordOf? "List").elim (.error (cannotPrint "BETWEEN bounds"))
        fun record => between (record.itemsAt "items") print := by
  unfold Printer.bounds
  cases tree.recordOf? "List" with
  | none => rfl
  | some record =>
      dsimp only [Option.elim]
      generalize record.itemsAt "items" = items
      rcases items with _ | ⟨low, _ | ⟨high, _ | ⟨next, rest⟩⟩⟩ <;>
        simp [between, joined_cons_cons, String.append_assoc]

theorem handles_between : Handles comparison.Part comparison.Loose fun index record =>
    between (record.itemsAt "items") (comparison.printer index).expression := by
  intro loose record part
  have parts := partItems_itemsAt (comparison.shows part) "items" rfl
  rcases same_length parts with ⟨length, equal⟩
  simp only [between, equal]
  split
  · simpa using prints_around (prints_joined comparison.expression " AND " parts) " BETWEEN " ""
  · exact prints_error _

/-- The items of a list node. -/
theorem partItems_ofNode (seen : Shows comparison.Part loose tree) :
    PartItems comparison.Part loose fun index =>
      ((tree index).record?.map (·.itemsAt "items")).getD [] := by
  have opened {option : ι → Option Tree} (found : PartOption comparison.Part loose option) :
      PartItems comparison.Part loose fun index =>
        ((option index).map (·.itemsAt "items")).getD [] := by
    cases found with
    | none => exact .nil loose
    | some part => exact partItems_itemsAt (comparison.shows part) "items" rfl
  exact opened (partOption_record? seen)

theorem handles_rightHandSide (seen : Shows comparison.Part loose record) :
    Handles comparison.Part comparison.Loose fun index =>
      (comparison.printer index).rightHandSide (record index) "" := by
  intro loose right part
  rcases same_textAt? seen "kind" rfl with ⟨word, equal⟩
  rcases same_operator seen with ⟨operator, operatorEqual⟩
  have printed := comparison.expression part
  have rightSeen := comparison.shows part
  simp only [Printer.rightHandSide, equal]
  split
  · simpa using prints_around printed " LIKE " ""
  · simpa using prints_around printed " ILIKE " ""
  · simp only [bounds_eq]
    exact prints_elim (partOption_recordOf? rightSeen "List") (prints_error _) handles_between
  · have list := prints_commaList comparison.expression (partItems_ofNode rightSeen)
    simpa using prints_around list " IN (" ")"
  · simpa [operatorEqual] using prints_around printed (" " ++ operator ++ " ") ""

theorem prints_binary (seen : Shows comparison.Part loose record) :
    Prints comparison.Loose loose fun index =>
      (comparison.printer index).binary (record index) := by
  rcases seen.record with ⟨slot, fields⟩
  have left := Reads.ofRequired fields "lexpr" rfl comparison.expression
  have right := Reads.ofRequired fields "rexpr" rfl (handles_rightHandSide seen)
  simp only [Printer.binary_eq]
  exact ((left.cons (right.cons .nil)).concat (by decide)).prints fields.absent

theorem handles_argument : Handles comparison.Part comparison.Loose fun index =>
    (comparison.printer index).argument := by
  intro loose tree part
  rcases same_kind? (comparison.shows part) with ⟨kind, equal⟩
  simp only [Printer.argument, equal]
  split
  · simpa using prints_around (comparison.expression part) "(" ")"
  · simpa using comparison.expression part

theorem prints_boolean (seen : Shows comparison.Part loose record) :
    Prints comparison.Loose loose fun index =>
      (comparison.printer index).boolean (record index) := by
  rcases same_textAt? seen "boolop" rfl with ⟨word, equal⟩
  have parts := partItems_itemsAt seen "args" rfl
  simp only [Printer.boolean, equal]
  split
  · simpa [joined] using prints_around (prints_joined handles_argument "" parts) "NOT " ""
  · exact prints_joined handles_argument " OR " parts
  · exact prints_joined handles_argument " AND " parts

theorem prints_required (seen : Shows comparison.Part loose record) (key : String)
    (read : isRead key = true) {print : ι → Tree → Printed}
    (handles : Handles comparison.Part comparison.Loose print) :
    Prints comparison.Loose loose fun index => required (record index) key >>= print index := by
  rcases seen.record with ⟨slot, fields⟩
  exact (Reads.ofRequired fields key read handles).prints fields.absent

theorem prints_nullTest (seen : Shows comparison.Part loose record) :
    Prints comparison.Loose loose fun index =>
      (comparison.printer index).nullTest (record index) := by
  rcases same_textAt? seen "nulltesttype" rfl with ⟨word, equal⟩
  have argument := prints_required seen "arg" rfl comparison.expression
  simp only [Printer.nullTest, equal]
  split
  · simpa using prints_around argument "" " IS NOT NULL"
  · simpa using prints_around argument "" " IS NULL"

/-! ## Calls, casts and subqueries -/

theorem prints_call (seen : Shows comparison.Part loose record) :
    Prints comparison.Loose loose fun index =>
      (comparison.printer index).call (record index) := by
  rcases same_names seen "funcname" rfl "." with ⟨name, nameEqual⟩
  rcases same_flagAt seen "agg_star" rfl with ⟨star, starEqual⟩
  have arguments := prints_commaList comparison.expression (partItems_itemsAt seen "args" rfl)
  simp only [Printer.call, nameEqual, starEqual]
  split
  · exact prints_of_same (same_const _)
  · simpa [String.append_assoc] using prints_around arguments (name ++ "(") ")"

theorem prints_cast (seen : Shows comparison.Part loose record) :
    Prints comparison.Loose loose fun index =>
      (comparison.printer index).cast (record index) := by
  rcases seen.record with ⟨slot, fields⟩
  have typeHandled : Handles comparison.Part comparison.Loose fun index type =>
      pure ("::" ++ (comparison.printer index).typeName type) := by
    intro loose type part
    simpa using prints_around (prints_typeName (comparison.shows part)) "::" ""
  have argument := Reads.ofRequired fields "arg" rfl comparison.expression
  have type := Reads.ofRequired fields "typeName" rfl typeHandled
  simp only [Printer.cast_eq]
  exact ((argument.cons (type.cons .nil)).concat (by decide)).prints fields.absent

theorem prints_subquery (seen : Shows comparison.Part loose record) :
    Prints comparison.Loose loose fun index =>
      (comparison.printer index).subquery (record index) := by
  rcases seen.record with ⟨slot, fields⟩
  rcases same_textAt? seen "subLinkType" rfl with ⟨word, equal⟩
  have query := Reads.ofRequired fields "subselect" rfl comparison.statement
  have text := Reads.ofRequired fields "testexpr" rfl comparison.expression
  simp only [Printer.subquery, equal]
  split
  · simpa using prints_around (query.prints fields.absent) "EXISTS (" ")"
  · have both := query.both text (by decide) (fun query text => text ++ " IN (" ++ query ++ ")")
      (fun other => ⟨other ++ " IN (", ")", fun query => rfl⟩)
      (fun other => ⟨"", " IN (" ++ other ++ ")", fun text => by simp [String.append_assoc]⟩)
    simpa using both.prints fields.absent
  · simpa using prints_around (query.prints fields.absent) "(" ")"

/-! ## Expressions -/

theorem prints_targetRecord (seen : Shows comparison.Part loose record) :
    Prints comparison.Loose loose fun index =>
      (comparison.printer index).targetRecord (record index) := by
  rcases seen.record with ⟨slot, fields⟩
  rcases same_textAt? seen "name" rfl with ⟨name, equal⟩
  have targetHandled : Handles comparison.Part comparison.Loose fun index value =>
      match name with
      | some name => do return (← (comparison.printer index).expression value) ++ " AS " ++ name
      | none => (comparison.printer index).expression value := by
    intro loose value part
    cases name with
    | some name =>
        simpa [String.append_assoc] using
          prints_around (comparison.expression part) "" (" AS " ++ name)
    | none => exact comparison.expression part
  have value := Reads.ofOption fields "val" rfl
    (fun index option => option.elim
      (match name with
        | some name => .ok name
        | none => .error (cannotPrint "empty ResTarget")) _)
    (fun found => prints_elim found (prints_of_same (same_const _)) targetHandled)
  convert value.prints fields.absent using 2 with index
  simp only [Printer.targetRecord, equal]
  cases (record index).get? "val" <;> cases name <;> rfl

theorem prints_expressionOf (kind : String) (part : comparison.Part loose record) :
    Prints comparison.Loose loose fun index =>
      (comparison.printer index).expressionOf kind (record index) := by
  have seen := comparison.shows part
  unfold Printer.expressionOf
  split
  · have parts := same_map same_columnPart (partItems_itemsAt seen "fields" rfl)
    exact prints_text (parts.map (Text.join "."))
  · exact prints_constant part
  · exact prints_binary seen
  · exact prints_boolean seen
  · exact prints_nullTest seen
  · exact prints_call seen
  · exact prints_text ((same_number seen "number" rfl).map fun number =>
      "$" ++ toString (number.getD 0))
  · exact prints_cast seen
  · exact prints_subquery seen
  · exact prints_targetRecord seen
  · exact prints_error _

theorem prints_expressionLevel (seen : Shows comparison.Part loose tree) :
    Prints comparison.Loose loose fun index =>
      (comparison.printer index).expressionLevel (tree index) := by
  unfold Printer.expressionLevel
  rcases seen.node.none_or_some with untagged | ⟨kind, record, part, tagged⟩
  · simp only [untagged]
    exact prints_error _
  · simp only [tagged]
    exact prints_expressionOf kind part

end Comparison

end SqlTree.Print

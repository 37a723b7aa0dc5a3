import Mathlib.Data.List.Forall2
import SqlTree.Node.TypeName
import SqlTree.Proofs.Text.Integer
import SqlTree.Proofs.Text.Splitting
import SqlTree.Proofs.Text.Trimming

/-!
# Written types

A type with integer modifiers can be written in many ways: blanks may stand around the name, around
each modifier, behind the closing parenthesis, and around the whole. All of them are read as the
record that is built from the name and the modifiers directly.

How a text is read depends on its first opening parenthesis only. `writtenType_of_not_mem` and
`writtenType_of_parentheses` are the two cases, whatever stands between the parentheses.
-/

namespace SqlTree.Node

open Text (AllBlank Padded Trimmed)

/-- The ways to write modifiers between the parentheses. Without any, blanks may stand there. -/
inductive SpellsModifiers : List Int → String → Prop
  | blank {blanks : String} (blank : AllBlank blanks.toList) : SpellsModifiers [] blanks
  | list {modifiers : List Int} {pieces : List String} (some : modifiers ≠ [])
      (padded : List.Forall₂ (fun modifier piece => Padded (toString modifier) piece)
        modifiers pieces) :
      SpellsModifiers modifiers (Text.join "," pieces)

/-- The ways to write a type: its name alone, or with modifiers in parentheses behind it. -/
inductive SpellsType (name : String) : List Int → String → Prop
  | bare {written : String} (padded : Padded name written) : SpellsType name [] written
  | modified {modifiers : List Int} {front inner after : String} (padded : Padded name front)
      (spelled : SpellsModifiers modifiers inner) (blank : AllBlank after.toList) :
      SpellsType name modifiers (front ++ "(" ++ inner ++ ")" ++ after)

/-! ## How a text is read -/

/-- A text without an opening parenthesis is a name. -/
theorem writtenType_of_not_mem {written : String} (plain : '(' ∉ written.toList) :
    writtenType written = typeRecord (Text.trim written) [] := by
  have absent : '(' ∉ Text.trimChars written.toList := fun mem =>
    plain (Text.mem_of_mem_trimChars mem)
  have whole : Text.splitFirst? '(' (Text.trim written) = none := by
    simp [Text.splitFirst?, Text.trim, Text.splitFirstChars?_of_not_mem absent]
  simp only [writtenType, whole]

/-- The first parenthesis is opened behind the name, and the last one closes the modifiers. -/
theorem writtenType_of_parentheses {front inner after : String} (plain : '(' ∉ front.toList)
    (blank : AllBlank after.toList) :
    writtenType (front ++ "(" ++ inner ++ ")" ++ after) =
      typeRecord (Text.trim front) (typeModifiers inner) := by
  let name := front.toList.dropWhile Text.isBlank
  have closed : ∀ characters : List Char,
      Text.dropEndWhile Text.isBlank (characters ++ [')']) = characters ++ [')'] := by
    intro characters
    apply Text.dropEndWhile_of_last
    intro last mem
    rw [List.getLast?_concat, Option.mem_some_iff] at mem
    subst mem
    decide
  have trimmed : Text.trim (front ++ "(" ++ inner ++ ")" ++ after) =
      String.ofList (name ++ '(' :: (inner.toList ++ [')'])) := by
    have characters : (front ++ "(" ++ inner ++ ")" ++ after).toList =
        front.toList ++ '(' :: (inner.toList ++ [')'] ++ after.toList) := by
      simp
    rw [Text.trim, Text.trimChars, characters, Text.dropWhile_append_cons (by decide),
      ← List.cons_append, ← List.append_assoc, Text.dropEndWhile_append blank,
      ← List.cons_append, ← List.append_assoc, closed]
  have absent : '(' ∉ name := fun mem =>
    plain ((List.dropWhile_sublist Text.isBlank).subset mem)
  have split : Text.splitFirst? '(' (String.ofList (name ++ '(' :: (inner.toList ++ [')']))) =
      some (String.ofList name, String.ofList (inner.toList ++ [')'])) := by
    simp [Text.splitFirst?, Text.splitFirstChars?_append_cons absent]
  have unclosed : Text.dropLast? ')' (Text.trimEnd (String.ofList (inner.toList ++ [')']))) =
      some inner := by
    simp [Text.trimEnd, closed, Text.dropLast?]
  have named : Text.trim (String.ofList name) = Text.trim front := by
    simp only [Text.trim, String.toList_ofList]
    rw [Text.trimChars_dropWhile]
  simp only [writtenType, trimmed, split, unclosed, named]

/-! ## Modifiers -/

theorem typeModifier_toString {modifier : Int} (fits : Text.fitsInt64 modifier = true) :
    typeModifier (toString modifier) = intConstant modifier := by
  rw [typeModifier, Text.int64?_toString fits]

theorem trimmed_toString (modifier : Int) : Trimmed (toString modifier).toList := by
  apply Trimmed.of_forall
  intro character mem
  exact Text.isBlank_of_isIntegerCharacter (Text.isIntegerCharacter_of_mem mem)

theorem typeModifiers_of_blank {blanks : String} (blank : AllBlank blanks.toList) :
    typeModifiers blanks = [] := by
  have absent : ',' ∉ blanks.toList := by
    intro mem
    exact absurd (blank ',' mem) (by decide)
  simp [typeModifiers, Text.split_of_not_mem absent, blank.trim_eq]

theorem comma_not_mem {modifier : Int} {piece : String}
    (padded : Padded (toString modifier) piece) : ',' ∉ piece.toList := by
  apply padded.not_mem (by decide)
  intro inside
  exact absurd (Text.isIntegerCharacter_of_mem inside) (by decide)

/-- Trimmed, the pieces are the decimal texts, and none of them is empty. -/
theorem pieces_read {modifiers : List Int} {pieces : List String}
    (fits : ∀ modifier ∈ modifiers, Text.fitsInt64 modifier = true)
    (padded : List.Forall₂ (fun modifier piece => Padded (toString modifier) piece)
      modifiers pieces) :
    ((pieces.map Text.trim).filter (· ≠ "")).map typeModifier = modifiers.map intConstant := by
  induction padded with
  | nil => rfl
  | @cons modifier piece modifiers pieces spelled others ih =>
      rw [List.forall_mem_cons] at fits
      have read : Text.trim piece = toString modifier := spelled.trim_eq (trimmed_toString modifier)
      have kept := List.filter_cons_of_pos (p := fun text => decide (text ≠ ""))
        (l := pieces.map Text.trim) (decide_eq_true (Text.toString_int_ne_empty modifier))
      rw [List.map_cons, read, kept, List.map_cons, ih fits.2, typeModifier_toString fits.1,
        List.map_cons]

theorem typeModifiers_join {modifiers : List Int} {pieces : List String} (some : modifiers ≠ [])
    (fits : ∀ modifier ∈ modifiers, Text.fitsInt64 modifier = true)
    (padded : List.Forall₂ (fun modifier piece => Padded (toString modifier) piece)
      modifiers pieces) :
    typeModifiers (Text.join "," pieces) = modifiers.map intConstant := by
  have nonempty : pieces ≠ [] := by
    rintro rfl
    cases padded
    exact some rfl
  have absent : ∀ piece ∈ pieces, ',' ∉ piece.toList := by
    clear some fits nonempty
    induction padded with
    | nil => simp
    | cons spelled others ih => exact List.forall_mem_cons.mpr ⟨comma_not_mem spelled, ih⟩
  have split : Text.split ',' (Text.join "," pieces) = pieces :=
    Text.split_join nonempty absent
  rw [typeModifiers, split]
  exact pieces_read fits padded

theorem SpellsModifiers.typeModifiers_eq {modifiers : List Int} {inner : String}
    (spelled : SpellsModifiers modifiers inner)
    (fits : ∀ modifier ∈ modifiers, Text.fitsInt64 modifier = true) :
    typeModifiers inner = modifiers.map intConstant := by
  cases spelled with
  | blank blank => exact typeModifiers_of_blank blank
  | list some padded => exact typeModifiers_join some fits padded

/-! ## Every spelling -/

/--
Every way to write a type with integer modifiers is read as the record of its name and its
modifiers: the parts of the name between the dots, and a constant for each modifier in order. A type
without modifiers has no field for them.
-/
theorem every_spelling_is_read {name written : String} {modifiers : List Int}
    (plain : '(' ∉ name.toList) (trimmed : Trimmed name.toList)
    (fits : ∀ modifier ∈ modifiers, Text.fitsInt64 modifier = true)
    (spelled : SpellsType name modifiers written) :
    writtenType written = typeName name modifiers ∧
      (writtenType written).get? "names" = some (names (Text.split '.' name)) ∧
      (writtenType written).get? "typmods" =
        if modifiers = [] then none else some (.list (modifiers.map intConstant)) := by
  have read : writtenType written = typeName name modifiers := by
    cases spelled with
    | bare padded =>
        have absent : '(' ∉ written.toList := padded.not_mem (by decide) plain
        rw [writtenType_of_not_mem absent, padded.trim_eq trimmed]
        rfl
    | @modified _ front inner after padded spelled blank =>
        have absent : '(' ∉ front.toList := padded.not_mem (by decide) plain
        rw [writtenType_of_parentheses absent blank, padded.trim_eq trimmed,
          spelled.typeModifiers_eq fits]
        rfl
  refine ⟨read, ?_, ?_⟩
  · rw [read]
    rfl
  · rw [read]
    cases modifiers with
    | nil => rfl
    | cons modifier others => rfl

/-- Blanks in every gap, a sign, and both ends of the range. -/
theorem spacedNumeric_is_read :
    '(' ∉ "pg_catalog.numeric".toList ∧ Trimmed "pg_catalog.numeric".toList ∧
      (∀ modifier ∈ [-0x8000000000000000, 0x7FFFFFFFFFFFFFFF],
        Text.fitsInt64 modifier = true) ∧
      writtenType
          "\t pg_catalog.numeric ( -9223372036854775808 ,\n9223372036854775807\u00A0)\u3000 " =
        typeName "pg_catalog.numeric" [-0x8000000000000000, 0x7FFFFFFFFFFFFFFF] := by
  have plain : '(' ∉ "pg_catalog.numeric".toList := by decide
  have trimmed : Trimmed "pg_catalog.numeric".toList := by
    constructor <;> rintro _ ⟨⟩ <;> decide
  have fits : ∀ modifier ∈ [-0x8000000000000000, 0x7FFFFFFFFFFFFFFF],
      Text.fitsInt64 modifier = true := by decide
  have front : Padded "pg_catalog.numeric" "\t pg_catalog.numeric " :=
    ⟨"\t ", " ", by decide, by decide, by decide⟩
  have least : Padded (toString (-0x8000000000000000 : Int)) " -9223372036854775808 " :=
    ⟨" ", " ", by decide, by decide, by decide⟩
  have greatest : Padded (toString (0x7FFFFFFFFFFFFFFF : Int)) "\n9223372036854775807\u00A0" :=
    ⟨"\n", "\u00A0", by decide, by decide, by decide⟩
  have inner := SpellsModifiers.list (by decide) (.cons least (.cons greatest .nil))
  have spelled := SpellsType.modified front inner (show AllBlank "\u3000 ".toList by decide)
  exact ⟨plain, trimmed, fits, (every_spelling_is_read plain trimmed fits spelled).1⟩

end SqlTree.Node

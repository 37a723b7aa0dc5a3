import SqlTree.Proofs.Print.Nodes
import SqlTree.Proofs.Text.Integer

/-!
# Reading literals back

A reader of SQL goes through a string literal from its opening quote on. Two quotes stand for one,
and a quote without a second one behind it ends the literal. So the reader looks one character
ahead, and where a literal ends depends on what follows it.

A printed string is read as the string it was made of, and everything behind it is left, as long as
what follows does not begin with a quote. If it does, the reader takes that quote for a part of the
string. `readBody?_quoted` says this with an arbitrary rest, which is the form that carries the
induction. No other literal is read as that string. A printed integer is its decimal text, which is
read as the same integer.
-/

namespace SqlTree.Print

/-- Reads a literal behind its opening quote: its characters, and what is behind its end. -/
def readBody? : List Char → Option (List Char × List Char)
  | [] => none
  | character :: rest =>
      if character = '\'' then
        match rest with
        | [] => some ([], [])
        | next :: others =>
            if next = '\'' then (readBody? others).map fun (text, behind) => ('\'' :: text, behind)
            else some ([], next :: others)
      else (readBody? rest).map fun (text, behind) => (character :: text, behind)

/-- Reads the string literal that a text begins with. -/
def readLiteral? (source : String) : Option (String × String) :=
  match source.toList with
  | [] => none
  | first :: body =>
      if first = '\'' then
        (readBody? body).map fun (text, behind) => (String.ofList text, String.ofList behind)
      else none

/-- However a character is quoted, the reader takes it for one character. -/
theorem readBody?_quoteChar (character : Char) (rest : List Char) :
    readBody? (quoteChar character ++ rest) =
      (readBody? rest).map fun (text, behind) => (character :: text, behind) := by
  unfold quoteChar
  split
  · next quote => simp [readBody?, quote]
  · next plain => cases rest <;> simp [readBody?, plain]

theorem readBody?_quoted (text rest : List Char) :
    readBody? (text.flatMap quoteChar ++ rest) =
      (readBody? rest).map fun (read, behind) => (text ++ read, behind) := by
  induction text with
  | nil => simp
  | cons character others ih =>
      rw [List.flatMap_cons, List.append_assoc, readBody?_quoteChar, ih, Option.map_map]
      rfl

/-- A quote ends a literal if no second one follows. -/
theorem readBody?_closing {rest : List Char} (ends : rest.head? ≠ some '\'') :
    readBody? ('\'' :: rest) = some ([], rest) := by
  cases rest with
  | nil => simp [readBody?]
  | cons next others =>
      have other : next ≠ '\'' := by simpa using ends
      simp [readBody?, other]

/-- What is read was quoted, and it was followed by a single quote. -/
theorem eq_of_readBody? {source text behind : List Char}
    (read : readBody? source = some (text, behind)) :
    source = text.flatMap quoteChar ++ '\'' :: behind ∧ behind.head? ≠ some '\'' := by
  induction source using readBody?.induct generalizing text behind with
  | case1 => simp [readBody?] at read
  | case2 =>
      simp only [readBody?, if_true, Option.some.injEq, Prod.mk.injEq] at read
      rcases read with ⟨rfl, rfl⟩
      simp
  | case3 others ih =>
      simp only [readBody?, if_true, Option.map_eq_some_iff, Prod.mk.injEq] at read
      rcases read with ⟨⟨inner, left⟩, further, rfl, rfl⟩
      rcases ih further with ⟨rfl, ends⟩
      exact ⟨by simp [quoteChar], ends⟩
  | case4 next others other =>
      simp only [readBody?, if_true, other, if_false, Option.some.injEq, Prod.mk.injEq] at read
      rcases read with ⟨rfl, rfl⟩
      simp [other]
  | case5 character rest plain ih =>
      have unread : readBody? (character :: rest) =
          (readBody? rest).map fun (text, behind) => (character :: text, behind) := by
        simpa [quoteChar, plain] using readBody?_quoteChar character rest
      rw [unread, Option.map_eq_some_iff] at read
      rcases read with ⟨⟨inner, left⟩, further, same⟩
      rw [Prod.mk.injEq] at same
      rcases same with ⟨rfl, rfl⟩
      rcases ih further with ⟨rfl, ends⟩
      exact ⟨by simp [quoteChar, plain], ends⟩

/-- A text has one literal, and it is read wherever no further quote stands behind it. -/
theorem readLiteral?_eq_some_iff {source text rest : String} :
    readLiteral? source = some (text, rest) ↔
      source = quote text ++ rest ∧ rest.toList.head? ≠ some '\'' := by
  constructor
  · intro read
    unfold readLiteral? at read
    split at read
    · cases read
    · next first body characters =>
      split at read
      · next opening =>
        rcases Option.map_eq_some_iff.mp read with ⟨⟨inner, behind⟩, further, same⟩
        rw [Prod.mk.injEq] at same
        rcases same with ⟨rfl, rfl⟩
        rcases eq_of_readBody? further with ⟨rfl, ends⟩
        constructor
        · apply String.toList_inj.mp
          simp [characters, opening, quote]
        · simpa using ends
      · cases read
  · rintro ⟨rfl, ends⟩
    have characters : (quote text ++ rest).toList =
        '\'' :: (text.toList.flatMap quoteChar ++ '\'' :: rest.toList) := by
      simp [quote]
    rw [readLiteral?, characters]
    simp [readBody?_quoted, readBody?_closing ends]

/--
A string constant is printed as a literal that is read as the same string with everything behind it
left over, wherever no quote follows; and nothing else is read as that string. An integer constant
is printed as the decimal text of the integer, and reading this text gives the integer.
-/
theorem literals_read_back :
    (∀ text : String, ∃ printed,
      expression (Operand.text text).literal = .ok printed ∧
        ∀ source rest : String, readLiteral? source = some (text, rest) ↔
          source = printed ++ rest ∧ rest.toList.head? ≠ some '\'') ∧
      ∀ value : Int, Text.fitsInt64 value = true → ∃ printed,
        expression (Operand.int value).literal = .ok printed ∧
          printed = toString value ∧ Text.int64? printed = some value := by
  constructor
  · intro text
    exact ⟨quote text, expression_textConstant text, fun _ _ => readLiteral?_eq_some_iff⟩
  · intro value fits
    have small : value < 0x8000000000000000 := by
      simp only [Text.fitsInt64, Bool.and_eq_true, decide_eq_true_eq] at fits
      exact fits.2
    exact ⟨toString value, expression_intConstant small, rfl, Text.int64?_toString fits⟩

/-- A text that would end its literal early, and the least integer. -/
theorem injection_and_least_integer_read_back :
    (∃ printed, expression (Operand.text "' OR ''='").literal = .ok printed ∧
      readLiteral? (printed ++ " AND active") = some ("' OR ''='", " AND active")) ∧
      Text.fitsInt64 (-0x8000000000000000) = true ∧
      ∃ printed, expression (Operand.int (-0x8000000000000000)).literal = .ok printed ∧
        Text.int64? printed = some (-0x8000000000000000) := by
  rcases literals_read_back.1 "' OR ''='" with ⟨literal, printed, reads⟩
  have fits : Text.fitsInt64 (-0x8000000000000000) = true := by decide
  rcases literals_read_back.2 _ fits with ⟨digits, written, _, back⟩
  have literalRead := (reads (literal ++ " AND active") " AND active").mpr ⟨rfl, by simp⟩
  exact ⟨⟨literal, printed, literalRead⟩, fits, digits, written, back⟩

end SqlTree.Print

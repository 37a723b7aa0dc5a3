import SqlTree.Proofs.Json.Decoded
import SqlTree.Proofs.Json.Token

/-!
# The JSON text of a tree

Reading the text of a tree gives the tree back, and nothing else. The text is read in front of any
rest that cannot continue a number, so that the argument goes from the parts of a tree to the tree:
what the reader leaves behind an item is the comma or the bracket that the writer put there.

The account of the nesting limit is exact. With room for a tree's depth the tree is read, and with
less room its text is refused: the reader gets down to the first container that is too deep, and
fails there. Both are one statement, `Json.readValue_writeTree`.

Each call of the reader has twice as much fuel as there are characters left, and a little more
where it only passes its text on. A written text is therefore never too long for its fuel.
-/

namespace SqlTree

namespace Json

/-! ## Steps of the reader -/

section Steps

variable {α : Type} (target : Target α)

theorem skipBlanks_cons {first : Char} (visible : isJsonBlank first = false) (rest : List Char) :
    skipBlanks (first :: rest) = first :: rest := by
  simp [skipBlanks, visible]

theorem visible_of_starts {first : Char} (starts : first = '-' ∨ first.isDigit = true) :
    isJsonBlank first = false ∧ first ≠ ']' := by
  rcases starts with rfl | digit
  · exact ⟨rfl, by decide⟩
  · constructor
    · simp only [isJsonBlank, Bool.or_eq_false_iff, beq_eq_false_iff_ne]
      refine ⟨⟨⟨?_, ?_⟩, ?_⟩, ?_⟩ <;> (rintro rfl; exact absurd digit (by decide))
    · rintro rfl
      exact absurd digit (by decide)

theorem readValue_of_number (fuel room : Nat) {first : Char} (rest : List Char)
    (starts : first = '-' ∨ first.isDigit = true) :
    readValue target (fuel + 1) room (first :: rest) =
      (readNumber (first :: rest)).map fun (value, rest) => (target.number value, rest) := by
  rw [readValue, skipBlanks_cons (visible_of_starts starts).1]
  split <;> simp_all

theorem readValue_list (fuel room : Nat) {first : Char} (rest : List Char)
    (visible : isJsonBlank first = false ∧ first ≠ ']') :
    readValue target (fuel + 1) (room + 1) ('[' :: first :: rest) =
      (readItems target fuel room (first :: rest)).map fun (items, rest) =>
        (target.list items, rest) := by
  simp [readValue, skipBlanks_cons (show isJsonBlank '[' = false from rfl),
    skipBlanks_cons visible.1, visible.2]

theorem readValue_object (fuel room : Nat) (rest : List Char) :
    readValue target (fuel + 1) (room + 1) ('\x7b' :: '"' :: rest) =
      (readFields target fuel room ('"' :: rest)).map fun (fields, rest) =>
        (target.object fields, rest) := by
  simp [readValue, skipBlanks_cons (show isJsonBlank '\x7b' = false from rfl),
    skipBlanks_cons (show isJsonBlank '"' = false from rfl)]

/-- Without room no container is read. -/
theorem readValue_no_room (fuel : Nat) {first : Char} (rest : List Char)
    (opens : first = '[' ∨ first = '\x7b') :
    readValue target (fuel + 1) 0 (first :: rest) = none := by
  rcases opens with rfl | rfl <;> simp [readValue, skipBlanks, isJsonBlank]

/-! A value that is read in a list or an object may be refused, and then the whole is refused. -/

section Containers

variable {fuel room : Nat} {text rest last : List Char} {item : α} {items : List α} {key : String}
  {fields : List (String × α)} {fits others : Prop} [Decidable fits] [Decidable others]

theorem readItems_last
    (read : readValue target fuel room text = if fits then some (item, ']' :: rest) else none) :
    readItems target (fuel + 1) room text = if fits then some ([item], rest) else none := by
  split_ifs at read ⊢
  · simp [readItems, read, skipBlanks_cons (show isJsonBlank ']' = false from rfl)]
  · simp [readItems, read]

theorem readItems_more
    (read : readValue target fuel room text = if fits then some (item, ',' :: rest) else none)
    (readOthers : readItems target fuel room rest = if others then some (items, last) else none) :
    readItems target (fuel + 1) room text =
      if fits ∧ others then some (item :: items, last) else none := by
  by_cases first : fits
  · rw [if_pos first] at read
    by_cases more : others <;>
      simp [readItems, read, skipBlanks_cons (show isJsonBlank ',' = false from rfl), readOthers,
        first, more]
  · rw [if_neg first] at read
    simp [readItems, read, first]

theorem readFields_last {afterKey : List Char}
    (keyRead : readKey fuel text = some (key, afterKey))
    (read : readValue target fuel room afterKey =
      if fits then some (item, '\x7d' :: rest) else none) :
    readFields target (fuel + 1) room text = if fits then some ([(key, item)], rest) else none := by
  split_ifs at read ⊢
  · simp [readFields, keyRead, read, skipBlanks_cons (show isJsonBlank '\x7d' = false from rfl)]
  · simp [readFields, keyRead, read]

theorem readFields_more {afterKey : List Char}
    (keyRead : readKey fuel text = some (key, afterKey))
    (read : readValue target fuel room afterKey = if fits then some (item, ',' :: rest) else none)
    (readOthers : readFields target fuel room rest =
      if others then some (fields, last) else none) :
    readFields target (fuel + 1) room text =
      if fits ∧ others then some ((key, item) :: fields, last) else none := by
  by_cases first : fits
  · rw [if_pos first] at read
    by_cases more : others <;>
      simp [readFields, keyRead, read, skipBlanks_cons (show isJsonBlank ',' = false from rfl),
        readOthers, first, more]
  · rw [if_neg first] at read
    simp [readFields, keyRead, read, first]

end Containers

end Steps

theorem readKey_writeString (key : String) (rest : List Char) (fuel : Nat)
    (enough : (writeString key (':' :: rest)).length ≤ fuel) :
    readKey fuel (writeString key (':' :: rest)) = some (key, rest) := by
  have read : readString fuel (key.toList.flatMap escapeChar ++ '"' :: ':' :: rest) =
      some (key, ':' :: rest) := by
    apply readString_escaped
    simp only [writeString, List.length_cons, List.length_append] at enough
    omega
  simp [readKey, writeString, skipBlanks_cons (show isJsonBlank '"' = false from rfl),
    skipBlanks_cons (show isJsonBlank ':' = false from rfl), read]

/-! ## The first character of a written tree -/

theorem writeInt_starts (value : Int) :
    ∃ first rest, writeInt value = first :: rest ∧ (first = '-' ∨ first.isDigit = true) := by
  unfold writeInt
  split
  · exact ⟨_, _, rfl, Or.inl rfl⟩
  · cases digits : Nat.toDigits 10 value.natAbs with
    | nil => exact absurd digits Nat.toDigits_ne_nil
    | cons first rest =>
        refine ⟨first, rest, rfl, Or.inr ?_⟩
        have mem : first ∈ Nat.toDigits 10 value.natAbs := by simp [digits]
        exact Text.isDigit_of_mem_toDigits mem

/-- A written tree starts with a character that is neither blank nor closes a list. -/
theorem writeTree_starts {tree : Tree} (integers : tree.allNumbers Number.isJsonInteger = true)
    (rest : List Char) :
    ∃ first tail, writeTree tree rest = first :: tail ∧ isJsonBlank first = false ∧
      first ≠ ']' := by
  cases tree with
  | null => exact ⟨_, _, rfl, rfl, by decide⟩
  | bool value => cases value <;> exact ⟨_, _, rfl, rfl, by decide⟩
  | text value => exact ⟨_, _, rfl, rfl, by decide⟩
  | list items => exact ⟨_, _, rfl, rfl, by decide⟩
  | object fields => exact ⟨_, _, rfl, rfl, by decide⟩
  | number value =>
      cases value with
      | float value => simp [Tree.allNumbers, Number.isJsonInteger] at integers
      | int value =>
          rcases writeInt_starts value with ⟨first, tail, written, starts⟩
          refine ⟨first, tail ++ rest, ?_, visible_of_starts starts⟩
          simp [writeTree, writeNumber, written]

theorem writeItems_starts {item : Tree} {more : List Tree}
    (integers : ∀ part ∈ item :: more, part.allNumbers Number.isJsonInteger = true)
    (rest : List Char) :
    ∃ first tail, writeItems (item :: more) rest = first :: tail ∧ isJsonBlank first = false ∧
      first ≠ ']' := by
  cases more <;> exact writeTree_starts (integers item List.mem_cons_self) _

theorem writeFields_starts (key : String) (value : Tree) (more : List (String × Tree))
    (rest : List Char) :
    ∃ tail, writeFields ((key, value) :: more) rest = '"' :: tail := by
  cases more <;> exact ⟨_, rfl⟩

theorem length_lt_writeTree {tree : Tree} (integers : tree.allNumbers Number.isJsonInteger = true)
    (rest : List Char) : rest.length < (writeTree tree rest).length := by
  rcases writeTree_starts integers [] with ⟨first, tail, written, -, -⟩
  have apart := writeTree_append tree [] rest
  rw [List.nil_append, written] at apart
  rw [apart, List.length_append, List.length_cons]
  omega

theorem length_lt_writeString (text : String) (rest : List Char) :
    rest.length < (writeString text rest).length := by
  simp only [writeString, List.length_cons, List.length_append]
  omega

theorem endsNumber_cons {first : Char} (rest : List Char)
    (ends : first.isDigit = false ∧ first ≠ '.' ∧ first ≠ 'e' ∧ first ≠ 'E') :
    EndsNumber (first :: rest) := by
  intro character head
  cases head
  exact ends

/-! ## Reading what was written -/

mutual
/--
The text of a tree, in front of a rest that cannot continue a number. With room for the depth of the
tree, the tree is read and the rest is left; with less room, the text is refused.
-/
theorem readValue_writeTree (tree : Tree) (distinct : tree.Distinct)
    (integers : tree.allNumbers Number.isJsonInteger = true) {rest : List Char}
    (ends : EndsNumber rest) (room fuel : Nat)
    (enough : 2 * (writeTree tree rest).length ≤ fuel) :
    readValue Tree.target fuel room (writeTree tree rest) =
      if tree.depth ≤ room then some (tree, rest) else none := by
  have longer := length_lt_writeTree integers rest
  obtain ⟨fuel, rfl⟩ : ∃ fewer, fuel = fewer + 1 := ⟨fuel - 1, by omega⟩
  match tree with
  | .null => simp [writeTree, readValue, skipBlanks, isJsonBlank, Tree.depth, Tree.target]
  | .bool value =>
      cases value <;>
        simp [writeTree, writeBool, readValue, skipBlanks, isJsonBlank, Tree.depth, Tree.target]
  | .text value =>
      have read : readString fuel (value.toList.flatMap escapeChar ++ '"' :: rest) =
          some (value, rest) := by
        apply readString_escaped
        simp only [writeTree, writeString, List.length_cons, List.length_append] at enough
        omega
      simp [writeTree, writeString, readValue, skipBlanks, isJsonBlank, Tree.depth, Tree.target,
        read]
  | .number (.float value) => simp [Tree.allNumbers, Number.isJsonInteger] at integers
  | .number (.int value) =>
      have read := readNumber_writeInt integers ends
      rcases writeInt_starts value with ⟨first, tail, written, starts⟩
      rw [written, List.cons_append] at read
      simp only [writeTree, writeNumber, written, List.cons_append]
      rw [readValue_of_number _ _ _ _ starts, read]
      simp [Tree.depth, Tree.target]
  | .list [] =>
      cases room <;>
        simp [writeTree, writeItems, readValue, skipBlanks, isJsonBlank, Tree.depth,
          Tree.depthItems, Tree.target]
  | .list (item :: more) =>
      have parts := (Tree.distinctItems_iff _).mp distinct
      have numbers := (Tree.allNumbersItems_iff _ _).mp integers
      cases room with
      | zero => simp [writeTree, readValue_no_room, Tree.depth]
      | succ room =>
          rw [writeTree, List.length_cons] at enough
          have read := readItems_writeItems item more parts numbers rest room fuel (by omega)
          rcases writeItems_starts numbers (']' :: rest) with ⟨first, tail, written, visible⟩
          rw [writeTree, written, readValue_list _ _ _ _ visible, ← written, read]
          by_cases shallow : Tree.depthItems (item :: more) ≤ room <;>
            simp [shallow, Tree.depth, Tree.target]
  | .object [] =>
      cases room <;>
        simp [writeTree, writeFields, readValue, skipBlanks, isJsonBlank, Tree.depth,
          Tree.depthFields, Tree.target, Fields.ofPairs, Fields.merge]
  | .object ((key, value) :: more) =>
      have parts := (Tree.distinctFields_iff _).mp distinct.2
      have numbers := (Tree.allNumbersFields_iff _ _).mp integers
      cases room with
      | zero => simp [writeTree, readValue_no_room, Tree.depth]
      | succ room =>
          rw [writeTree, List.length_cons] at enough
          have read := readFields_writeFields key value more parts numbers rest room fuel (by omega)
          rcases writeFields_starts key value more ('\x7d' :: rest) with ⟨tail, written⟩
          rw [writeTree, written, readValue_object, ← written, read]
          by_cases shallow : Tree.depthFields ((key, value) :: more) ≤ room <;>
            simp [shallow, Tree.depth, Tree.target, Fields.ofPairs_of_distinct distinct.1]
termination_by fuel

theorem readItems_writeItems (item : Tree) (more : List Tree)
    (distinct : ∀ part ∈ item :: more, part.Distinct)
    (integers : ∀ part ∈ item :: more, part.allNumbers Number.isJsonInteger = true)
    (rest : List Char) (room fuel : Nat)
    (enough : 2 * (writeItems (item :: more) (']' :: rest)).length < fuel) :
    readItems Tree.target fuel room (writeItems (item :: more) (']' :: rest)) =
      if Tree.depthItems (item :: more) ≤ room then some (item :: more, rest) else none := by
  obtain ⟨fuel, rfl⟩ : ∃ fewer, fuel = fewer + 1 := ⟨fuel - 1, by omega⟩
  have first := integers item List.mem_cons_self
  match more with
  | [] =>
      have ends := endsNumber_cons rest (show (']' : Char).isDigit = false ∧ _ by decide)
      rw [writeItems] at enough ⊢
      have read := readValue_writeTree item (distinct item List.mem_cons_self) first ends room fuel
        (by omega)
      simpa only [Tree.depthItems, Nat.max_zero] using readItems_last _ read
  | next :: others =>
      have ends := endsNumber_cons (writeItems (next :: others) (']' :: rest))
        (show (',' : Char).isDigit = false ∧ _ by decide)
      have longer := length_lt_writeTree first (',' :: writeItems (next :: others) (']' :: rest))
      rw [List.length_cons] at longer
      rw [writeItems] at enough ⊢
      have read := readValue_writeTree item (distinct item List.mem_cons_self) first ends room fuel
        (by omega)
      have readOthers := readItems_writeItems next others
        (fun part mem => distinct part (List.mem_cons_of_mem item mem))
        (fun part mem => integers part (List.mem_cons_of_mem item mem)) rest room fuel (by omega)
      simpa only [Tree.depthItems, Nat.max_le] using readItems_more _ read readOthers
termination_by fuel

theorem readFields_writeFields (key : String) (value : Tree) (more : List (String × Tree))
    (distinct : ∀ field ∈ (key, value) :: more, field.2.Distinct)
    (integers : ∀ field ∈ (key, value) :: more,
      field.2.allNumbers Number.isJsonInteger = true)
    (rest : List Char) (room fuel : Nat)
    (enough : 2 * (writeFields ((key, value) :: more) ('\x7d' :: rest)).length < fuel) :
    readFields Tree.target fuel room (writeFields ((key, value) :: more) ('\x7d' :: rest)) =
      if Tree.depthFields ((key, value) :: more) ≤ room then some ((key, value) :: more, rest)
      else none := by
  obtain ⟨fuel, rfl⟩ : ∃ fewer, fuel = fewer + 1 := ⟨fuel - 1, by omega⟩
  have first : value.allNumbers Number.isJsonInteger = true := integers _ List.mem_cons_self
  match more with
  | [] =>
      have ends := endsNumber_cons rest (show ('\x7d' : Char).isDigit = false ∧ _ by decide)
      rw [writeFields] at enough ⊢
      have longer := length_lt_writeString key (':' :: writeTree value ('\x7d' :: rest))
      rw [List.length_cons] at longer
      have keyRead := readKey_writeString key (writeTree value ('\x7d' :: rest)) fuel (by omega)
      have read := readValue_writeTree value (distinct (key, value) List.mem_cons_self) first ends
        room fuel (by omega)
      simpa only [Tree.depthFields, Nat.max_zero] using readFields_last _ keyRead read
  | (nextKey, nextValue) :: others =>
      have ends := endsNumber_cons (writeFields ((nextKey, nextValue) :: others) ('\x7d' :: rest))
        (show (',' : Char).isDigit = false ∧ _ by decide)
      rw [writeFields] at enough ⊢
      have longer := length_lt_writeString key (':' :: writeTree value
        (',' :: writeFields ((nextKey, nextValue) :: others) ('\x7d' :: rest)))
      have longerValue := length_lt_writeTree first
        (',' :: writeFields ((nextKey, nextValue) :: others) ('\x7d' :: rest))
      rw [List.length_cons] at longer longerValue
      have keyRead := readKey_writeString key (writeTree value
        (',' :: writeFields ((nextKey, nextValue) :: others) ('\x7d' :: rest))) fuel (by omega)
      have read := readValue_writeTree value (distinct (key, value) List.mem_cons_self) first ends
        room fuel (by omega)
      have readOthers := readFields_writeFields nextKey nextValue others
        (fun field mem => distinct field (List.mem_cons_of_mem (key, value) mem))
        (fun field mem => integers field (List.mem_cons_of_mem (key, value) mem)) rest room fuel
        (by omega)
      simpa only [Tree.depthFields, Nat.max_le] using readFields_more _ keyRead read readOthers
termination_by fuel
end

end Json

namespace Tree

/-- The text of a tree without floats is read back exactly if the tree is not too deep. -/
theorem ofJson?_toJson {tree : Tree} (distinct : tree.Distinct)
    (integers : tree.allNumbers Number.isJsonInteger = true) :
    ofJson? tree.toJson = if tree.depth ≤ Json.nestingLimit then some tree else none := by
  have ends : Json.EndsNumber [] := by simp [Json.EndsNumber]
  have read := Json.readValue_writeTree tree distinct integers ends Json.nestingLimit
    (Json.fuelFor (Json.writeTree tree [])) (by rw [Json.fuelFor]; omega)
  rw [ofJson?, Json.read, Json.readWithin, toJson, String.toList_ofList, read]
  split_ifs <;> rfl

/--
The text of a tree without repeated names and without floats is read back as that tree if its lists
and objects nest at most 127 deep, and it is refused if they nest deeper. In the other direction, a
tree without floats that is read from any text is such a tree, so it survives being written and read
again.
-/
theorem json_round_trip :
    (∀ tree : Tree, tree.Distinct → tree.allNumbers Number.isJsonInteger = true →
      (tree.depth ≤ 127 → ofJson? tree.toJson = some tree) ∧
        (127 < tree.depth → ofJson? tree.toJson = none)) ∧
    ∀ (text : String) (tree : Tree), ofJson? text = some tree →
      tree.allNumbers Number.isInteger = true →
        tree.Distinct ∧ tree.depth ≤ 127 ∧ tree.allNumbers Number.isJsonInteger = true ∧
          ofJson? tree.toJson = some tree := by
  constructor
  · intro tree distinct integers
    have read := ofJson?_toJson distinct integers
    rw [Json.nestingLimit] at read
    constructor
    · intro shallow
      rw [read, if_pos shallow]
    · intro deep
      rw [read, if_neg (by omega)]
  · intro text tree read integers
    have decoded := Json.decoded_of_ofJson? read
    have inRange : tree.allNumbers Number.isJsonInteger = true := by
      rw [Number.isJsonInteger_eq, allNumbers_and, decoded.numbers, integers, Bool.and_self]
    refine ⟨decoded.distinct, decoded.shallow, inRange, ?_⟩
    rw [ofJson?_toJson decoded.distinct inRange, if_pos decoded.shallow]

/-- The two ends of the range of integers, a quote, a control, and characters beyond ASCII. -/
def mixedTree : Tree :=
  .object
    [("least", .number (.int (-0x8000000000000000))),
      ("\"\x01é😀", .list [.number (.int 0xFFFFFFFFFFFFFFFF), .list [], .text "\u2028\t/"]),
      ("", .object [("null", .null)])]

theorem mixedTree_survives :
    mixedTree.Distinct ∧ mixedTree.allNumbers Number.isJsonInteger = true ∧
      mixedTree.depth ≤ 127 ∧ ofJson? mixedTree.toJson = some mixedTree := by
  have distinct : mixedTree.Distinct := by decide
  have integers : mixedTree.allNumbers Number.isJsonInteger = true := by decide
  have shallow : mixedTree.depth ≤ 127 := by decide
  exact ⟨distinct, integers, shallow, (json_round_trip.1 mixedTree distinct integers).1 shallow⟩

end Tree

end SqlTree

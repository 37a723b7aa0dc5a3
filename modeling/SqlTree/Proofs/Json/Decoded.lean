import SqlTree.Json.Reader
import SqlTree.Proofs.Json.Token
import SqlTree.Proofs.Tree.Distinct

/-!
# What a decoded tree looks like

Whatever text is read, the tree that comes out repeats no name in any object, nests no deeper than
the reader had room for, and its integers are in the range of integer literals. These three facts
are `Tree.Decoded`. They hold of every value that any call of the reader gives, by induction on the
fuel, one case for each branch of the reader.
-/

namespace SqlTree

/-- A number that a text can give: an integer with a literal of its own, or a float. -/
def Number.isDecodable : Number → Bool
  | .int value => (Number.int value).isJsonInteger
  | .float _ => true

def Number.isInteger : Number → Bool
  | .int _ => true
  | .float _ => false

theorem Number.isJsonInteger_eq :
    Number.isJsonInteger = fun number => number.isDecodable && number.isInteger := by
  funext number
  cases number <;> simp [isJsonInteger, isDecodable, isInteger]

namespace Tree

mutual
/-- Do all numbers in the tree pass a test? -/
def allNumbers (test : Number → Bool) : Tree → Bool
  | .number value => test value
  | .list items => allNumbersItems test items
  | .object fields => allNumbersFields test fields
  | _ => true
termination_by structural tree => tree

def allNumbersItems (test : Number → Bool) : List Tree → Bool
  | [] => true
  | item :: rest => allNumbers test item && allNumbersItems test rest
termination_by structural items => items

def allNumbersFields (test : Number → Bool) : List (String × Tree) → Bool
  | [] => true
  | (_, value) :: rest => allNumbers test value && allNumbersFields test rest
termination_by structural fields => fields
end

theorem allNumbersItems_iff (test : Number → Bool) (items : List Tree) :
    allNumbersItems test items = true ↔ ∀ item ∈ items, item.allNumbers test = true := by
  induction items with
  | nil => simp [allNumbersItems]
  | cons item rest ih => simp [allNumbersItems, ih]

theorem allNumbersFields_iff (test : Number → Bool) (fields : List (String × Tree)) :
    allNumbersFields test fields = true ↔ ∀ field ∈ fields, field.2.allNumbers test = true := by
  induction fields with
  | nil => simp [allNumbersFields]
  | cons field rest ih => simp [allNumbersFields, ih]

mutual
theorem allNumbers_and (first second : Number → Bool) (tree : Tree) :
    tree.allNumbers (fun number => first number && second number) =
      (tree.allNumbers first && tree.allNumbers second) := by
  match tree with
  | .null | .bool _ | .text _ | .number _ => rfl
  | .list items => exact allNumbersItems_and first second items
  | .object fields => exact allNumbersFields_and first second fields

theorem allNumbersItems_and (first second : Number → Bool) (items : List Tree) :
    allNumbersItems (fun number => first number && second number) items =
      (allNumbersItems first items && allNumbersItems second items) := by
  match items with
  | [] => rfl
  | item :: rest =>
      simp only [allNumbersItems, allNumbers_and first second item,
        allNumbersItems_and first second rest]
      ac_rfl

theorem allNumbersFields_and (first second : Number → Bool) (fields : List (String × Tree)) :
    allNumbersFields (fun number => first number && second number) fields =
      (allNumbersFields first fields && allNumbersFields second fields) := by
  match fields with
  | [] => rfl
  | (_, value) :: rest =>
      simp only [allNumbersFields, allNumbers_and first second value,
        allNumbersFields_and first second rest]
      ac_rfl
end

/-- A tree that reading with so much room can give. -/
structure Decoded (room : Nat) (tree : Tree) : Prop where
  distinct : tree.Distinct
  shallow : tree.depth ≤ room
  numbers : tree.allNumbers Number.isDecodable = true

namespace Decoded

variable {room : Nat}

theorem null : Decoded room .null := ⟨trivial, Nat.zero_le room, rfl⟩

theorem bool (value : Bool) : Decoded room (.bool value) := ⟨trivial, Nat.zero_le room, rfl⟩

theorem text (value : String) : Decoded room (.text value) := ⟨trivial, Nat.zero_le room, rfl⟩

theorem number {value : Number} (decodable : value.isDecodable = true) :
    Decoded room (.number value) :=
  ⟨trivial, Nat.zero_le room, decodable⟩

theorem list {items : List Tree} (decoded : ∀ item ∈ items, Decoded room item) :
    Decoded (room + 1) (.list items) where
  distinct := (distinctItems_iff items).mpr fun item mem => (decoded item mem).distinct
  shallow := by
    have shallow := (depthItems_le_iff items room).mpr fun item mem => (decoded item mem).shallow
    simpa [depth] using shallow
  numbers := (allNumbersItems_iff _ items).mpr fun item mem => (decoded item mem).numbers

/-- A repeated name is no fault of a text: the tree has it once, with its last value. -/
theorem object {pairs : List (String × Tree)} (decoded : ∀ pair ∈ pairs, Decoded room pair.2) :
    Decoded (room + 1) (.object (Fields.ofPairs pairs)) where
  distinct := distinct_ofPairs fun pair mem => (decoded pair mem).distinct
  shallow := by
    have shallow := (depthFields_le_iff (Fields.ofPairs pairs) room).mpr fun field mem =>
      (decoded field (Fields.mem_of_mem_ofPairs mem)).shallow
    simpa [depth] using shallow
  numbers := (allNumbersFields_iff _ _).mpr fun field mem =>
    (decoded field (Fields.mem_of_mem_ofPairs mem)).numbers

end Decoded

end Tree

namespace Json

/-! ## Numbers stay in their range -/

theorem takeDigits_le {significand : Nat} (small : significand ≤ significandLimit)
    (digits : List Char) : (takeDigits significand digits).1 ≤ significandLimit := by
  induction digits generalizing significand with
  | nil => simpa [takeDigits] using small
  | cons digit rest ih =>
      rw [takeDigits]
      split
      · next fits => exact ih fits
      · exact small

theorem isDecodable_of_integer? {isNegative : Bool} {digits : List Char} {number : Number}
    (read : integer? isNegative digits = some number) : number.isDecodable = true := by
  have small := takeDigits_le (Nat.zero_le significandLimit) digits
  rw [significandLimit] at small
  unfold integer? at read
  split at read
  · next significand taken =>
    rw [taken] at small
    split at read
    · cases read
      simp [Number.isDecodable, Number.isJsonInteger]
      omega
    · split at read
      · cases read
        rfl
      · next inside =>
        cases read
        simp [Number.isDecodable, Number.isJsonInteger]
        omega
  · rcases Option.map_eq_some_iff.mp read with ⟨value, -, rfl⟩
    rfl

theorem isDecodable_of_decimal? {isNegative : Bool} {digits fraction : List Char}
    {exponent : Option (Bool × List Char)} {number : Number}
    (read : decimal? isNegative digits fraction exponent = some number) :
    number.isDecodable = true := by
  unfold decimal? at read
  simp only at read
  split at read
  · rcases Option.map_eq_some_iff.mp read with ⟨value, -, rfl⟩
    rfl
  · split at read
    · rcases Option.map_eq_some_iff.mp read with ⟨value, -, rfl⟩
      rfl
    · split at read
      · cases read
      · cases read
        rfl

theorem isDecodable_of_readNumber {text rest : List Char} {number : Number}
    (read : readNumber text = some (number, rest)) : number.isDecodable = true := by
  rcases Option.bind_eq_some_iff.mp read with ⟨⟨literal, _⟩, -, found⟩
  rcases Option.bind_eq_some_iff.mp found with ⟨value, valued, same⟩
  cases same
  unfold Literal.value? at valued
  split at valued
  · exact isDecodable_of_integer? valued
  · exact isDecodable_of_decimal? valued

/-! ## What the reader gives -/

mutual
theorem decoded_of_readValue {fuel room : Nat} {text rest : List Char} {tree : Tree}
    (read : readValue Tree.target fuel room text = some (tree, rest)) : tree.Decoded room := by
  match fuel with
  | 0 => simp [readValue] at read
  | fuel + 1 =>
      rw [readValue] at read
      split at read
      · cases read
        exact .null
      · cases read
        exact .bool true
      · cases read
        exact .bool false
      · rcases Option.map_eq_some_iff.mp read with ⟨⟨value, _⟩, -, same⟩
        cases same
        exact .text value
      · split at read
        · cases read
        · split at read
          · cases read
            exact .list (by simp)
          · rcases Option.map_eq_some_iff.mp read with ⟨⟨items, _⟩, found, same⟩
            cases same
            exact .list (decoded_of_readItems found)
      · split at read
        · cases read
        · split at read
          · cases read
            exact .object (by simp)
          · rcases Option.map_eq_some_iff.mp read with ⟨⟨fields, _⟩, found, same⟩
            cases same
            exact .object (decoded_of_readFields found)
      · rcases Option.map_eq_some_iff.mp read with ⟨⟨number, _⟩, found, same⟩
        cases same
        exact .number (isDecodable_of_readNumber found)

theorem decoded_of_readItems {fuel room : Nat} {text rest : List Char} {items : List Tree}
    (read : readItems Tree.target fuel room text = some (items, rest)) :
    ∀ item ∈ items, item.Decoded room := by
  match fuel with
  | 0 => simp [readItems] at read
  | fuel + 1 =>
      rcases Option.bind_eq_some_iff.mp read with ⟨⟨first, _⟩, firstRead, continued⟩
      have firstDecoded := decoded_of_readValue firstRead
      dsimp only at continued
      split at continued
      · cases continued
        simpa using firstDecoded
      · rcases Option.bind_eq_some_iff.mp continued with ⟨⟨others, _⟩, othersRead, same⟩
        cases same
        exact List.forall_mem_cons.mpr ⟨firstDecoded, decoded_of_readItems othersRead⟩
      · cases continued

theorem decoded_of_readFields {fuel room : Nat} {text rest : List Char}
    {fields : List (String × Tree)}
    (read : readFields Tree.target fuel room text = some (fields, rest)) :
    ∀ field ∈ fields, field.2.Decoded room := by
  match fuel with
  | 0 => simp [readFields] at read
  | fuel + 1 =>
      rcases Option.bind_eq_some_iff.mp read with ⟨⟨key, _⟩, -, afterKey⟩
      rcases Option.bind_eq_some_iff.mp afterKey with ⟨⟨first, _⟩, firstRead, continued⟩
      have firstDecoded := decoded_of_readValue firstRead
      dsimp only at continued
      split at continued
      · cases continued
        simpa using firstDecoded
      · rcases Option.bind_eq_some_iff.mp continued with ⟨⟨others, _⟩, othersRead, same⟩
        cases same
        exact List.forall_mem_cons.mpr ⟨firstDecoded, decoded_of_readFields othersRead⟩
      · cases continued
end

/-- Every text gives a tree as `Tree.Decoded` says, or none. -/
theorem decoded_of_ofJson? {text : String} {tree : Tree} (read : Tree.ofJson? text = some tree) :
    tree.Decoded nestingLimit := by
  rcases Option.bind_eq_some_iff.mp read with ⟨⟨value, rest⟩, found, atEnd⟩
  dsimp only at atEnd
  split at atEnd
  · cases atEnd
    exact decoded_of_readValue found
  · cases atEnd

end Json

end SqlTree

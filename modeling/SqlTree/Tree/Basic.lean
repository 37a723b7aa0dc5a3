import SqlTree.Decimal.Binary64
import SqlTree.Tree.Fields

/-!
# Parse trees

A parse tree arrives in a plain encoding: nulls, booleans, numbers, texts, lists, and objects with
named fields. A node of the grammar is an object with exactly one field. The name of that field is
the node's kind, and its value is the node's record. Kind names start with an upper-case letter and
names of attributes do not, so a node is recognised by its shape alone.

This file has the type of trees, its equality, look-ups that answer `none` on a tree of another
shape, and the updates of one object. An update of a tree that is no object starts from an empty
one.
-/

namespace SqlTree

/-- A number in a tree: an integer, or a finite binary64 value. The two are never equal. -/
inductive Number where
  | int (value : Int)
  | float (value : Binary64)
  deriving DecidableEq, Repr, Inhabited

inductive Tree where
  | null
  | bool (value : Bool)
  | number (value : Number)
  | text (value : String)
  | list (items : List Tree)
  | object (fields : List (String × Tree))
  deriving Repr, Inhabited

/-- Equality of numbers as the encoding understands it: the two zeros of binary64 are equal. -/
def Number.agrees : Number → Number → Bool
  | .int left, .int right => left == right
  | .float left, .float right => left.equalAsNumber right
  | _, _ => false

namespace Tree

mutual
def equal : Tree → Tree → Bool
  | .null, .null => true
  | .bool left, .bool right => left == right
  | .number left, .number right => left == right
  | .text left, .text right => left == right
  | .list left, .list right => equalItems left right
  | .object left, .object right => equalFields left right
  | _, _ => false
termination_by structural left => left

def equalItems : List Tree → List Tree → Bool
  | [], [] => true
  | left :: lefts, right :: rights => equal left right && equalItems lefts rights
  | _, _ => false
termination_by structural lefts => lefts

def equalFields : List (String × Tree) → List (String × Tree) → Bool
  | [], [] => true
  | (leftKey, left) :: lefts, (rightKey, right) :: rights =>
      leftKey == rightKey && equal left right && equalFields lefts rights
  | _, _ => false
termination_by structural lefts => lefts
end

mutual
theorem equal_iff (left right : Tree) : equal left right = true ↔ left = right := by
  cases left <;> cases right <;> simp [equal, equalItems_iff, equalFields_iff]
termination_by structural left

theorem equalItems_iff (lefts rights : List Tree) :
    equalItems lefts rights = true ↔ lefts = rights := by
  cases lefts with
  | nil => cases rights <;> simp [equalItems]
  | cons left lefts =>
      cases rights with
      | nil => simp [equalItems]
      | cons right rights => simp [equalItems, equal_iff left right, equalItems_iff lefts rights]
termination_by structural lefts

theorem equalFields_iff (lefts rights : List (String × Tree)) :
    equalFields lefts rights = true ↔ lefts = rights := by
  cases lefts with
  | nil => cases rights <;> simp [equalFields]
  | cons left lefts =>
      cases left with
      | mk leftKey left =>
          cases rights with
          | nil => simp [equalFields]
          | cons right rights =>
              cases right
              simp [equalFields, equal_iff left, equalFields_iff lefts rights]
termination_by structural lefts
end

instance : DecidableEq Tree := fun left right =>
  decidable_of_iff (equal left right = true) (equal_iff left right)

mutual
/--
Equality of trees as data: fields are compared in their order, and floating-point numbers as
numbers.
-/
def agrees : Tree → Tree → Bool
  | .null, .null => true
  | .bool left, .bool right => left == right
  | .number left, .number right => left.agrees right
  | .text left, .text right => left == right
  | .list left, .list right => agreesItems left right
  | .object left, .object right => agreesFields left right
  | _, _ => false
termination_by structural left => left

def agreesItems : List Tree → List Tree → Bool
  | [], [] => true
  | left :: lefts, right :: rights => agrees left right && agreesItems lefts rights
  | _, _ => false
termination_by structural lefts => lefts

def agreesFields : List (String × Tree) → List (String × Tree) → Bool
  | [], [] => true
  | (leftKey, left) :: lefts, (rightKey, right) :: rights =>
      leftKey == rightKey && agrees left right && agreesFields lefts rights
  | _, _ => false
termination_by structural lefts => lefts
end

def isContainer : Tree → Bool
  | .list _ | .object _ => true
  | _ => false

/--
The identity test of a pass that leaves untouched parts alone: two lists or two objects are compared
by the given test, and scalars as data. A container is never the same as a scalar.
-/
def isSameBy (identical : Tree → Tree → Bool) : Tree → Tree → Bool
  | .list left, .list right => identical (.list left) (.list right)
  | .object left, .object right => identical (.object left) (.object right)
  | .list _, _ | _, .list _ | .object _, _ | _, .object _ => false
  | left, right => left.agrees right

def isSame : Tree → Tree → Bool := isSameBy fun left right => decide (left = right)

/--
What passes for a container is that container, if the test takes only equal ones for the same.
-/
theorem eq_of_isSameBy {identical : Tree → Tree → Bool} {new old : Tree}
    (sound : identical new old = true → new = old) (container : old.isContainer = true)
    (same : new.isSameBy identical old = true) : new = old := by
  cases old <;> cases new <;> simp_all [isContainer, isSameBy]

/-! ## Looking into a tree -/

def isNull : Tree → Bool
  | .null => true
  | _ => false

def bool? : Tree → Option Bool
  | .bool value => some value
  | _ => none

def text? : Tree → Option String
  | .text value => some value
  | _ => none

/-- The value of an integer that fits 64 signed bits. -/
def int? : Tree → Option Int
  | .number (.int value) => if value < 0x8000000000000000 then some value else none
  | _ => none

def list? : Tree → Option (List Tree)
  | .list items => some items
  | _ => none

def items : Tree → List Tree
  | .list items => items
  | _ => []

def object? : Tree → Option (List (String × Tree))
  | .object fields => some fields
  | _ => none

def fields : Tree → List (String × Tree)
  | .object fields => fields
  | _ => []

def get? (tree : Tree) (key : String) : Option Tree := Fields.get? key tree.fields

/-- The elements of the list in a field. A missing field, or one that holds no list, has none. -/
def itemsAt (tree : Tree) (key : String) : List Tree := ((tree.get? key).map items).getD []

def textAt? (tree : Tree) (key : String) : Option String := (tree.get? key).bind text?

def flagAt (tree : Tree) (key : String) : Bool := ((tree.get? key).bind bool?).getD false

/-! ## Updating an object -/

def set (tree : Tree) (key : String) (value : Tree) : Tree :=
  .object (Fields.insert key value tree.fields)

/-- Removes one field. A tree without it stays as it is. -/
def erase (tree : Tree) (key : String) : Tree :=
  match tree with
  | .object fields => .object (Fields.erase key fields)
  | other => other

def merge (tree : Tree) (pairs : List (String × Tree)) : Tree :=
  .object (Fields.merge tree.fields pairs)

@[simp]
theorem fields_set (tree : Tree) (key : String) (value : Tree) :
    (tree.set key value).fields = Fields.insert key value tree.fields := rfl

@[simp]
theorem fields_erase (tree : Tree) (key : String) :
    (tree.erase key).fields = Fields.erase key tree.fields := by
  cases tree <;> rfl

theorem get?_set (tree : Tree) (key name : String) (value : Tree) :
    (tree.set key value).get? name = if key = name then some value else tree.get? name := by
  simp [get?, Fields.get?_insert]

theorem get?_erase_of_ne {key name : String} (other : key ≠ name) (tree : Tree) :
    (tree.erase key).get? name = tree.get? name := by
  simp [get?, Fields.get?_erase_of_ne other]

/-! ## Size and depth -/

mutual
def size : Tree → Nat
  | .list items => sizeItems items + 1
  | .object fields => sizeFields fields + 1
  | _ => 1
termination_by structural tree => tree

def sizeItems : List Tree → Nat
  | [] => 0
  | item :: rest => size item + sizeItems rest
termination_by structural items => items

def sizeFields : List (String × Tree) → Nat
  | [] => 0
  | (_, value) :: rest => size value + sizeFields rest
termination_by structural fields => fields
end

theorem size_pos (tree : Tree) : 0 < tree.size := by
  cases tree <;> simp [size]

mutual
/-- How deep lists and objects nest. A scalar has depth zero. -/
def depth : Tree → Nat
  | .list items => depthItems items + 1
  | .object fields => depthFields fields + 1
  | _ => 0
termination_by structural tree => tree

def depthItems : List Tree → Nat
  | [] => 0
  | item :: rest => max (depth item) (depthItems rest)
termination_by structural items => items

def depthFields : List (String × Tree) → Nat
  | [] => 0
  | (_, value) :: rest => max (depth value) (depthFields rest)
termination_by structural fields => fields
end

end Tree

end SqlTree

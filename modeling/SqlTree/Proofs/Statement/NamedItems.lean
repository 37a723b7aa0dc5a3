import Mathlib.Data.List.Basic
import SqlTree.Statement.CreateTable
import SqlTree.Statement.Update

/-!
# Lists that are kept by name

The assignments of an UPDATE and the elements of a table are lists in which an item may have a name.
A new item takes the place of the item that has its name, or goes to the end if there is none. Both
lists are updated in this one way, so it is looked at here for any type of items and any way to name
them: what becomes of the names, of the item under each name, and of the items that have no name.
All of it is read off `place_cases`, which says where the new item stands.
-/

namespace SqlTree

namespace NamedItems

variable {α : Type} (name? : α → Option String)

/-- The names in a list, in their order. -/
def names (items : List α) : List String := items.filterMap name?

def unnamed (items : List α) : List α := items.filter fun item => (name? item).isNone

/-- The first item with a name. -/
def find? (name : String) (items : List α) : Option α :=
  items.find? fun item => name? item == some name

/-- Puts an item in the place of the first one with the name, or at the end. -/
def place (name : String) (item : α) : List α → List α
  | [] => [item]
  | first :: rest =>
      if name? first = some name then item :: rest else first :: place name item rest

variable {name?}

theorem mem_names {name : String} {items : List α} :
    name ∈ names name? items ↔ ∃ item ∈ items, name? item = some name :=
  List.mem_filterMap

theorem names_append (front back : List α) :
    names name? (front ++ back) = names name? front ++ names name? back :=
  List.filterMap_append

theorem names_cons_of_some {first : α} {name : String} (named : name? first = some name)
    (rest : List α) : names name? (first :: rest) = name :: names name? rest :=
  List.filterMap_cons_some named

theorem find?_append (name : String) (front back : List α) :
    find? name? name (front ++ back) = (find? name? name front).or (find? name? name back) :=
  List.find?_append

theorem find?_cons (name : String) (first : α) (rest : List α) :
    find? name? name (first :: rest) =
      if name? first = some name then some first else find? name? name rest := by
  by_cases same : name? first = some name <;> simp [find?, same]

theorem isSome_find?_iff {name : String} {items : List α} :
    (find? name? name items).isSome = true ↔ name ∈ names name? items := by
  simp [find?, mem_names, List.find?_isSome]

theorem find?_eq_none_of_not_mem {name : String} {items : List α}
    (absent : name ∉ names name? items) : find? name? name items = none := by
  rw [← isSome_find?_iff] at absent
  simpa using absent

theorem name?_of_find? {name : String} {item : α} {items : List α}
    (found : find? name? name items = some item) : name? item = some name := by
  simpa using List.find?_some found

/-! ## Placing an item -/

section Place

variable {name : String} {item : α}

variable (name?) in
/-- The item stands behind all others, or where the first item with its name stood. -/
theorem place_cases (name : String) (item : α) (items : List α) :
    (name ∉ names name? items ∧ place name? name item items = items ++ [item]) ∨
      ∃ front old back, items = front ++ old :: back ∧ name? old = some name ∧
        name ∉ names name? front ∧ place name? name item items = front ++ item :: back := by
  induction items with
  | nil => exact .inl ⟨List.not_mem_nil, rfl⟩
  | cons first rest ih =>
      by_cases same : name? first = some name
      · exact .inr ⟨[], first, rest, rfl, same, List.not_mem_nil, if_pos same⟩
      · have skipped : place name? name item (first :: rest) =
            first :: place name? name item rest := if_neg same
        have passed {front : List α} (absent : name ∉ names name? front) :
            name ∉ names name? (first :: front) := by
          simp only [mem_names, List.exists_mem_cons_iff, not_or]
          exact ⟨same, mem_names.not.mp absent⟩
        rw [skipped]
        rcases ih with ⟨absent, placed⟩ | ⟨front, old, back, rfl, named, absent, placed⟩
        · exact .inl ⟨passed absent, by rw [placed, List.cons_append]⟩
        · exact .inr ⟨first :: front, old, back, rfl, named, passed absent,
            by rw [placed, List.cons_append]⟩

theorem mem_of_mem_place {other : α} {items : List α}
    (mem : other ∈ place name? name item items) : other = item ∨ other ∈ items := by
  rcases place_cases name? name item items with
    ⟨_, placed⟩ | ⟨front, old, back, rfl, _, _, placed⟩ <;>
  · rw [placed] at mem
    simp only [List.mem_append, List.mem_cons] at mem ⊢
    grind

theorem place_of_not_mem {items : List α} (absent : name ∉ names name? items) :
    place name? name item items = items ++ [item] := by
  rcases place_cases name? name item items with ⟨_, placed⟩ | ⟨front, old, back, rfl, named, _, _⟩
  · exact placed
  · exact absurd (mem_names.mpr ⟨old, by simp, named⟩) absent

/-- Where names are distinct, an item replaces whatever has its name. -/
theorem place_of_mem {items : List α} (distinct : (names name? items).Nodup)
    (present : name ∈ names name? items) :
    place name? name item items =
      items.map fun old => if name? old = some name then item else old := by
  have untouched {part : List α} (absent : name ∉ names name? part) :
      part.map (fun old => if name? old = some name then item else old) = part := by
    have kept : ∀ old ∈ part, (if name? old = some name then item else old) = id old := by
      intro old mem
      exact if_neg fun named => absent (mem_names.mpr ⟨old, mem, named⟩)
    rw [List.map_congr_left kept, List.map_id]
  rcases place_cases name? name item items with
    ⟨absent, _⟩ | ⟨front, old, back, rfl, named, before, placed⟩
  · exact absurd present absent
  · have behind : name ∉ names name? back := by
      rw [names_append, names_cons_of_some named] at distinct
      exact (List.nodup_cons.mp (List.nodup_append.mp distinct).2.1).1
    rw [placed, List.map_append, List.map_cons, untouched before, untouched behind, if_pos named]

/-- The names stay in their places, and a new one comes last. -/
theorem names_place (named : name? item = some name) (items : List α) :
    names name? (place name? name item items) =
      if name ∈ names name? items then names name? items else names name? items ++ [name] := by
  rcases place_cases name? name item items with
    ⟨absent, placed⟩ | ⟨front, old, back, rfl, oldNamed, _, placed⟩
  · rw [placed, if_neg absent, names_append, names_cons_of_some named]
    rfl
  · rw [placed, names_append, names_append, names_cons_of_some named, names_cons_of_some oldNamed,
      if_pos (by simp)]

theorem find?_place (named : name? item = some name) (other : String) (items : List α) :
    find? name? other (place name? name item items) =
      if name = other then some item else find? name? other items := by
  rcases place_cases name? name item items with
    ⟨absent, placed⟩ | ⟨front, old, back, rfl, oldNamed, before, placed⟩
  · rw [placed, find?_append, find?_cons, named]
    by_cases same : name = other
    · subst same
      simp [find?_eq_none_of_not_mem absent]
    · simp [same, find?]
  · rw [placed, find?_append, find?_append, find?_cons, find?_cons, named, oldNamed]
    by_cases same : name = other
    · subst same
      simp [find?_eq_none_of_not_mem before]
    · simp [same]

theorem unnamed_place (named : name? item = some name) (items : List α) :
    unnamed name? (place name? name item items) = unnamed name? items := by
  rcases place_cases name? name item items with
    ⟨_, placed⟩ | ⟨front, old, back, rfl, oldNamed, _, placed⟩
  · simp [placed, unnamed, named]
  · simp [placed, unnamed, named, oldNamed]

/-- Placing the item that has the name already changes nothing. -/
theorem place_of_find? {items : List α} (found : find? name? name items = some item) :
    place name? name item items = items := by
  rcases place_cases name? name item items with
    ⟨absent, _⟩ | ⟨front, old, back, rfl, oldNamed, before, placed⟩
  · rw [find?_eq_none_of_not_mem absent] at found
    cases found
  · rw [find?_append, find?_cons, find?_eq_none_of_not_mem before, if_pos oldNamed] at found
    cases found
    exact placed

end Place

/-! ## Dropping a name, adding an item without one -/

theorem names_filter_ne (name : String) (items : List α) :
    names name? (items.filter fun item => name? item != some name) =
      (names name? items).filter (· ≠ name) := by
  induction items with
  | nil => rfl
  | cons first rest ih =>
      cases named : name? first with
      | none => simpa [names, named] using ih
      | some found =>
          by_cases same : found = name
          · simpa [names, named, same] using ih
          · simpa [names, named, same] using ih

theorem find?_filter_ne (name other : String) (items : List α) :
    find? name? other (items.filter fun item => name? item != some name) =
      if name = other then none else find? name? other items := by
  by_cases same : name = other
  · subst same
    simp [find?]
  · rw [find?, List.find?_filter, if_neg same, find?]
    congr 1
    funext item
    by_cases named : name? item = some other
    · simp [named, Ne.symm same]
    · simp [named]

theorem unnamed_filter_ne (name : String) (items : List α) :
    unnamed name? (items.filter fun item => name? item != some name) = unnamed name? items := by
  rw [unnamed, List.filter_filter, unnamed]
  congr 1
  funext item
  cases name? item <;> simp

section Add

variable {item : α}

theorem names_concat_of_none (nameless : name? item = none) (items : List α) :
    names name? (items ++ [item]) = names name? items := by
  simp [names, nameless]

theorem find?_concat_of_none (nameless : name? item = none) (name : String) (items : List α) :
    find? name? name (items ++ [item]) = find? name? name items := by
  simp [find?, nameless]

theorem unnamed_concat_of_none (nameless : name? item = none) (items : List α) :
    unnamed name? (items ++ [item]) = unnamed name? items ++ [item] := by
  simp [unnamed, nameless]

end Add

end NamedItems

/-! ## The two lists -/

open NamedItems (place)

theorem Update.assign_eq_place (column : String) (value : Operand) (items : List Tree) :
    assign column value items =
      place assignedColumn? column (assignmentNode column value) items := by
  induction items with
  | nil => rfl
  | cons first rest ih => rw [assign, place, ih]

/-- What is known of the old items and of the new ones is known of all items afterwards. -/
theorem Update.forall_mem_foldl_assign {property : Tree → Prop}
    {assignments : List (String × Operand)} {items : List Tree}
    (new : ∀ assignment ∈ assignments, property (assignmentNode assignment.1 assignment.2))
    (old : ∀ item ∈ items, property item) :
    ∀ item ∈ assignments.foldl (fun items next => assign next.1 next.2 items) items,
      property item := by
  induction assignments generalizing items with
  | nil => exact old
  | cons assignment rest ih =>
      rcases List.forall_mem_cons.mp new with ⟨first, others⟩
      apply ih others
      intro item mem
      beta_reduce at mem
      rw [assign_eq_place] at mem
      rcases NamedItems.mem_of_mem_place mem with rfl | earlier
      · exact first
      · exact old item earlier

theorem CreateTable.mem_of_mem_define {definition element : Tree} {elements : List Tree}
    (mem : element ∈ define definition elements) :
    element = definition ∨ element ∈ elements := by
  induction elements with
  | nil => exact Or.inl (by simpa [define] using mem)
  | cons first rest ih =>
      rw [define] at mem
      split at mem
      · rcases List.mem_cons.mp mem with here | later
        · exact Or.inl here
        · exact Or.inr (List.mem_cons_of_mem first later)
      · rcases List.mem_cons.mp mem with rfl | later
        · exact Or.inr List.mem_cons_self
        · rcases ih later with here | old
          · exact Or.inl here
          · exact Or.inr (List.mem_cons_of_mem first old)

theorem CreateTable.define_eq_place {definition : Tree} {name : String}
    (named : definedColumn? definition = some name) (elements : List Tree) :
    define definition elements = place definedColumn? name definition elements := by
  induction elements with
  | nil => rfl
  | cons first rest ih =>
      have test : ((definedColumn? first).isSome &&
          definedColumn? first == definedColumn? definition) = true ↔
            definedColumn? first = some name := by
        rw [named]
        cases definedColumn? first <;> simp
      simp only [define, place, ih, test]

end SqlTree

import SqlTree.Proofs.Tree.Content
import SqlTree.Proofs.Tree.Repeated

/-!
# No name is repeated

The type of trees lets an object repeat a name. But a look-up answers for the first field of a name
only, and a path cannot tell two fields of one name apart, so nothing here should ever make such an
object out of trees that have none. This file says what that means, and shows it for the operations
on trees themselves.

`Tree.Distinct` is about a tree alone. `Tidy` extends it to whatever holds trees, and to functions.
A function is tidy if it makes tidy results of tidy arguments, so that one word covers factories,
updates, and updates that are given a function themselves.
-/

namespace SqlTree

/-- The types whose values hold trees, and what it takes that no object in them repeats a name. -/
class Tidy (α : Type) where
  IsTidy : α → Prop

export Tidy (IsTidy)

namespace Tidy

variable {α β ε : Type}

/-- There are no trees in the values of these types. -/
@[reducible]
def plain (α : Type) : Tidy α := ⟨fun _ => True⟩

instance : Tidy String := plain String
instance : Tidy Bool := plain Bool
instance : Tidy Nat := plain Nat
instance : Tidy Int := plain Int

instance : Tidy Tree := ⟨Tree.Distinct⟩

instance [Tidy α] : Tidy (Option α) := ⟨fun value => ∀ inner ∈ value, IsTidy inner⟩

instance [Tidy α] : Tidy (List α) := ⟨fun items => ∀ item ∈ items, IsTidy item⟩

instance [Tidy α] [Tidy β] : Tidy (α × β) := ⟨fun pair => IsTidy pair.1 ∧ IsTidy pair.2⟩

/-- A failure has no result. -/
instance [Tidy α] : Tidy (Except ε α) :=
  ⟨fun outcome => ∀ result, outcome = .ok result → IsTidy result⟩

instance [Tidy α] [Tidy β] : Tidy (α → β) :=
  ⟨fun function => ∀ argument, IsTidy argument → IsTidy (function argument)⟩

end Tidy

namespace Tree

/-! ## Inside a tree -/

@[simp]
theorem distinct_text (value : String) : (text value).Distinct := trivial

@[simp]
theorem distinct_bool (value : Bool) : (bool value).Distinct := trivial

@[simp]
theorem distinct_number (value : Number) : (number value).Distinct := trivial

@[simp]
theorem distinct_null : null.Distinct := trivial

@[simp]
theorem distinct_list {items : List Tree} : (list items).Distinct ↔ ∀ item ∈ items, item.Distinct :=
  distinctItems_iff items

theorem distinct_object {pairs : List (String × Tree)} :
    (object pairs).Distinct ↔ (Fields.keys pairs).Nodup ∧ ∀ pair ∈ pairs, pair.2.Distinct := by
  rw [Distinct, distinctFields_iff, Fields.Distinct]

@[simp]
theorem distinct_node {kind : String} {record : Tree} :
    (node kind record).Distinct ↔ record.Distinct := by
  simp [node, distinct_object]

variable {tree : Tree}

theorem distinct_of_mem_some (distinct : tree.Distinct) : ∀ inner ∈ some tree, inner.Distinct :=
  fun _ same => Option.some.inj same ▸ distinct

theorem Distinct.field (distinct : tree.Distinct) {field : String × Tree}
    (mem : field ∈ tree.fields) : field.2.Distinct := by
  cases tree with
  | object pairs => exact (distinct_object.mp distinct).2 field mem
  | _ => simp [fields] at mem

theorem Distinct.get? (distinct : tree.Distinct) {key : String} {part : Tree}
    (found : tree.get? key = some part) : part.Distinct :=
  distinct.part (mem_parts_of_get? found)

theorem Distinct.items (distinct : tree.Distinct) {item : Tree} (mem : item ∈ tree.items) :
    item.Distinct :=
  distinct.part (mem_parts_of_mem_items mem)

theorem Distinct.itemsAt (distinct : tree.Distinct) {key : String} {item : Tree}
    (mem : item ∈ tree.itemsAt key) : item.Distinct := by
  rw [Tree.itemsAt] at mem
  cases found : tree.get? key with
  | none => simp [found] at mem
  | some part =>
      rw [found] at mem
      exact (distinct.get? found).items mem

theorem Distinct.tagged? (distinct : tree.Distinct) {kind : String} {record : Tree}
    (tagged : tree.tagged? = some (kind, record)) : record.Distinct :=
  distinct.part (mem_parts_of_tagged? tagged)

theorem Distinct.record? (distinct : tree.Distinct) {record : Tree}
    (found : tree.record? = some record) : record.Distinct := by
  rcases Option.map_eq_some_iff.mp found with ⟨⟨kind, _⟩, tagged, rfl⟩
  exact distinct.tagged? tagged

theorem Distinct.recordOf? (distinct : tree.Distinct) {kind : String} {record : Tree}
    (found : tree.recordOf? kind = some record) : record.Distinct :=
  distinct.tagged? (tagged?_of_recordOf? found)

/-! ## Operations on trees -/

theorem distinct_ofPairs {pairs : List (String × Tree)}
    (values : ∀ pair ∈ pairs, pair.2.Distinct) : (object (Fields.ofPairs pairs)).Distinct :=
  distinct_object.mpr ⟨Fields.distinct_ofPairs pairs,
    fun pair mem => values pair (Fields.mem_of_mem_ofPairs mem)⟩

theorem Distinct.merge (distinct : tree.Distinct) {pairs : List (String × Tree)}
    (values : ∀ pair ∈ pairs, pair.2.Distinct) : (tree.merge pairs).Distinct := by
  refine distinct_object.mpr ⟨distinct.names.merge pairs, ?_⟩
  intro field mem
  rcases Fields.mem_of_mem_merge mem with old | new
  · exact distinct.field old
  · exact values field new

theorem Distinct.set (distinct : tree.Distinct) (key : String) {value : Tree}
    (valueDistinct : value.Distinct) : (tree.set key value).Distinct := by
  have values : ∀ pair ∈ [(key, value)], pair.2.Distinct := by simpa using valueDistinct
  exact distinct.merge values

theorem Distinct.erase (distinct : tree.Distinct) (key : String) : (tree.erase key).Distinct := by
  cases tree with
  | object pairs =>
      refine distinct_object.mpr ⟨distinct.names.erase key, ?_⟩
      intro field mem
      exact distinct.field (Fields.mem_of_mem_erase mem)
  | _ => exact distinct

end Tree

/-- The operations that make a tree out of trees, whatever the trees are about. -/
inductive TreeOperation : {α : Type} → [Tidy α] → α → Prop
  | object : TreeOperation fun pairs => Tree.object (Fields.ofPairs pairs)
  | list : TreeOperation Tree.list
  | node : TreeOperation Tree.node
  | set : TreeOperation Tree.set
  | erase : TreeOperation Tree.erase
  | merge : TreeOperation Tree.merge

theorem TreeOperation.isTidy {α : Type} [Tidy α] {make : α} (operation : TreeOperation make) :
    IsTidy make := by
  cases operation with
  | object => exact fun pairs tidy => Tree.distinct_ofPairs fun pair mem => (tidy pair mem).2
  | list => exact fun items tidy => Tree.distinct_list.mpr tidy
  | node => exact fun kind _ record tidy => Tree.distinct_node.mpr tidy
  | set => exact fun tree tidy key _ value valueTidy => Tree.Distinct.set tidy key valueTidy
  | erase => exact fun tree tidy key _ => Tree.Distinct.erase tidy key
  | merge =>
      exact fun tree tidy pairs pairsTidy =>
        Tree.Distinct.merge tidy fun pair mem => (pairsTidy pair mem).2

end SqlTree

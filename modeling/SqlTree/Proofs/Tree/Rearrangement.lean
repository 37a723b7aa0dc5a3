import SqlTree.Proofs.Tree.Content

/-!
# Fields in another order

The order of fields carries no meaning. Two lists of fields are rearrangements of each other if they
hold the same values under every name. Where names are distinct a name has at most one value, but
nothing here depends on that: `Fields.valuesOf` lists the values under a name, and a write or an
erasure changes this list for its own name only.

So a run of updates can be looked at one name at a time. `Tree.writeAll` applies such a run, and the
main statement is that its result is settled, up to the order of fields, by what the run does to
each name on its own.
-/

namespace SqlTree

namespace Fields

variable {α : Type}

/-- The values under a name, in their order. -/
def valuesOf (key : String) : List (String × α) → List α
  | [] => []
  | (name, value) :: rest => if name = key then value :: valuesOf key rest else valuesOf key rest

theorem get?_eq_head?_valuesOf (key : String) (fields : List (String × α)) :
    get? key fields = (valuesOf key fields).head? := by
  induction fields with
  | nil => rfl
  | cons field rest ih =>
      by_cases same : field.1 = key
      · simp [get?, valuesOf, same]
      · simp [get?, valuesOf, same, ih]

/-- The values under a name after the first of them was written, or erased. -/
def overwrite : Option α → List α → List α
  | some value, values => value :: values.tail
  | none, values => values.tail

theorem valuesOf_insert (key name : String) (value : α) (fields : List (String × α)) :
    valuesOf name (insert key value fields) =
      if key = name then overwrite (some value) (valuesOf name fields)
      else valuesOf name fields := by
  induction fields with
  | nil => simp [insert, valuesOf, overwrite]
  | cons field rest ih =>
      rcases field with ⟨first, old⟩
      by_cases written : first = key
      · subst written
        by_cases asked : first = name <;> simp [insert, valuesOf, asked, overwrite]
      · by_cases asked : first = name
        · subst asked
          simp [insert, valuesOf, written, Ne.symm written, ih]
        · simp [insert, valuesOf, written, asked, ih]

theorem valuesOf_erase (key name : String) (fields : List (String × α)) :
    valuesOf name (erase key fields) =
      if key = name then overwrite none (valuesOf name fields) else valuesOf name fields := by
  induction fields with
  | nil => simp [erase, valuesOf, overwrite]
  | cons field rest ih =>
      rcases field with ⟨first, old⟩
      by_cases erased : first = key
      · subst erased
        by_cases asked : first = name <;> simp [erase, valuesOf, asked, overwrite]
      · by_cases asked : first = name
        · subst asked
          simp [erase, valuesOf, erased, Ne.symm erased, ih]
        · simp [erase, valuesOf, erased, asked, ih]

/-- Writing the value that a name has changes nothing. -/
theorem insert_of_get? {key : String} {value : α} {fields : List (String × α)}
    (found : get? key fields = some value) : insert key value fields = fields := by
  induction fields with
  | nil => cases found
  | cons field rest ih =>
      rcases field with ⟨name, old⟩
      by_cases same : name = key
      · simp only [get?, same, if_true, Option.some.injEq] at found
        simp [insert, same, found]
      · simp only [get?, same, if_false] at found
        simp [insert, same, ih found]

theorem erase_of_get?_none {key : String} {fields : List (String × α)}
    (absent : get? key fields = none) : erase key fields = fields := by
  induction fields with
  | nil => rfl
  | cons field rest ih =>
      by_cases same : field.1 = key
      · simp [get?, same] at absent
      · simp only [get?, same, if_false] at absent
        simp [erase, same, ih absent]

theorem count_eq_count_valuesOf [DecidableEq α] (field : String × α)
    (fields : List (String × α)) :
    fields.count field = (valuesOf field.1 fields).count field.2 := by
  induction fields with
  | nil => rfl
  | cons first rest ih =>
      rcases first with ⟨name, value⟩
      rcases field with ⟨key, asked⟩
      by_cases same : name = key
      · subst same
        simp [valuesOf, List.count_cons, ih]
      · simp [valuesOf, ih, same]

/-- Fields with the same values under every name differ in their order only. -/
theorem perm_of_valuesOf [DecidableEq α] {lefts rights : List (String × α)}
    (same : ∀ key, valuesOf key lefts = valuesOf key rights) : lefts.Perm rights := by
  rw [List.perm_iff_count]
  intro field
  rw [count_eq_count_valuesOf, count_eq_count_valuesOf, same]

theorem Distinct.perm {lefts rights : List (String × α)} (distinct : Distinct lefts)
    (order : lefts.Perm rights) : Distinct rights :=
  (List.Perm.nodup_iff (order.map Prod.fst)).mp distinct

/-- Where names are distinct, a name is found whatever the order. -/
theorem Distinct.get?_perm {lefts rights : List (String × α)} (distinct : Distinct lefts)
    (order : lefts.Perm rights) (key : String) : get? key lefts = get? key rights := by
  cases found : get? key lefts with
  | some value =>
      have mem := order.subset (mem_of_get? found)
      exact ((distinct.perm order).get?_of_mem mem).symm
  | none =>
      cases other : get? key rights with
      | none => rfl
      | some value =>
          have mem := order.symm.subset (mem_of_get? other)
          have present := distinct.get?_of_mem mem
          rw [found] at present
          cases present

end Fields

namespace Tree

theorem tagged?_of_two (first second : String × Tree) (rest : List (String × Tree)) :
    tagged? (.object (first :: second :: rest)) = none := rfl

/-- Whether an object is a node does not depend on the order of its fields. -/
theorem tagged?_of_perm {lefts rights : List (String × Tree)} (order : lefts.Perm rights) :
    tagged? (.object lefts) = tagged? (.object rights) := by
  rcases lefts with _ | ⟨first, _ | ⟨second, rest⟩⟩
  · rw [List.nil_perm.mp order]
  · rw [List.singleton_perm.mp order]
  · have lengths := order.length_eq
    rcases rights with _ | ⟨other, _ | ⟨next, others⟩⟩
    · simp at lengths
    · simp at lengths
    · rw [tagged?_of_two, tagged?_of_two]

/-! ## Writing and erasing fields -/

/-- Writes a field, or erases it if there is no value. -/
def write (tree : Tree) (key : String) (value : Option Tree) : Tree :=
  match value with
  | some value => tree.set key value
  | none => tree.erase key

def writeAll (tree : Tree) (writes : List (String × Option Tree)) : Tree :=
  writes.foldl (fun written (key, value) => written.write key value) tree

theorem writeAll_append (tree : Tree) (first second : List (String × Option Tree)) :
    tree.writeAll (first ++ second) = (tree.writeAll first).writeAll second :=
  List.foldl_append

def isObject (tree : Tree) : Bool := tree.object?.isSome

theorem exists_object {tree : Tree} (object : tree.isObject = true) :
    ∃ fields, tree = .object fields := by
  cases tree with
  | object fields => exact ⟨fields, rfl⟩
  | _ => cases object

theorem isObject_write (tree : Tree) (key : String) (value : Option Tree) :
    (tree.write key value).isObject = (tree.isObject || value.isSome) := by
  cases value with
  | some value => simp [write, set, isObject, object?]
  | none => cases tree <;> rfl

/-- Writing back what a field holds changes nothing. -/
theorem write_get? (tree : Tree) (key : String) : tree.write key (tree.get? key) = tree := by
  cases tree with
  | object fields =>
      unfold write get?
      split
      · next found => exact congrArg object (Fields.insert_of_get? found)
      · next absent => exact congrArg object (Fields.erase_of_get?_none absent)
  | _ => rfl

theorem valuesOf_write (tree : Tree) (key name : String) (value : Option Tree) :
    Fields.valuesOf name (tree.write key value).fields =
      if key = name then Fields.overwrite value (Fields.valuesOf name tree.fields)
      else Fields.valuesOf name tree.fields := by
  cases value with
  | some value => exact Fields.valuesOf_insert key name value tree.fields
  | none =>
      rw [write, fields_erase]
      exact Fields.valuesOf_erase key name tree.fields

theorem isObject_writeAll (tree : Tree) (writes : List (String × Option Tree)) :
    (tree.writeAll writes).isObject = (tree.isObject || writes.any (·.2.isSome)) := by
  induction writes generalizing tree with
  | nil => simp [writeAll]
  | cons first rest ih =>
      change ((tree.write first.1 first.2).writeAll rest).isObject = _
      rw [ih, isObject_write, List.any_cons, Bool.or_assoc]

/-- The writes to one name. -/
def writesTo (key : String) (writes : List (String × Option Tree)) : List (String × Option Tree) :=
  writes.filter fun write => write.1 = key

/-- What a run of writes leaves under a name is what the writes to that name leave there. -/
theorem valuesOf_writeAll (tree : Tree) (writes : List (String × Option Tree)) (key : String) :
    Fields.valuesOf key (tree.writeAll writes).fields =
      (writesTo key writes).foldl (fun values write => Fields.overwrite write.2 values)
        (Fields.valuesOf key tree.fields) := by
  induction writes generalizing tree with
  | nil => rfl
  | cons first rest ih =>
      change Fields.valuesOf key ((tree.write first.1 first.2).writeAll rest).fields = _
      rw [ih, valuesOf_write]
      by_cases same : first.1 = key
      · simp [writesTo, same]
      · simp [writesTo, same]

theorem get?_writeAll_of_writesTo (tree : Tree) {first second : List (String × Option Tree)}
    {key : String} (same : writesTo key first = writesTo key second) :
    (tree.writeAll first).get? key = (tree.writeAll second).get? key := by
  rw [get?, get?, Fields.get?_eq_head?_valuesOf, Fields.get?_eq_head?_valuesOf,
    valuesOf_writeAll, valuesOf_writeAll, same]

/-- Writes that are the same name by name write the same values. -/
theorem mem_iff_of_writesTo {first second : List (String × Option Tree)}
    (same : ∀ key, writesTo key first = writesTo key second) (write : String × Option Tree) :
    write ∈ first ↔ write ∈ second := by
  have own (writes : List (String × Option Tree)) :
      write ∈ writes ↔ write ∈ writesTo write.1 writes := by
    simp [writesTo]
  rw [own first, own second, same]

/-- A run of writes that ends with no object has written nothing. -/
theorem writeAll_of_not_isObject {tree : Tree} {writes : List (String × Option Tree)}
    (scalar : (tree.writeAll writes).isObject = false) : tree.writeAll writes = tree := by
  induction writes generalizing tree with
  | nil => rfl
  | cons first rest ih =>
      change ((tree.write first.1 first.2).writeAll rest).isObject = false at scalar
      have unchanged : tree.write first.1 first.2 = tree := by
        rw [isObject_writeAll, isObject_write] at scalar
        rcases first with ⟨key, _ | value⟩
        · cases tree with
          | object fields => simp [isObject, object?] at scalar
          | _ => rfl
        · simp at scalar
      change (tree.write first.1 first.2).writeAll rest = tree
      rw [unchanged] at scalar ⊢
      exact ih scalar

end Tree

end SqlTree

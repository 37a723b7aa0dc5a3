import SqlTree.Tree.Kind

/-!
# What is inside a tree

Every traversal goes through a node straight into its record, and through any other tree as it is.
`Tree.content` is what is gone into, and `Tree.parts` are the trees that stand directly inside a
container. Induction along these two, `Tree.contentInduction`, is the induction that all traversals
share: whatever holds of a tree as soon as it holds of the parts of its content holds of every tree.

`Tree.Distinct` says that no object inside a tree repeats a name. It passes to the content and to
the parts, so it is available along the same induction.
-/

namespace SqlTree.Tree

/-- What a traversal goes into: the record of a node, and any other tree itself. -/
def content (tree : Tree) : Tree := tree.record?.getD tree

/-- The trees directly inside a container. -/
def parts : Tree → List Tree
  | .object fields => fields.map (·.2)
  | .list items => items
  | _ => []

def withParts : Tree → List Tree → Tree
  | .object fields, parts => .object (fields.zipWith (fun field part => (field.1, part)) parts)
  | .list _, parts => .list parts
  | other, _ => other

/-- The tree with something else in place of its content. -/
def withContent (tree content : Tree) : Tree :=
  match tree.kind? with
  | some kind => node kind content
  | none => content

theorem content_of_tagged? {tree record : Tree} {kind : String}
    (tagged : tree.tagged? = some (kind, record)) : tree.content = record := by
  simp [content, record?, tagged]

theorem content_of_untagged {tree : Tree} (untagged : tree.tagged? = none) :
    tree.content = tree := by
  simp [content, record?, untagged]

theorem withContent_of_tagged? {tree record : Tree} {kind : String}
    (tagged : tree.tagged? = some (kind, record)) (content : Tree) :
    tree.withContent content = node kind content := by
  simp [withContent, kind?, tagged]

theorem withContent_of_untagged {tree : Tree} (untagged : tree.tagged? = none) (content : Tree) :
    tree.withContent content = content := by
  simp [withContent, kind?, untagged]

@[simp]
theorem withContent_content (tree : Tree) : tree.withContent tree.content = tree := by
  rcases tagged : tree.tagged? with _ | ⟨kind, record⟩
  · rw [withContent_of_untagged tagged, content_of_untagged tagged]
  · rw [withContent_of_tagged? tagged, content_of_tagged? tagged]
    exact (tagged?_eq_some_iff.mp tagged).2.symm

@[simp]
theorem withParts_parts (tree : Tree) : tree.withParts tree.parts = tree := by
  cases tree with
  | object fields => simp [withParts, parts, List.zipWith_map_right]
  | list items => rfl
  | _ => rfl

theorem tagged?_of_scalar {tree : Tree} (scalar : tree.isContainer = false) :
    tree.tagged? = none := by
  cases tree <;> simp_all [tagged?, isContainer]

theorem size_content_le (tree : Tree) : tree.content.size ≤ tree.size := by
  rcases tagged : tree.tagged? with _ | ⟨kind, record⟩
  · exact Nat.le_of_eq (congrArg size (content_of_untagged tagged))
  · rw [content_of_tagged? tagged]
    exact Nat.le_of_lt (size_lt_of_tagged? tagged)

theorem size_le_sizeItems {items : List Tree} {item : Tree} (mem : item ∈ items) :
    item.size ≤ sizeItems items := by
  induction items with
  | nil => simp at mem
  | cons first rest ih =>
      simp only [sizeItems]
      rcases List.mem_cons.mp mem with rfl | later
      · omega
      · have := ih later
        omega

theorem size_le_sizeFields {fields : List (String × Tree)} {field : String × Tree}
    (mem : field ∈ fields) : field.2.size ≤ sizeFields fields := by
  induction fields with
  | nil => simp at mem
  | cons first rest ih =>
      simp only [sizeFields]
      rcases List.mem_cons.mp mem with rfl | later
      · omega
      · have := ih later
        omega

theorem size_lt_of_mem_parts {tree part : Tree} (mem : part ∈ tree.parts) :
    part.size < tree.size := by
  cases tree with
  | object fields =>
      rcases List.mem_map.mp mem with ⟨field, fieldMem, rfl⟩
      have := size_le_sizeFields fieldMem
      simp only [size]
      omega
  | list items =>
      have : part.size ≤ sizeItems items := size_le_sizeItems mem
      simp only [size]
      omega
  | _ => simp [parts] at mem

theorem depthItems_le_iff (items : List Tree) (bound : Nat) :
    depthItems items ≤ bound ↔ ∀ item ∈ items, item.depth ≤ bound := by
  induction items with
  | nil => simp [depthItems]
  | cons item rest ih => simp only [depthItems, Nat.max_le, ih, List.forall_mem_cons]

theorem depthFields_le_iff (fields : List (String × Tree)) (bound : Nat) :
    depthFields fields ≤ bound ↔ ∀ field ∈ fields, field.2.depth ≤ bound := by
  induction fields with
  | nil => simp [depthFields]
  | cons field rest ih => simp only [depthFields, Nat.max_le, ih, List.forall_mem_cons]

theorem depth_lt_of_mem_parts {tree part : Tree} (mem : part ∈ tree.parts) :
    part.depth < tree.depth := by
  cases tree with
  | object fields =>
      rcases List.mem_map.mp mem with ⟨field, fieldMem, rfl⟩
      exact Nat.lt_succ_of_le ((depthFields_le_iff fields _).mp (Nat.le_refl _) field fieldMem)
  | list items =>
      exact Nat.lt_succ_of_le ((depthItems_le_iff items _).mp (Nat.le_refl _) part mem)
  | _ => simp [parts] at mem

theorem mem_parts_of_get? {tree part : Tree} {key : String} (found : tree.get? key = some part) :
    part ∈ tree.parts := by
  cases tree with
  | object fields => exact List.mem_map.mpr ⟨(key, part), Fields.mem_of_get? found, rfl⟩
  | _ => simp [get?, fields, Fields.get?] at found

theorem mem_parts_of_mem_items {tree item : Tree} (mem : item ∈ tree.items) :
    item ∈ tree.parts := by
  cases tree with
  | list items => exact mem
  | _ => simp [items] at mem

theorem tagged?_of_recordOf? {tree record : Tree} {kind : String}
    (found : tree.recordOf? kind = some record) : tree.tagged? = some (kind, record) := by
  unfold recordOf? at found
  split at found
  · next name _ tagged =>
    split at found
    · next same => rw [tagged, same, Option.some.inj found]
    · cases found
  · cases found

theorem eq_node_of_recordOf? {tree record : Tree} {kind : String}
    (found : tree.recordOf? kind = some record) : tree = node kind record :=
  (tagged?_eq_some_iff.mp (tagged?_of_recordOf? found)).2

theorem mem_parts_of_tagged? {tree record : Tree} {kind : String}
    (tagged : tree.tagged? = some (kind, record)) : record ∈ tree.parts := by
  rw [(tagged?_eq_some_iff.mp tagged).2]
  simp [node, parts]

/-- The induction of every traversal: from the parts of a tree's content to the tree. -/
theorem contentInduction {motive : Tree → Prop}
    (step : ∀ tree : Tree, (∀ part ∈ tree.content.parts, motive part) → motive tree)
    (tree : Tree) : motive tree := by
  apply step
  intro part mem
  exact contentInduction step part
termination_by tree.size
decreasing_by exact Nat.lt_of_lt_of_le (size_lt_of_mem_parts mem) tree.size_content_le

/-- Whatever holds of a tree as soon as it holds of its parts holds of every tree. -/
theorem partInduction {motive : Tree → Prop}
    (step : ∀ tree : Tree, (∀ part ∈ tree.parts, motive part) → motive tree)
    (tree : Tree) : motive tree := by
  apply step
  intro part mem
  exact partInduction step part
termination_by tree.size
decreasing_by exact size_lt_of_mem_parts mem

/-! ## Distinct names everywhere -/

mutual
/-- No object in the tree, itself included, repeats a name. -/
def Distinct : Tree → Prop
  | .list items => DistinctItems items
  | .object fields => Fields.Distinct fields ∧ DistinctFields fields
  | _ => True
termination_by structural tree => tree

def DistinctItems : List Tree → Prop
  | [] => True
  | item :: rest => Distinct item ∧ DistinctItems rest
termination_by structural items => items

def DistinctFields : List (String × Tree) → Prop
  | [] => True
  | (_, value) :: rest => Distinct value ∧ DistinctFields rest
termination_by structural fields => fields
end

mutual
def decideDistinct : (tree : Tree) → Decidable tree.Distinct
  | .list items => decideDistinctItems items
  | .object fields =>
      have := decideDistinctFields fields
      inferInstanceAs (Decidable (Fields.Distinct fields ∧ DistinctFields fields))
  | .null | .bool _ | .number _ | .text _ => isTrue trivial
termination_by structural tree => tree

def decideDistinctItems : (items : List Tree) → Decidable (DistinctItems items)
  | [] => isTrue trivial
  | item :: rest =>
      have := decideDistinct item
      have := decideDistinctItems rest
      inferInstanceAs (Decidable (Distinct item ∧ DistinctItems rest))
termination_by structural items => items

def decideDistinctFields : (fields : List (String × Tree)) → Decidable (DistinctFields fields)
  | [] => isTrue trivial
  | (_, value) :: rest =>
      have := decideDistinct value
      have := decideDistinctFields rest
      inferInstanceAs (Decidable (Distinct value ∧ DistinctFields rest))
termination_by structural fields => fields
end

instance : DecidablePred Distinct := decideDistinct

theorem distinctItems_iff (items : List Tree) :
    DistinctItems items ↔ ∀ item ∈ items, item.Distinct := by
  induction items with
  | nil => simp [DistinctItems]
  | cons item rest ih => simp [DistinctItems, ih]

theorem distinctFields_iff (fields : List (String × Tree)) :
    DistinctFields fields ↔ ∀ field ∈ fields, field.2.Distinct := by
  induction fields with
  | nil => simp [DistinctFields]
  | cons field rest ih => simp [DistinctFields, ih]

/-- Names are distinct everywhere if they are at the top and in every part. -/
theorem distinct_iff (tree : Tree) :
    tree.Distinct ↔ Fields.Distinct tree.fields ∧ ∀ part ∈ tree.parts, part.Distinct := by
  cases tree with
  | object pairs => simp only [Distinct, fields, parts, distinctFields_iff, List.forall_mem_map]
  | list items => simp [Distinct, fields, parts, distinctItems_iff, Fields.Distinct]
  | _ => simp [Distinct, fields, parts, Fields.Distinct]

theorem Distinct.names {tree : Tree} (distinct : tree.Distinct) : Fields.Distinct tree.fields :=
  (distinct_iff tree).mp distinct |>.1

theorem Distinct.content {tree : Tree} (distinct : tree.Distinct) : tree.content.Distinct := by
  rcases tagged : tree.tagged? with _ | ⟨kind, record⟩
  · rwa [content_of_untagged tagged]
  · rw [content_of_tagged? tagged]
    rw [(tagged?_eq_some_iff.mp tagged).2] at distinct
    exact (distinct_iff _).mp distinct |>.2 record (by simp [node, parts])

theorem Distinct.part {tree part : Tree} (distinct : tree.Distinct) (mem : part ∈ tree.parts) :
    part.Distinct :=
  (distinct_iff tree).mp distinct |>.2 part mem

end SqlTree.Tree

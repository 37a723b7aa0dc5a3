import SqlTree.Proofs.Tree.Content

/-!
# Containers with other parts

Whether an object is a node is told by the names of its fields. So a container that is built again
with as many parts as before stays a node of its kind, or stays none, whatever the new parts are. A
tree can be taken apart into its kind and the parts of its content, and both can be read off the
tree that is put together again.
-/

namespace SqlTree.Tree

/-- Whether an object is a node, and of which kind, is told by the names of its fields. -/
theorem kind?_of_keys {lefts rights : List (String × Tree)}
    (keys : Fields.keys lefts = Fields.keys rights) :
    (object lefts).kind? = (object rights).kind? := by
  rcases lefts with _ | ⟨left, _ | ⟨leftNext, leftRest⟩⟩ <;>
    rcases rights with _ | ⟨right, _ | ⟨rightNext, rightRest⟩⟩ <;>
      simp only [Fields.keys_nil, Fields.keys_cons, reduceCtorEq, List.cons.injEq, and_false,
        and_true] at keys
  · rfl
  · simp only [kind?, tagged?, keys]
    split <;> rfl
  · rfl

theorem tagged?_eq_none_iff {tree : Tree} : tree.tagged? = none ↔ tree.kind? = none := by
  simp [kind?]

theorem keys_zipWith {fields : List (String × Tree)} {parts : List Tree}
    (length : parts.length = fields.length) :
    Fields.keys (fields.zipWith (fun field part => (field.1, part)) parts) =
      Fields.keys fields := by
  induction fields generalizing parts with
  | nil => simp
  | cons field rest ih =>
      rcases parts with _ | ⟨part, others⟩
      · simp at length
      · simp only [List.zipWith_cons_cons, Fields.keys_cons, ih (Nat.succ.inj length)]

theorem kind?_withParts {tree : Tree} {parts : List Tree}
    (length : parts.length = tree.parts.length) : (tree.withParts parts).kind? = tree.kind? := by
  cases tree with
  | object fields => exact kind?_of_keys (keys_zipWith (by simpa [Tree.parts] using length))
  | _ => rfl

theorem parts_withParts {tree : Tree} {parts : List Tree}
    (length : parts.length = tree.parts.length) : (tree.withParts parts).parts = parts := by
  cases tree with
  | object fields =>
      have enough : parts.length ≤ fields.length := by simp_all [Tree.parts]
      have zipped := List.map_snd_zip enough
      rw [List.zip, List.map_zipWith] at zipped
      simpa only [withParts, Tree.parts, List.map_zipWith] using zipped
  | list items => rfl
  | _ => exact (List.length_eq_zero_iff.mp length).symm

/-! ## Content that is or is not a node, as before -/

variable {tree content : Tree} (same : content.kind? = tree.content.kind?)

include same

theorem kind?_withContent : (tree.withContent content).kind? = tree.kind? := by
  rcases tagged : tree.tagged? with _ | ⟨kind, record⟩
  · rw [withContent_of_untagged tagged, same, content_of_untagged tagged]
  · have named := (tagged?_eq_some_iff.mp tagged).1
    rw [withContent_of_tagged? tagged, kind?, kind?, tagged, tagged?_node named]
    rfl

theorem content_withContent : (tree.withContent content).content = content := by
  rcases tagged : tree.tagged? with _ | ⟨kind, record⟩
  · rw [withContent_of_untagged tagged]
    apply content_of_untagged
    rw [tagged?_eq_none_iff, same, content_of_untagged tagged, ← tagged?_eq_none_iff, tagged]
  · have named := (tagged?_eq_some_iff.mp tagged).1
    rw [withContent_of_tagged? tagged]
    exact content_of_tagged? (tagged?_node named content)

end SqlTree.Tree

import SqlTree.Proofs.Traverse.Address
import SqlTree.Proofs.Tree.Rearrangement
import SqlTree.Proofs.Tree.Rebuilding

/-!
# Writing at an address

`Tree.put` writes a tree at the end of a path and leaves everything else as it is. It is the other
half of `Tree.resolve?`: what has been written is found again, what lies apart from it is found as
before, and writing what is there already changes nothing.
-/

namespace SqlTree

namespace Fields

variable {α : Type}

/-- A field that is found is the first of its name. -/
theorem exists_split_of_get? {key : String} {value : α} {fields : List (String × α)}
    (found : get? key fields = some value) :
    ∃ front back, fields = front ++ (key, value) :: back ∧ key ∉ keys front := by
  induction fields with
  | nil => simp [get?] at found
  | cons field rest ih =>
      rcases field with ⟨name, other⟩
      by_cases same : name = key
      · subst same
        obtain rfl : other = value := by simpa [get?] using found
        exact ⟨[], rest, rfl, by simp⟩
      · rw [get?, if_neg same] at found
        rcases ih found with ⟨front, back, rfl, absent⟩
        exact ⟨(name, other) :: front, back, rfl, by simp [Ne.symm same, absent]⟩

theorem insert_append_cons {key : String} {front : List (String × α)} (absent : key ∉ keys front)
    (old new : α) (back : List (String × α)) :
    insert key new (front ++ (key, old) :: back) = front ++ (key, new) :: back := by
  induction front with
  | nil => simp [insert]
  | cons field rest ih =>
      rw [keys_cons, List.mem_cons, not_or] at absent
      simp [insert, Ne.symm absent.1, ih absent.2]

theorem get?_append_cons {key : String} {front : List (String × α)} (absent : key ∉ keys front)
    (name : String) (value : α) (back : List (String × α)) :
    get? name (front ++ (key, value) :: back) =
      if key = name then some value else get? name (front ++ back) := by
  induction front with
  | nil => rfl
  | cons field rest ih =>
      rw [keys_cons, List.mem_cons, not_or] at absent
      have later := ih absent.2
      by_cases same : field.1 = name
      · have other : key ≠ name := fun equal => absent.1 (equal.trans same.symm)
        simp [get?, same, other]
      · simpa [get?, same] using later

end Fields

namespace Tree

/-- Writes a part of a container. -/
def putPart (container : Tree) (segment : Segment) (new : Tree) : Tree :=
  match segment with
  | .field name => container.set name new
  | .index position => .list (container.items.set position new)

/-- Writes a tree at the end of a path. A path that leads nowhere changes nothing. -/
def put (tree : Tree) : List Segment → Tree → Tree
  | [], new => new
  | segment :: rest, new =>
      match tree.content.part? segment with
      | some part => tree.withContent (tree.content.putPart segment (part.put rest new))
      | none => tree

theorem put_cons {tree part : Tree} {segment : Segment}
    (found : tree.content.part? segment = some part) (rest : List Segment) (new : Tree) :
    tree.put (segment :: rest) new =
      tree.withContent (tree.content.putPart segment (part.put rest new)) := by
  simp [put, found]

theorem putPart_of_part? {container part : Tree} {segment : Segment}
    (found : container.part? segment = some part) : container.putPart segment part = container := by
  cases segment with
  | field name =>
      cases container with
      | object fields => exact congrArg object (Fields.insert_of_get? found)
      | _ => simp [part?, get?, fields, Fields.get?] at found
  | index position =>
      cases container with
      | list items =>
          rcases List.getElem?_eq_some_iff.mp found with ⟨inside, rfl⟩
          exact congrArg list (List.set_getElem_self inside)
      | _ => simp [part?, items] at found

theorem put_of_resolve? {tree reached : Tree} {path : List Segment}
    (resolved : tree.resolve? path = some reached) : tree.put path reached = tree := by
  induction path generalizing tree with
  | nil => exact (Option.some.inj resolved).symm
  | cons segment rest ih =>
      rcases Option.bind_eq_some_iff.mp resolved with ⟨part, found, further⟩
      rw [put_cons found, ih further, putPart_of_part? found, withContent_content]

/-! ## Reading after writing -/

section

variable {container part : Tree} {segment : Segment} (found : container.part? segment = some part)
  (new : Tree)

include found

/-- Writing a part that is there already makes no node and unmakes none. -/
theorem kind?_putPart : (container.putPart segment new).kind? = container.kind? := by
  cases segment with
  | field name =>
      cases container with
      | object fields =>
          have present : name ∈ Fields.keys fields :=
            List.mem_map.mpr ⟨(name, part), Fields.mem_of_get? found, rfl⟩
          apply kind?_of_keys
          rw [Tree.fields, Fields.keys_insert, if_pos present]
      | _ => simp [part?, get?, fields, Fields.get?] at found
  | index position =>
      cases container with
      | list items => rfl
      | _ => simp [part?, items] at found

theorem part?_putPart_self : (container.putPart segment new).part? segment = some new := by
  cases segment with
  | field name => simp [putPart, part?, get?, set, fields, Fields.get?_insert]
  | index position =>
      have inside : position < container.items.length := (List.getElem?_eq_some_iff.mp found).1
      exact List.getElem?_set_self inside

theorem part?_putPart_of_ne {other : Segment} (different : segment ≠ other) :
    (container.putPart segment new).part? other = container.part? other := by
  cases segment with
  | field name =>
      cases container with
      | object fields =>
          cases other with
          | field asked =>
              have apart : name ≠ asked := fun same => different (congrArg Segment.field same)
              simp [putPart, part?, get?, set, Tree.fields, Fields.get?_insert, apart]
          | index asked => rfl
      | _ => simp [part?, get?, fields, Fields.get?] at found
  | index position =>
      cases container with
      | list items =>
          cases other with
          | field asked => rfl
          | index asked =>
              have apart : position ≠ asked := fun same => different (congrArg Segment.index same)
              simp [putPart, part?, Tree.items, List.getElem?_set_ne apart]
      | _ => simp [part?, items] at found

end

theorem content_put_cons {tree part : Tree} {segment : Segment}
    (found : tree.content.part? segment = some part) (rest : List Segment) (new : Tree) :
    (tree.put (segment :: rest) new).content =
      tree.content.putPart segment (part.put rest new) := by
  rw [put_cons found, content_withContent (kind?_putPart found _)]

theorem resolve?_put_self {tree old : Tree} {path : List Segment}
    (resolved : tree.resolve? path = some old) (new : Tree) :
    (tree.put path new).resolve? path = some new := by
  induction path generalizing tree with
  | nil => rfl
  | cons segment rest ih =>
      rcases Option.bind_eq_some_iff.mp resolved with ⟨part, found, further⟩
      rw [resolve?, content_put_cons found, part?_putPart_self found, Option.bind_some, ih further]

/-- A place that is neither on the way to the written one nor below it keeps what it has. -/
theorem resolve?_put_of_apart (tree new : Tree) {path other : List Segment}
    (notBelow : ¬path <+: other) (notAbove : ¬other <+: path) :
    (tree.put path new).resolve? other = tree.resolve? other := by
  induction path generalizing tree other with
  | nil => exact absurd List.nil_prefix notBelow
  | cons segment rest ih =>
      rcases other with _ | ⟨asked, further⟩
      · exact absurd List.nil_prefix notAbove
      · cases found : tree.content.part? segment with
        | none => rw [put, found]
        | some part =>
            rw [resolve?, resolve?, content_put_cons found]
            by_cases same : segment = asked
            · subst same
              rw [List.prefix_cons_inj] at notBelow notAbove
              rw [part?_putPart_self found, found, Option.bind_some, Option.bind_some,
                ih part notBelow notAbove]
            · rw [part?_putPart_of_ne found _ same]

end Tree

end SqlTree

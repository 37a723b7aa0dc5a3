import SqlTree.Proofs.Print.Alike
import SqlTree.Proofs.Tree.Rebuilding
import SqlTree.Statement.Builder

/-!
# Printing ignores the order of fields and source locations

A grammar reports where in a text a node stands, and it lists the fields of an object in an order of
its own. Neither reaches the text that is printed. `Tree.withoutLocations` drops the locations, and
`Tree.SameUpToOrder` compares what is left up to the order of fields, both at every depth.

Locations matter in one way. An object is a node if it has exactly one field, so an object with a
location beside a field that is named like a kind is none, and becomes one when the location is
dropped. `Tree.hidesNoNode` says that this happens nowhere in a tree.
-/

namespace SqlTree

theorem Number.agrees_refl (value : Number) : value.agrees value = true := by
  cases value <;> simp [agrees, Binary64.equalAsNumber]

namespace Tree

/-! ## Dropping locations -/

mutual
def withoutLocations : Tree → Tree
  | .list items => .list (withoutLocationsItems items)
  | .object fields => .object (withoutLocationsFields fields)
  | other => other
termination_by structural tree => tree

def withoutLocationsItems : List Tree → List Tree
  | [] => []
  | item :: rest => withoutLocations item :: withoutLocationsItems rest
termination_by structural items => items

def withoutLocationsFields : List (String × Tree) → List (String × Tree)
  | [] => []
  | (key, value) :: rest =>
      if key = "location" then withoutLocationsFields rest
      else (key, withoutLocations value) :: withoutLocationsFields rest
termination_by structural fields => fields
end

theorem withoutLocationsItems_eq_map (items : List Tree) :
    withoutLocationsItems items = items.map withoutLocations := by
  induction items with
  | nil => rfl
  | cons item rest ih => rw [withoutLocationsItems, ih, List.map_cons]

theorem keys_withoutLocationsFields (fields : List (String × Tree)) :
    Fields.keys (withoutLocationsFields fields) =
      (Fields.keys fields).filter (· ≠ "location") := by
  induction fields with
  | nil => rfl
  | cons field rest ih =>
      rw [withoutLocationsFields]
      split
      · next dropped => simp [dropped, ih]
      · next kept => simp [kept, ih]

/-- Every field that is no location is still there, with what is left of its value. -/
theorem get?_withoutLocationsFields {key : String} (read : key ≠ "location")
    (fields : List (String × Tree)) :
    Fields.get? key (withoutLocationsFields fields) =
      (Fields.get? key fields).map withoutLocations := by
  induction fields with
  | nil => rfl
  | cons field rest ih =>
      rcases field with ⟨name, value⟩
      by_cases found : name = key
      · subst found
        simp [withoutLocationsFields, Fields.get?, read]
      · by_cases dropped : name = "location"
        · subst dropped
          simp [withoutLocationsFields, Fields.get?, found, ih]
        · simp [withoutLocationsFields, Fields.get?, found, dropped, ih]

theorem distinct_withoutLocationsFields {fields : List (String × Tree)}
    (distinct : Fields.Distinct fields) : Fields.Distinct (withoutLocationsFields fields) := by
  unfold Fields.Distinct at *
  rw [keys_withoutLocationsFields]
  exact distinct.filter _

/-- A node stays a node of its kind. -/
theorem kind?_withoutLocations_of_tagged? {tree record : Tree} {kind : String}
    (tagged : tree.tagged? = some (kind, record)) :
    tree.withoutLocations.kind? = some kind := by
  rcases tagged?_eq_some_iff.mp tagged with ⟨named, rfl⟩
  have kept := Alike.ne_location_of_isKindName named
  have image : (node kind record).withoutLocations = node kind record.withoutLocations := by
    simp [node, withoutLocations, withoutLocationsFields, kept]
  rw [image, kind?, tagged?_node named, Option.map_some]

/-! ## Nodes that a location hides -/

/-- No node comes to light when the locations of the tree are dropped. -/
def isNoHiddenNode (tree : Tree) : Bool :=
  tree.kind?.isSome || tree.withoutLocations.kind?.isNone

mutual
/-- In no place of the tree a location hides a node. What stands in a location does not matter. -/
def hidesNoNode : Tree → Bool
  | .list items => hidesNoNodeItems items
  | .object fields => isNoHiddenNode (.object fields) && hidesNoNodeFields fields
  | _ => true
termination_by structural tree => tree

def hidesNoNodeItems : List Tree → Bool
  | [] => true
  | item :: rest => hidesNoNode item && hidesNoNodeItems rest
termination_by structural items => items

def hidesNoNodeFields : List (String × Tree) → Bool
  | [] => true
  | (key, value) :: rest =>
      (key == "location" || hidesNoNode value) && hidesNoNodeFields rest
termination_by structural fields => fields
end

theorem hidesNoNodeItems_iff (items : List Tree) :
    hidesNoNodeItems items = true ↔ ∀ item ∈ items, item.hidesNoNode = true := by
  induction items with
  | nil => simp [hidesNoNodeItems]
  | cons item rest ih => simp [hidesNoNodeItems, ih]

theorem hidesNoNodeFields_iff (fields : List (String × Tree)) :
    hidesNoNodeFields fields = true ↔
      ∀ field ∈ fields, field.1 ≠ "location" → field.2.hidesNoNode = true := by
  induction fields with
  | nil => simp [hidesNoNodeFields]
  | cons field rest ih =>
      simp only [hidesNoNodeFields, Bool.and_eq_true, Bool.or_eq_true, beq_iff_eq, ih,
        List.forall_mem_cons, ne_eq, or_iff_not_imp_left]

/-- Where no location hides a node, dropping locations keeps the kind of every object. -/
theorem kind?_withoutLocations {tree : Tree} (hides : tree.isNoHiddenNode = true) :
    tree.withoutLocations.kind? = tree.kind? := by
  rcases tagged : tree.tagged? with _ | ⟨kind, record⟩
  · have untagged : tree.kind? = none := by rw [kind?, tagged, Option.map_none]
    rw [isNoHiddenNode, untagged] at hides
    rw [untagged]
    exact Option.isNone_iff_eq_none.mp hides
  · rw [kind?_withoutLocations_of_tagged? tagged, kind?, tagged, Option.map_some]

/-! ## The order of fields -/

/--
Equality up to the order of fields, at every depth. Numbers are compared as data: the two zeros of
binary64 are equal.
-/
inductive SameUpToOrder : Tree → Tree → Prop
  | null : SameUpToOrder .null .null
  | bool (value : Bool) : SameUpToOrder (.bool value) (.bool value)
  | number {left right : Number} (agree : left.agrees right = true) :
      SameUpToOrder (.number left) (.number right)
  | text (value : String) : SameUpToOrder (.text value) (.text value)
  | list {lefts rights : List Tree} (items : List.Forall₂ SameUpToOrder lefts rights) :
      SameUpToOrder (.list lefts) (.list rights)
  | object {lefts reordered rights : List (String × Tree)} (order : lefts.Perm reordered)
      (keys : Fields.keys reordered = Fields.keys rights)
      (values : List.Forall₂ SameUpToOrder (reordered.map (·.2)) (rights.map (·.2))) :
      SameUpToOrder (.object lefts) (.object rights)

theorem SameUpToOrder.refl (tree : Tree) : SameUpToOrder tree tree := by
  induction tree using partInduction with
  | step tree ih =>
      cases tree with
      | null => exact .null
      | bool value => exact .bool value
      | number value => exact .number (Number.agrees_refl value)
      | text value => exact .text value
      | list items => exact .list (List.forall₂_same.mpr ih)
      | object fields => exact .object (.refl fields) rfl (List.forall₂_same.mpr ih)

theorem SameUpToOrder.of_perm {lefts rights : List (String × Tree)} (order : lefts.Perm rights) :
    SameUpToOrder (.object lefts) (.object rights) :=
  .object order rfl (List.forall₂_same.mpr fun value _ => .refl value)

theorem SameUpToOrder.node (kind : String) {left right : Tree} (same : SameUpToOrder left right) :
    SameUpToOrder (.node kind left) (.node kind right) :=
  .object (.refl _) rfl (.cons same .nil)

theorem SameUpToOrder.shell {left right : Tree} (same : SameUpToOrder left right) :
    SameUpToOrder (.shell [left]) (.shell [right]) :=
  .object (.refl _) rfl (.cons (.refl _) (.cons (.list (.cons (same.node "stmt") .nil)) .nil))

/-- Values that are related in their order are related name by name. -/
theorem rel_get?_of_forall₂ {related : Tree → Tree → Prop} {lefts rights : List (String × Tree)}
    (keys : Fields.keys lefts = Fields.keys rights)
    (values : List.Forall₂ related (lefts.map (·.2)) (rights.map (·.2))) (key : String) :
    Option.Rel related (Fields.get? key lefts) (Fields.get? key rights) := by
  induction lefts generalizing rights with
  | nil =>
      cases rights with
      | nil => exact .none
      | cons => cases keys
  | cons left lefts ih =>
      cases rights with
      | nil => cases keys
      | cons right rights =>
          rcases List.cons.inj keys with ⟨same, others⟩
          rcases List.forall₂_cons.mp values with ⟨first, rest⟩
          simp only [Fields.get?, same]
          split
          · exact .some first
          · exact ih others rest

theorem int?_of_agrees {left right : Number} (agree : left.agrees right = true) :
    (Tree.number left).int? = (Tree.number right).int? := by
  cases left <;> cases right <;> simp_all [Number.agrees, int?]

/-- A tree that is read by names: no name stands twice in an object, and no node is hidden. -/
structure Readable (tree : Tree) : Prop where
  distinct : tree.Distinct
  hides : tree.hidesNoNode = true

namespace Readable

theorem item {items : List Tree} (readable : (list items).Readable) {item : Tree}
    (mem : item ∈ items) : item.Readable where
  distinct := readable.distinct.part mem
  hides := (hidesNoNodeItems_iff items).mp readable.hides item mem

variable {fields : List (String × Tree)}

theorem field (readable : (object fields).Readable) {key : String} {value : Tree}
    (read : key ≠ "location") (found : Fields.get? key fields = some value) : value.Readable where
  distinct := by
    have here : (object fields).get? key = some value := found
    exact readable.distinct.part (mem_parts_of_get? here)
  hides := by
    have fieldsHide := (Bool.and_eq_true_iff.mp readable.hides).2
    exact (hidesNoNodeFields_iff fields).mp fieldsHide _ (Fields.mem_of_get? found) read

theorem names (readable : (object fields).Readable) : Fields.Distinct fields :=
  readable.distinct.names

theorem kind? (readable : (object fields).Readable) :
    (object fields).withoutLocations.kind? = (object fields).kind? :=
  kind?_withoutLocations (Bool.and_eq_true_iff.mp readable.hides).1

end Readable

/-- Objects that are the same up to order, seen name by name. -/
theorem SameUpToOrder.get? {lefts rights : List (String × Tree)}
    (same : SameUpToOrder (.object lefts) (.object rights)) (distinct : Fields.Distinct lefts)
    (key : String) :
    Option.Rel SameUpToOrder (Fields.get? key lefts) (Fields.get? key rights) := by
  cases same with
  | object order keys values =>
      rw [distinct.get?_perm order key]
      exact rel_get?_of_forall₂ keys values key

theorem SameUpToOrder.rel_get? {left right : Tree} (same : SameUpToOrder left right)
    (distinct : Fields.Distinct left.fields) (key : String) :
    Option.Rel SameUpToOrder (left.get? key) (right.get? key) := by
  cases same with
  | object order keys values =>
      exact SameUpToOrder.get? (.object order keys values) distinct key
  | _ => exact .none

theorem SameUpToOrder.kind? {lefts rights : List (String × Tree)}
    (same : SameUpToOrder (.object lefts) (.object rights)) :
    (Tree.object lefts).kind? = (Tree.object rights).kind? := by
  cases same with
  | object order keys _ =>
      rw [← kind?_of_keys keys, Tree.kind?, Tree.kind?, tagged?_of_perm order]

/-- Trees that are the same up to the order of fields and up to locations look alike. -/
theorem alike_of_sameUpToOrder {left right : Tree} (leftReadable : left.Readable)
    (rightReadable : right.Readable)
    (same : SameUpToOrder left.withoutLocations right.withoutLocations) : left.Alike right := by
  induction left using partInduction generalizing right with
  | step left ih =>
      cases left with
      | null | bool | text =>
          cases right <;> cases same
          exact .refl _
      | number =>
          cases right <;> cases same
          next agree => exact .number (int?_of_agrees agree)
      | list lefts =>
          cases right <;> cases same
          next rights items =>
            rw [withoutLocationsItems_eq_map, withoutLocationsItems_eq_map,
              List.forall₂_map_left_iff, List.forall₂_map_right_iff] at items
            rcases List.forall₂_iff_zip.mp items with ⟨lengths, pairs⟩
            refine .list (List.forall₂_iff_zip.mpr ⟨lengths, ?_⟩)
            intro left right mem
            rcases List.of_mem_zip mem with ⟨leftMem, rightMem⟩
            exact ih left leftMem (leftReadable.item leftMem) (rightReadable.item rightMem)
              (pairs mem)
      | object lefts =>
          cases right with
          | object rights =>
              refine .object ?_ ?_
              · rw [← leftReadable.kind?, ← rightReadable.kind?]
                exact same.kind?
              · intro key read
                have parts := same.get? (distinct_withoutLocationsFields leftReadable.names) key
                rw [get?_withoutLocationsFields read, get?_withoutLocationsFields read] at parts
                cases leftFound : Fields.get? key lefts <;>
                  cases rightFound : Fields.get? key rights <;> rw [leftFound, rightFound] at parts
                · exact .none
                · cases parts
                · cases parts
                · next left right =>
                  have here : (object lefts).get? key = some left := leftFound
                  cases parts with
                  | some same =>
                      exact .some (ih left (mem_parts_of_get? here)
                        (leftReadable.field read leftFound) (rightReadable.field read rightFound)
                        same)
          | _ => cases same

end Tree

namespace Recorded

/--
Printing does not depend on the order of fields or on source locations. Two trees that agree up to
these have the same text, or fail with the same fault.
-/
theorem print_ignores_order_and_locations {left right : Tree} (leftDistinct : left.Distinct)
    (rightDistinct : right.Distinct) (leftHides : left.hidesNoNode = true)
    (rightHides : right.hidesNoNode = true)
    (same : left.withoutLocations.SameUpToOrder right.withoutLocations) :
    parser.print left = parser.print right :=
  print_of_alike (Tree.alike_of_sameUpToOrder ⟨leftDistinct, leftHides⟩ ⟨rightDistinct, rightHides⟩
    same)

/-- The statement of `activeFilter` as updates make it: without locations, the clauses last. -/
def activeUsers : Select :=
  (Select.start [.text "id"]).fromTable (.named "users")
    |>.filter (some (Expr.equal (.text "active") (.bool true)))

def activeTargets : String × Tree := ("targetList", .list [Node.target (.text "id")])

def activeClauses : List (String × Tree) :=
  [("fromClause", .list [Node.table "users"]),
    ("whereClause", Expr.equal (.text "active") (.bool true))]

theorem activeUsers_printed_as_recorded :
    activeFilter ≠ .shell [Statement.toNode activeUsers] ∧
      parser.print activeFilter = parser.print (.shell [Statement.toNode activeUsers]) := by
  refine ⟨by decide +kernel, print_ignores_order_and_locations (by decide +kernel)
    (by decide +kernel) (by decide +kernel) (by decide +kernel) ?_⟩
  have recorded : activeFilter.withoutLocations =
      .shell [.node "SelectStmt" (.object (activeTargets :: (activeClauses ++ plainEnd)))] := by
    decide +kernel
  have built : (Tree.shell [Statement.toNode activeUsers]).withoutLocations =
      .shell [.node "SelectStmt" (.object (activeTargets :: (plainEnd ++ activeClauses)))] := by
    decide +kernel
  rw [recorded, built]
  exact .shell (.node "SelectStmt" (.of_perm (.cons activeTargets List.perm_append_comm)))

end Recorded

end SqlTree

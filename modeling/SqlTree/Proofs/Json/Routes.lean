import Mathlib.Data.List.Forall2
import SqlTree.Json.Document
import SqlTree.Proofs.Tree.Distinct

/-!
# Ways to decode a text

A text becomes a tree in three ways: it is read as a tree, it is read as a document that is then
converted level by level, or the document is replayed as if its text were being read. The three
agree on every text.

To compare them, a text is first read as it is written. `Document.verbatim` keeps every pair of an
object, repetitions included, so nothing that the text says is lost. Reading into any other target
is reading verbatim and feeding the result to that target: `Json.read_eq_feed`. From there on only
documents are compared. What a document as written means is `Document.Denotes`, which says of a
repeated name that it stands where it came first and holds what came last, and is itself no way to
compute a tree.
-/

namespace SqlTree

namespace Document

/-- Documents as they are written, with repeated names. -/
def verbatim : Json.Target Document where
  null := .null
  bool := .bool
  number := .number
  text := .string
  list := .array
  object := .map

/--
What a document as written means. The names of an object are in the order in which they first come,
and each has the last of its values.
-/
inductive Denotes : Document → Tree → Prop
  | null : Denotes .null .null
  | bool (value : Bool) : Denotes (.bool value) (.bool value)
  | number (value : Number) : Denotes (.number value) (.number value)
  | string (value : String) : Denotes (.string value) (.text value)
  | array {items : List Document} {trees : List Tree} (each : List.Forall₂ Denotes items trees) :
      Denotes (.array items) (.list trees)
  | map {entries : List (String × Document)} {fields : List (String × Tree)}
      (names : Fields.keys fields = (Fields.keys entries).eraseDups)
      (values : ∀ (key : String) (document : Document) (tree : Tree),
        Fields.get? key entries.reverse = some document → Fields.get? key fields = some tree →
          Denotes document tree) :
      Denotes (.map entries) (.object fields)

theorem feedEntries_eq_mapValues {α : Type} (target : Json.Target α)
    (entries : List (String × Document)) :
    feedEntries target entries = Fields.mapValues (feed target) entries := by
  induction entries with
  | nil => rfl
  | cons entry rest ih => rw [feedEntries, ih, Fields.mapValues_cons]

/-! ## The meaning is what a tree is made of -/

/-- The fields that an object denotes are those that are made of its pairs. -/
theorem eq_ofPairs_iff {entries : List (String × Document)}
    (each : ∀ entry ∈ entries, ∀ tree, entry.2.Denotes tree ↔ tree = entry.2.feed Tree.target)
    (fields : List (String × Tree)) :
    (map entries).Denotes (.object fields) ↔
      fields = Fields.ofPairs (Fields.mapValues (feed Tree.target) entries) := by
  have last (key : String) (document : Document)
      (found : Fields.get? key entries.reverse = some document) (tree : Tree) :
      document.Denotes tree ↔ tree = document.feed Tree.target :=
    each (key, document) (List.mem_reverse.mp (Fields.mem_of_get? found)) tree
  rw [Fields.ofPairs_mapValues]
  constructor
  · rintro (_ | _ | _ | _ | _ | ⟨names, values⟩)
    have distinct : Fields.Distinct fields := by
      rw [Fields.Distinct, names, ← Fields.keys_ofPairs]
      exact Fields.distinct_ofPairs entries
    apply distinct.ext
    · rw [names, Fields.keys_mapValues, Fields.keys_ofPairs]
    · intro key mem
      rcases Option.isSome_iff_exists.mp ((Fields.get?_isSome key fields).mpr mem) with
        ⟨tree, held⟩
      rw [names, ← Fields.keys_ofPairs, ← Fields.get?_isSome, Fields.get?_ofPairs] at mem
      rcases Option.isSome_iff_exists.mp mem with ⟨document, found⟩
      rw [held, Fields.get?_mapValues, Fields.get?_ofPairs, found]
      exact congrArg some ((last key document found tree).mp (values key document tree found held))
  · rintro rfl
    refine .map ?_ ?_
    · rw [Fields.keys_mapValues, Fields.keys_ofPairs]
    · intro key document tree found held
      rw [Fields.get?_mapValues, Fields.get?_ofPairs, found] at held
      exact (last key document found tree).mpr (Option.some.inj held).symm

mutual
/-- A document as written means exactly the tree that feeding it to the target of trees gives. -/
theorem denotes_iff (document : Document) (tree : Tree) :
    document.Denotes tree ↔ tree = document.feed Tree.target := by
  match document with
  | .null => exact ⟨fun | .null => rfl, fun same => same ▸ .null⟩
  | .bool value => exact ⟨fun | .bool _ => rfl, fun same => same ▸ .bool value⟩
  | .number value => exact ⟨fun | .number _ => rfl, fun same => same ▸ .number value⟩
  | .string value => exact ⟨fun | .string _ => rfl, fun same => same ▸ .string value⟩
  | .array items =>
      constructor
      · rintro (_ | _ | _ | _ | each)
        exact congrArg Tree.list ((denotesItems_iff items _).mp each)
      · rintro rfl
        exact .array ((denotesItems_iff items _).mpr rfl)
  | .map entries =>
      have fields := eq_ofPairs_iff (denotesEntries_iff entries)
      rw [feed, feedEntries_eq_mapValues]
      constructor
      · intro denotes
        cases denotes with
        | map names values => exact congrArg Tree.object ((fields _).mp (.map names values))
      · rintro rfl
        exact (fields _).mpr rfl

theorem denotesItems_iff (items : List Document) (trees : List Tree) :
    List.Forall₂ Denotes items trees ↔ trees = feedItems Tree.target items := by
  match items with
  | [] => exact List.forall₂_nil_left_iff
  | item :: rest =>
      rw [List.forall₂_cons_left_iff, feedItems]
      simp only [denotes_iff item, denotesItems_iff rest]
      constructor
      · rintro ⟨_, _, rfl, rfl, same⟩
        exact same
      · rintro same
        exact ⟨_, _, rfl, rfl, same⟩

theorem denotesEntries_iff (entries : List (String × Document)) :
    ∀ entry ∈ entries, ∀ tree, entry.2.Denotes tree ↔ tree = entry.2.feed Tree.target := by
  match entries with
  | [] => simp
  | (key, document) :: rest =>
      exact List.forall_mem_cons.mpr ⟨denotes_iff document, denotesEntries_iff rest⟩
end

/-! ## Documents as trees -/

mutual
/-- Converting level by level is feeding the target of trees. -/
theorem toTree_eq_feed (document : Document) : document.toTree = document.feed Tree.target := by
  match document with
  | .null | .bool _ | .number _ | .string _ => rfl
  | .array items => exact congrArg Tree.list (toTrees_eq_feedItems items)
  | .map entries =>
      exact congrArg (fun pairs => Tree.object (Fields.ofPairs pairs))
        (toFields_eq_feedEntries entries)

theorem toTrees_eq_feedItems (items : List Document) :
    toTrees items = feedItems Tree.target items := by
  match items with
  | [] => rfl
  | item :: rest => rw [toTrees, feedItems, toTree_eq_feed item, toTrees_eq_feedItems rest]

theorem toFields_eq_feedEntries (entries : List (String × Document)) :
    toFields entries = feedEntries Tree.target entries := by
  match entries with
  | [] => rfl
  | (key, value) :: rest =>
      rw [toFields, feedEntries, toTree_eq_feed value, toFields_eq_feedEntries rest]
end

mutual
/-- Whatever names a document repeats, the tree that is made of it repeats none. -/
theorem distinct_feed (document : Document) : (document.feed Tree.target).Distinct := by
  match document with
  | .null | .bool _ | .number _ | .string _ => trivial
  | .array items => exact Tree.distinct_list.mpr (distinct_feedItems items)
  | .map entries => exact Tree.distinct_ofPairs (distinct_feedEntries entries)

theorem distinct_feedItems (items : List Document) :
    ∀ item ∈ feedItems Tree.target items, item.Distinct := by
  match items with
  | [] => exact nofun
  | item :: rest => exact List.forall_mem_cons.mpr ⟨distinct_feed item, distinct_feedItems rest⟩

theorem distinct_feedEntries (entries : List (String × Document)) :
    ∀ entry ∈ feedEntries Tree.target entries, entry.2.Distinct := by
  match entries with
  | [] => exact nofun
  | (key, document) :: rest =>
      exact List.forall_mem_cons.mpr ⟨distinct_feed document, distinct_feedEntries rest⟩
end

mutual
/-- Dropping repetitions on the way makes no difference to the tree. -/
theorem feed_feed_target (document : Document) :
    (document.feed Document.target).feed Tree.target = document.feed Tree.target := by
  match document with
  | .null | .bool _ | .number _ | .string _ => rfl
  | .array items => exact congrArg Tree.list (feedItems_feedItems_target items)
  | .map entries =>
      have once : (feed Document.target (.map entries)) =
        .map (Fields.ofPairs (feedEntries Document.target entries)) := rfl
      rw [once, feed, feed, feedEntries_eq_mapValues, ← Fields.ofPairs_mapValues,
        ← feedEntries_eq_mapValues, feedEntries_feedEntries_target]
      exact congrArg Tree.object (Fields.ofPairs_ofPairs _)

theorem feedItems_feedItems_target (items : List Document) :
    feedItems Tree.target (feedItems Document.target items) = feedItems Tree.target items := by
  match items with
  | [] => rfl
  | item :: rest =>
      simp only [feedItems, feed_feed_target item, feedItems_feedItems_target rest]

theorem feedEntries_feedEntries_target (entries : List (String × Document)) :
    feedEntries Tree.target (feedEntries Document.target entries) =
      feedEntries Tree.target entries := by
  match entries with
  | [] => rfl
  | (key, value) :: rest =>
      simp only [feedEntries, feed_feed_target value, feedEntries_feedEntries_target rest]
end

end Document

/-! ## Reading -/

namespace Json

open Document (verbatim)

variable {α : Type} (target : Target α)

mutual
/-- The reader takes the same branch for all targets, since it looks at the text alone. -/
theorem readValue_eq_feed (fuel room : Nat) (text : List Char) :
    readValue target fuel room text =
      (readValue verbatim fuel room text).map fun (document, rest) =>
        (document.feed target, rest) := by
  match fuel with
  | 0 => rfl
  | fuel + 1 =>
      rw [readValue, readValue]
      split
      · rfl
      · rfl
      · rfl
      · cases readString fuel _ <;> rfl
      · cases room with
        | zero => rfl
        | succ room =>
            dsimp only
            split
            · rfl
            · rw [readItems_eq_feed]
              cases readItems verbatim fuel room _ <;> rfl
      · cases room with
        | zero => rfl
        | succ room =>
            dsimp only
            split
            · rfl
            · rw [readFields_eq_feed]
              cases readFields verbatim fuel room _ <;> rfl
      · cases readNumber (skipBlanks text) <;> rfl

theorem readItems_eq_feed (fuel room : Nat) (text : List Char) :
    readItems target fuel room text =
      (readItems verbatim fuel room text).map fun (items, rest) =>
        (Document.feedItems target items, rest) := by
  match fuel with
  | 0 => rfl
  | fuel + 1 =>
      rw [readItems, readItems, readValue_eq_feed]
      cases readValue verbatim fuel room text with
      | none => rfl
      | some first =>
          simp only [Option.map_some, Option.bind_eq_bind, Option.bind_some]
          split
          · rfl
          · rw [readItems_eq_feed]
            cases readItems verbatim fuel room _ <;> rfl
          · rfl

theorem readFields_eq_feed (fuel room : Nat) (text : List Char) :
    readFields target fuel room text =
      (readFields verbatim fuel room text).map fun (entries, rest) =>
        (Document.feedEntries target entries, rest) := by
  match fuel with
  | 0 => rfl
  | fuel + 1 =>
      rw [readFields, readFields]
      cases readKey fuel text with
      | none => rfl
      | some key =>
          simp only [Option.bind_eq_bind, Option.bind_some]
          rw [readValue_eq_feed]
          cases readValue verbatim fuel room key.2 with
          | none => rfl
          | some first =>
              simp only [Option.map_some, Option.bind_some]
              split
              · rfl
              · rw [readFields_eq_feed]
                cases readFields verbatim fuel room _ <;> rfl
              · rfl
end

/-- Reading into a target is reading what is written, and feeding it to the target. -/
theorem read_eq_feed (text : String) :
    read target text = (read verbatim text).map (Document.feed target) := by
  simp only [read, readWithin, readValue_eq_feed target]
  cases readValue verbatim (fuelFor text.toList) nestingLimit text.toList with
  | none => rfl
  | some result =>
      simp only [Option.map_some, Option.bind_eq_bind, Option.bind_some]
      split <;> rfl

end Json

/-! ## Trees as documents -/

namespace Tree

theorem toEntries_eq_mapValues (fields : List (String × Tree)) :
    toEntries fields = Fields.mapValues toDocument fields := by
  induction fields with
  | nil => rfl
  | cons field rest ih => rw [toEntries, ih, Fields.mapValues_cons]

mutual
/-- A tree that repeats no name comes back from its document. -/
theorem toTree_toDocument {tree : Tree} (distinct : tree.Distinct) :
    tree.toDocument.toTree = tree := by
  match tree with
  | .null | .bool _ | .number _ | .text _ => rfl
  | .list items =>
      rw [toDocument, Document.toTree, toTrees_toDocuments distinct]
  | .object fields =>
      rcases distinct with ⟨names, values⟩
      have entries : Fields.Distinct (toEntries fields) := by
        rw [toEntries_eq_mapValues, Fields.Distinct, Fields.keys_mapValues]
        exact names
      rw [toDocument, Document.toTree, Fields.ofPairs_of_distinct entries,
        toFields_toEntries values, Fields.ofPairs_of_distinct names]

theorem toTrees_toDocuments {items : List Tree} (distinct : DistinctItems items) :
    Document.toTrees (toDocuments items) = items := by
  match items with
  | [] => rfl
  | item :: rest =>
      rw [toDocuments, Document.toTrees, toTree_toDocument distinct.1,
        toTrees_toDocuments distinct.2]

theorem toFields_toEntries {fields : List (String × Tree)} (distinct : DistinctFields fields) :
    Document.toFields (toEntries fields) = fields := by
  match fields with
  | [] => rfl
  | (key, value) :: rest =>
      rw [toEntries, Document.toFields, toTree_toDocument distinct.1, toFields_toEntries distinct.2]
end

end Tree

namespace Document

/--
All ways to decode a text give the same tree, or none of them gives any: reading it as a tree,
converting the document that it is read as, and replaying that document. What they give is what the
text means as it is written, with each repeated name in its first place and with its last value, at
every depth. A tree that repeats no name survives the way to a document and back.
-/
theorem decode_routes_agree (text : String) :
    (ofJson? text).map toTree = Tree.ofJson? text ∧
    (ofJson? text).map decode = Tree.ofJson? text ∧
    (∀ tree, Tree.ofJson? text = some tree ↔
      ∃ written, Json.read verbatim text = some written ∧ written.Denotes tree) ∧
    ∀ tree : Tree, tree.Distinct →
      tree.toDocument.toTree = tree ∧ tree.toDocument.decode = tree := by
  have replayed : (ofJson? text).map decode = Tree.ofJson? text := by
    rw [ofJson?, Tree.ofJson?, Json.read_eq_feed Document.target, Json.read_eq_feed Tree.target,
      Option.map_map]
    exact congrArg (Option.map · _) (funext feed_feed_target)
  have same : toTree = decode := funext toTree_eq_feed
  refine ⟨?_, replayed, ?_, ?_⟩
  · rw [same]
    exact replayed
  · intro tree
    rw [Tree.ofJson?, Json.read_eq_feed, Option.map_eq_some_iff]
    simp only [denotes_iff, eq_comm]
  · intro tree distinct
    have back := Tree.toTree_toDocument distinct
    exact ⟨back, (congrFun same _).symm.trans back⟩

/-- Names are repeated at two depths, once behind other names and once with another shape. -/
def repeatedNames : String :=
  "\x7b\"a\": 1, \"b\": [\x7b\"c\": 2, \"d\": -3, \"c\": [null]\x7d], \"a\": \"x\"\x7d"

def keptNames : Tree :=
  .object [("a", .text "x"),
    ("b", .list [.object [("c", .list [.null]), ("d", .number (.int (-3)))]])]

theorem repeatedNames_decoded_alike :
    keptNames.Distinct ∧ keptNames.toDocument.toTree = keptNames ∧
      (ofJson? repeatedNames).map toTree = some keptNames ∧
      (ofJson? repeatedNames).map decode = some keptNames := by
  have distinct : keptNames.Distinct := by decide
  have read : Tree.ofJson? repeatedNames = some keptNames := by decide +kernel
  rcases decode_routes_agree repeatedNames with ⟨converted, replayed, -, back⟩
  exact ⟨distinct, (back keptNames distinct).1, converted.trans read, replayed.trans read⟩

end Document

end SqlTree

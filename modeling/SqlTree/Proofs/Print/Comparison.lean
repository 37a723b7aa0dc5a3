import Mathlib.Tactic.ByContra
import Mathlib.Tactic.Convert
import SqlTree.Proofs.Print.Pieces
import SqlTree.Proofs.Tree.Content

/-!
# Printing many trees side by side

What a printer makes of a tree is compared here for a whole family of trees at once. The trees of a
family are alike wherever the printer looks, or they are alike except in one place; a family of the
second sort is called loose. The results of the first sort are all the same. The results of the
second sort have a form that the comparison chooses, as long as it survives text that is put around
it.

A printer of a record reads each field at most once for its text. So at most one piece of a
concatenation is loose, and the concatenation is loose in one place as well. `Comparison.next` says
so of a whole level, whatever the trees, the printers below and the form of the loose results.
-/

namespace SqlTree.Print

variable {ι α β : Type}

/-- All members of a family are the same. -/
def Same (family : ι → α) : Prop := ∃ value, ∀ index, family index = value

theorem same_const (value : α) : Same fun _ : ι => value := ⟨value, fun _ => rfl⟩

theorem Same.eq {family : ι → α} (same : Same family) (first second : ι) :
    family first = family second := by
  rcases same with ⟨value, equal⟩
  rw [equal, equal]

theorem Same.map {family : ι → α} (same : Same family) (change : α → β) :
    Same fun index => change (family index) := by
  rcases same with ⟨value, equal⟩
  exact ⟨change value, fun index => congrArg change (equal index)⟩

theorem Same.map₂ {γ : Type} {first : ι → α} {second : ι → β} (firstSame : Same first)
    (secondSame : Same second) (combine : α → β → γ) :
    Same fun index => combine (first index) (second index) := by
  rcases firstSame with ⟨left, leftEqual⟩
  rcases secondSame with ⟨right, rightEqual⟩
  exact ⟨combine left right, fun index => by simp only [leftEqual, rightEqual]⟩

/-! ## Families of parts -/

/-- A name of a field that a clause looks up. Locations are never printed. -/
def isRead (key : String) : Bool := key != "location" && key != "sval"

section Parts

variable (Part : Bool → (ι → Tree) → Prop)

inductive PartOption (loose : Bool) : (ι → Option Tree) → Prop
  | none : PartOption loose fun _ => none
  | some {tree : ι → Tree} (part : Part loose tree) :
      PartOption loose fun index => some (tree index)

/-- A family of lists of one length. At most one of the items is loose. -/
inductive PartItems : Bool → (ι → List Tree) → Prop
  | nil (loose : Bool) : PartItems loose fun _ => []
  | first {loose : Bool} {item : ι → Tree} {items : ι → List Tree} (part : Part loose item)
      (others : PartItems false items) : PartItems loose fun index => item index :: items index
  | later {loose : Bool} {item : ι → Tree} {items : ι → List Tree} (part : Part false item)
      (others : PartItems loose items) : PartItems loose fun index => item index :: items index

inductive PartNode (loose : Bool) : (ι → Option (String × Tree)) → Prop
  | none : PartNode loose fun _ => none
  | some (kind : String) {record : ι → Tree} (part : Part loose record) :
      PartNode loose fun index => some (kind, record index)

theorem PartNode.none_or_some {loose : Bool} {tagged : ι → Option (String × Tree)}
    (node : PartNode Part loose tagged) :
    (∀ index, tagged index = Option.none) ∨
      ∃ kind record, Part loose record ∧
        ∀ index, tagged index = Option.some (kind, record index) := by
  cases node with
  | none => exact .inl fun _ => rfl
  | some kind part => exact .inr ⟨kind, _, part, fun _ => rfl⟩

/-- The fields of a family of records, of which only the one in the slot may be loose. -/
structure Slot (loose : Bool) (record : ι → Tree) (slot : Option String) : Prop where
  absent : loose = false → slot = none
  field : ∀ key, isRead key = true →
    PartOption Part (slot == some key) fun index => (record index).get? key

/-- What a printer finds when it looks into a family of trees. -/
structure Shows (loose : Bool) (tree : ι → Tree) : Prop where
  node : PartNode Part loose fun index => (tree index).tagged?
  record : ∃ slot, Slot Part loose tree slot
  items : PartItems Part loose fun index => (tree index).items
  text : Same fun index => (tree index).text?
  flag : Same fun index => (tree index).bool?
  int : Same fun index => (tree index).int?

end Parts

section SingleTrees

variable {Part : Bool → (ι → Tree) → Prop} {loose : Bool}

theorem partItems_append {items : ι → List Tree} (front : List Tree)
    (frontParts : ∀ item ∈ front, Part false fun _ => item) (parts : PartItems Part loose items) :
    PartItems Part loose fun index => front ++ items index := by
  induction front with
  | nil => exact parts
  | cons item rest ih =>
      rw [List.forall_mem_cons] at frontParts
      exact .later frontParts.1 (ih frontParts.2)

theorem partItems_const {items : List Tree} (parts : ∀ item ∈ items, Part false fun _ => item) :
    PartItems Part false fun _ => items := by
  simpa using partItems_append items parts (.nil false)

theorem partOption_const {option : Option Tree}
    (parts : ∀ part, option = some part → Part false fun _ => part) :
    PartOption Part false fun _ => option := by
  cases option with
  | none => exact .none
  | some part => exact .some (parts part rfl)

theorem slot_const {tree : Tree} (parts : ∀ part ∈ tree.parts, Part false fun _ => part) :
    Slot Part loose (fun _ => tree) none where
  absent _ := rfl
  field _ _ := partOption_const fun part found => parts part (Tree.mem_parts_of_get? found)

/-- A family with one member shows the printer the parts of that member. -/
theorem shows_const {tree : Tree} (parts : ∀ part ∈ tree.parts, Part false fun _ => part) :
    Shows Part false fun _ => tree where
  node := by
    rcases tagged : tree.tagged? with _ | ⟨kind, record⟩
    · exact .none
    · exact .some kind (parts record (Tree.mem_parts_of_tagged? tagged))
  record := ⟨none, slot_const parts⟩
  items := partItems_const fun item mem => parts item (Tree.mem_parts_of_mem_items mem)
  text := same_const _
  flag := same_const _
  int := same_const _

end SingleTrees

/-- Results that are all the same, or that have the form of loose results. -/
def Prints (Loose : (ι → Printed) → Prop) : Bool → (ι → Printed) → Prop
  | false, results => Same results
  | true, results => Loose results

/-- Printers that make of every family of parts results of its sort. -/
def Handles (Part : Bool → (ι → Tree) → Prop) (Loose : (ι → Printed) → Prop)
    (print : ι → Tree → Printed) : Prop :=
  ∀ ⦃loose : Bool⦄ ⦃tree : ι → Tree⦄, Part loose tree →
    Prints Loose loose fun index => print index (tree index)

/-- The families of trees that are compared, and the form of the results of loose ones. -/
structure Families (ι : Type) where
  Part : Bool → (ι → Tree) → Prop
  Loose : (ι → Printed) → Prop
  loose_of_same {results : ι → Printed} : Same results → Loose results
  loose_around {results : ι → Printed} (before after : String) : Loose results →
    Loose fun index => (fun text => before ++ text ++ after) <$> results index
  same_or_texts {results : ι → Printed} : Loose results →
    Same results ∨ ∃ text : ι → String, ∀ index, results index = .ok (text index)
  shows {loose : Bool} {tree : ι → Tree} : Part loose tree → Shows Part loose tree
  name {loose : Bool} {tree : ι → Tree} : Part loose tree →
    Same fun index => Node.nameText? (tree index)
  literal : Handles Part Loose fun _ => textLiteral

/-- Families of which no member is told from another: loose results are the same, too. -/
def Families.strict (Part : Bool → (ι → Tree) → Prop)
    (shows : ∀ {loose : Bool} {tree : ι → Tree}, Part loose tree → Shows Part loose tree)
    (name : ∀ {loose : Bool} {tree : ι → Tree}, Part loose tree →
      Same fun index => Node.nameText? (tree index))
    (literal : Handles Part Same fun _ => textLiteral) : Families ι where
  Part
  Loose := Same
  loose_of_same := id
  loose_around _ _ same := Same.map same _
  same_or_texts := .inl
  shows
  name
  literal

/-- Printers for families of trees, of which the results are known. -/
structure Comparison (ι : Type) extends Families ι where
  printer : ι → Printer
  statement : Handles Part Loose fun index => (printer index).statement
  select : Handles Part Loose fun index => (printer index).select
  source : Handles Part Loose fun index => (printer index).source
  expression : Handles Part Loose fun index => (printer index).expression

namespace Comparison

variable {comparison : Comparison ι} {loose : Bool}

/-! ## Putting results together -/

theorem prints_of_same {results : ι → Printed} (same : Same results) :
    Prints comparison.Loose loose results := by
  cases loose with
  | false => exact same
  | true => exact comparison.loose_of_same same

theorem prints_text {texts : ι → String} (same : Same texts) :
    Prints comparison.Loose loose fun index => pure (texts index) :=
  prints_of_same (same.map pure)

theorem prints_around {results : ι → Printed} (prints : Prints comparison.Loose loose results)
    (before after : String) :
    Prints comparison.Loose loose fun index =>
      (fun text => before ++ text ++ after) <$> results index := by
  cases loose with
  | false => exact Same.map prints fun result => (fun text => before ++ text ++ after) <$> result
  | true => exact comparison.loose_around before after prints

/-- Results that are put between two texts in whatever way. -/
theorem prints_linear {results : ι → Printed} (prints : Prints comparison.Loose loose results)
    {build : String → String}
    (linear : ∃ before after, ∀ text, build text = before ++ text ++ after) :
    Prints comparison.Loose loose fun index => build <$> results index := by
  rcases linear with ⟨before, after, built⟩
  rw [funext built]
  exact prints_around prints before after

/-- A fault or a text that is the same for all, behind results that may be loose. -/
theorem prints_before_same {results others : ι → Printed}
    (prints : Prints comparison.Loose loose results) (same : Same others)
    {build : String → String → String}
    (linear : ∀ other, ∃ before after, ∀ text, build text other = before ++ text ++ after) :
    Prints comparison.Loose loose fun index => do
      return build (← results index) (← others index) := by
  rcases same with ⟨other, equal⟩
  simp only [equal]
  cases other with
  | ok other =>
      convert prints_linear prints (linear other) using 2 with index
      cases results index <;> rfl
  | error fault =>
      have unchanged (same : Same results) :
          Same fun index => do return build (← results index) (← .error fault) :=
        same.map fun result => do return build (← result) (← .error fault)
      cases loose with
      | false => exact unchanged prints
      | true =>
          rcases comparison.same_or_texts prints with same | ⟨text, texts⟩
          · exact prints_of_same (unchanged same)
          · exact prints_of_same ⟨.error fault, fun index => by simp [texts]⟩

theorem prints_after_same {results others : ι → Printed}
    (prints : Prints comparison.Loose loose results) (same : Same others)
    {build : String → String → String}
    (linear : ∀ other, ∃ before after, ∀ text, build other text = before ++ text ++ after) :
    Prints comparison.Loose loose fun index => do
      return build (← others index) (← results index) := by
  rcases same with ⟨other, equal⟩
  simp only [equal]
  cases other with
  | ok other =>
      convert prints_linear prints (linear other) using 2 with index
      cases results index <;> rfl
  | error fault => exact prints_of_same ⟨.error fault, fun index => by simp⟩

/-- Two results of which at most one is loose, built into one text. -/
theorem prints_both {first second : Bool} {lefts rights : ι → Printed}
    (left : Prints comparison.Loose first lefts) (right : Prints comparison.Loose second rights)
    (apart : first = false ∨ second = false) {build : String → String → String}
    (leftLinear : ∀ other, ∃ before after, ∀ text, build text other = before ++ text ++ after)
    (rightLinear : ∀ other, ∃ before after, ∀ text, build other text = before ++ text ++ after) :
    Prints comparison.Loose (first || second) fun index => do
      return build (← lefts index) (← rights index) := by
  cases second with
  | false =>
      rw [Bool.or_false]
      exact prints_before_same left right leftLinear
  | true =>
      obtain rfl : first = false := by simpa using apart
      exact prints_after_same right left rightLinear

/-! ## Pieces of a record -/

/-- A piece that prints no more than the given fields. It is loose only if one of them is. -/
def Reads (comparison : Comparison ι) (slot : Option String) (keys : List String)
    (piece : ι → Printed) : Prop :=
  ∃ loose, Prints comparison.Loose loose piece ∧ (loose = true → ∃ key ∈ keys, slot = some key)

theorem Reads.prints {slot : Option String} {keys : List String}
    {piece : ι → Printed} (reads : comparison.Reads slot keys piece)
    (absent : loose = false → slot = none) : Prints comparison.Loose loose piece := by
  rcases reads with ⟨pieceLoose, prints, hit⟩
  cases pieceLoose with
  | false => exact prints_of_same prints
  | true =>
      rcases hit rfl with ⟨key, -, found⟩
      cases loose with
      | false => simp [absent rfl] at found
      | true => exact prints

theorem Reads.of_same {slot : Option String} (keys : List String) {piece : ι → Printed}
    (same : Same piece) : comparison.Reads slot keys piece :=
  ⟨false, same, by simp⟩

theorem Reads.text {slot : Option String} {texts : ι → String} (same : Same texts) :
    comparison.Reads slot [] fun index => pure (texts index) :=
  .of_same [] (same.map pure)

theorem Reads.mono {slot : Option String} {keys others : List String} {piece : ι → Printed}
    (reads : comparison.Reads slot keys piece) (subset : keys ⊆ others) :
    comparison.Reads slot others piece := by
  rcases reads with ⟨loose, prints, hit⟩
  refine ⟨loose, prints, fun isLoose => ?_⟩
  rcases hit isLoose with ⟨key, mem, found⟩
  exact ⟨key, subset mem, found⟩

/-- Two pieces that read different fields are loose in one place at most. -/
theorem Reads.both {slot : Option String} {keys others : List String} {lefts rights : ι → Printed}
    (left : comparison.Reads slot keys lefts) (right : comparison.Reads slot others rights)
    (disjoint : ∀ key ∈ keys, key ∉ others) (build : String → String → String)
    (leftLinear : ∀ other, ∃ before after, ∀ text, build text other = before ++ text ++ after)
    (rightLinear : ∀ other, ∃ before after, ∀ text, build other text = before ++ text ++ after) :
    comparison.Reads slot (keys ++ others) fun index => do
      return build (← lefts index) (← rights index) := by
  rcases left with ⟨first, leftPrints, leftHit⟩
  rcases right with ⟨second, rightPrints, rightHit⟩
  have apart : first = false ∨ second = false := by
    by_contra both
    simp only [not_or, Bool.not_eq_false] at both
    rcases leftHit both.1 with ⟨key, mem, found⟩
    rcases rightHit both.2 with ⟨other, otherMem, otherFound⟩
    obtain rfl : key = other := Option.some.inj (found.symm.trans otherFound)
    exact disjoint key mem otherMem
  refine ⟨first || second, prints_both leftPrints rightPrints apart leftLinear rightLinear, ?_⟩
  intro isLoose
  rcases Bool.or_eq_true_iff.mp isLoose with firstLoose | secondLoose
  · rcases leftHit firstLoose with ⟨key, mem, found⟩
    exact ⟨key, List.mem_append_left others mem, found⟩
  · rcases rightHit secondLoose with ⟨key, mem, found⟩
    exact ⟨key, List.mem_append_right keys mem, found⟩

/-- Pieces that read the given fields in turn. -/
inductive ReadsAll (comparison : Comparison ι) (slot : Option String) :
    List String → (ι → List Printed) → Prop
  | nil : ReadsAll comparison slot [] fun _ => []
  | cons {keys others : List String} {piece : ι → Printed} {pieces : ι → List Printed}
      (first : comparison.Reads slot keys piece) (rest : ReadsAll comparison slot others pieces) :
      ReadsAll comparison slot (keys ++ others) fun index => piece index :: pieces index

theorem Reads.cons {slot : Option String} {keys others : List String} {piece : ι → Printed}
    {pieces : ι → List Printed} (first : comparison.Reads slot keys piece)
    (rest : comparison.ReadsAll slot others pieces) :
    comparison.ReadsAll slot (keys ++ others) fun index => piece index :: pieces index :=
  .cons first rest

/-- Pieces that read no field twice are loose in one place at most. -/
theorem ReadsAll.concat {slot : Option String} {keys : List String} {pieces : ι → List Printed}
    (all : comparison.ReadsAll slot keys pieces) (apart : keys.Nodup) :
    comparison.Reads slot keys fun index => Print.concat (pieces index) := by
  induction all with
  | nil => exact .of_same [] (same_const _)
  | cons first rest ih =>
      rcases List.nodup_append.mp apart with ⟨-, restApart, disjoint⟩
      apply Reads.both first (ih restApart)
        (fun key mem otherMem => disjoint key mem key otherMem rfl) (· ++ ·)
      · exact fun other => ⟨"", other, fun text => by simp⟩
      · exact fun other => ⟨other, "", fun text => by simp⟩

/-! ## What is read from a record -/

variable {tree record : ι → Tree} {option : ι → Option Tree} {items : ι → List Tree}
  {slot : Option String}

theorem same_elim (found : PartOption comparison.Part loose option) (absent : α) (view : Tree → α)
    (same : ∀ {loose : Bool} {tree : ι → Tree}, comparison.Part loose tree →
      Same fun index => view (tree index)) :
    Same fun index => (option index).elim absent view := by
  cases found with
  | none => exact same_const absent
  | some part => exact same part

theorem same_bind (found : PartOption comparison.Part loose option) {view : Tree → Option α}
    (same : ∀ {loose : Bool} {tree : ι → Tree}, comparison.Part loose tree →
      Same fun index => view (tree index)) :
    Same fun index => (option index).bind view := by
  convert same_elim found none view same using 2 with index
  cases option index <;> rfl

theorem same_isNone (found : PartOption comparison.Part loose option) :
    Same fun index => (option index).isNone := by
  cases found with
  | none => exact same_const true
  | some part => exact same_const false

theorem partItems_of_option (found : PartOption comparison.Part loose option) :
    PartItems comparison.Part loose fun index => ((option index).map Tree.items).getD [] := by
  cases found with
  | none => exact .nil loose
  | some part => exact (comparison.shows part).items

theorem PartItems.weaken {Part : Bool → (ι → Tree) → Prop} {items : ι → List Tree}
    (parts : PartItems Part false items) (loose : Bool) : PartItems Part loose items := by
  generalize fixed : false = tight at parts
  induction parts with
  | nil => exact .nil loose
  | first part others ih =>
      subst fixed
      exact .later part (ih rfl)
  | later part others ih =>
      subst fixed
      exact .later part (ih rfl)

theorem partItems_itemsAt (seen : Shows comparison.Part loose tree) (key : String)
    (read : isRead key = true) :
    PartItems comparison.Part loose fun index => (tree index).itemsAt key := by
  rcases seen.record with ⟨slot, fields⟩
  have items := partItems_of_option (fields.field key read)
  cases loose with
  | false =>
      rw [fields.absent rfl] at items
      exact items
  | true =>
      cases hit : slot == some key with
      | false =>
          rw [hit] at items
          exact PartItems.weaken items true
      | true =>
          rw [hit] at items
          exact items

theorem same_textAt? (seen : Shows comparison.Part loose tree) (key : String)
    (read : isRead key = true) : Same fun index => (tree index).textAt? key := by
  rcases seen.record with ⟨slot, fields⟩
  exact same_bind (fields.field key read) fun part => (comparison.shows part).text

theorem same_textOrEmpty (seen : Shows comparison.Part loose tree) (key : String)
    (read : isRead key = true) : Same fun index => textOrEmpty (tree index) key :=
  (same_textAt? seen key read).map (·.getD "")

theorem same_flagAt (seen : Shows comparison.Part loose tree) (key : String)
    (read : isRead key = true) : Same fun index => (tree index).flagAt key := by
  rcases seen.record with ⟨slot, fields⟩
  have flag := same_bind (fields.field key read) fun part => (comparison.shows part).flag
  exact flag.map (·.getD false)

theorem same_flagText (seen : Shows comparison.Part loose tree) (key : String)
    (read : isRead key = true) (text : String) :
    Same fun index => flagText (tree index) key text :=
  (same_flagAt seen key read).map fun flag => if flag then text else ""

theorem same_kind_of_node {tagged : ι → Option (String × Tree)}
    (node : PartNode comparison.Part loose tagged) :
    Same fun index => (tagged index).map (·.1) := by
  cases node with
  | none => exact same_const none
  | some kind part => exact same_const (some kind)

theorem same_kind? (seen : Shows comparison.Part loose tree) :
    Same fun index => (tree index).kind? :=
  same_kind_of_node seen.node

theorem partOption_of_node {tagged : ι → Option (String × Tree)}
    (node : PartNode comparison.Part loose tagged) :
    PartOption comparison.Part loose fun index => (tagged index).map (·.2) := by
  cases node with
  | none => exact .none
  | some kind part => exact .some part

theorem partOption_record? (seen : Shows comparison.Part loose tree) :
    PartOption comparison.Part loose fun index => (tree index).record? :=
  partOption_of_node seen.node

theorem partOption_recordOf? (seen : Shows comparison.Part loose tree) (kind : String) :
    PartOption comparison.Part loose fun index => (tree index).recordOf? kind := by
  unfold Tree.recordOf?
  rcases seen.node.none_or_some with untagged | ⟨found, record, part, tagged⟩
  · simp only [untagged]
    exact .none
  · simp only [tagged]
    by_cases same : found = kind
    · simpa [same] using PartOption.some part
    · simpa [same] using PartOption.none

/-! ## Pieces made from one field -/

theorem Reads.ofOption (fields : Slot comparison.Part loose record slot) (key : String)
    (read : isRead key = true) (print : ι → Option Tree → Printed)
    (prints : ∀ {loose : Bool} {option : ι → Option Tree},
      PartOption comparison.Part loose option →
        Prints comparison.Loose loose fun index => print index (option index)) :
    comparison.Reads slot [key] fun index => print index ((record index).get? key) := by
  refine ⟨slot == some key, prints (fields.field key read), fun hit => ?_⟩
  exact ⟨key, List.mem_singleton_self key, beq_iff_eq.mp hit⟩

theorem Reads.ofItems (fields : Slot comparison.Part loose record slot) (key : String)
    (read : isRead key = true) (print : ι → List Tree → Printed)
    (prints : ∀ {loose : Bool} {items : ι → List Tree},
      PartItems comparison.Part loose items →
        Prints comparison.Loose loose fun index => print index (items index)) :
    comparison.Reads slot [key] fun index => print index ((record index).itemsAt key) := by
  refine ⟨slot == some key, prints (partItems_of_option (fields.field key read)), fun hit => ?_⟩
  exact ⟨key, List.mem_singleton_self key, beq_iff_eq.mp hit⟩

/-- A part that changes nothing about the results unless it is absent. -/
theorem prints_elim_same {other : Bool} (found : PartOption comparison.Part other option)
    {absent : ι → Printed} (absentPrints : Prints comparison.Loose loose absent)
    {view : Tree → Printed}
    (same : ∀ {loose : Bool} {tree : ι → Tree}, comparison.Part loose tree →
      Same fun index => view (tree index)) :
    Prints comparison.Loose loose fun index => (option index).elim (absent index) view := by
  cases found with
  | none => exact absentPrints
  | some part => exact prints_of_same (same part)

theorem required_bind_eq (record : Tree) (key : String) (print : Tree → Printed) :
    required record key >>= print =
      (record.get? key).elim (.error (cannotPrint key)) print := by
  unfold required
  cases record.get? key <;> rfl

theorem prints_elim (found : PartOption comparison.Part loose option) {absent : ι → Printed}
    (absentPrints : Prints comparison.Loose loose absent) {print : ι → Tree → Printed}
    (handles : Handles comparison.Part comparison.Loose print) :
    Prints comparison.Loose loose fun index =>
      (option index).elim (absent index) (print index) := by
  cases found with
  | none => exact absentPrints
  | some part => exact handles part

theorem prints_error (fault : PrintError) :
    Prints comparison.Loose loose fun _ => .error fault :=
  prints_of_same (same_const _)

theorem Reads.ofRequired (fields : Slot comparison.Part loose record slot) (key : String)
    (read : isRead key = true) {print : ι → Tree → Printed}
    (handles : Handles comparison.Part comparison.Loose print) :
    comparison.Reads slot [key] fun index => required (record index) key >>= print index := by
  simp only [required_bind_eq]
  exact .ofOption fields key read
    (fun index found => found.elim (.error (cannotPrint key)) (print index))
    (fun found => prints_elim found (prints_error _) handles)

theorem Reads.ofOptional (fields : Slot comparison.Part loose record slot) (key : String)
    (read : isRead key = true) (keyword : String) {print : ι → Tree → Printed}
    (handles : Handles comparison.Part comparison.Loose print) :
    comparison.Reads slot [key] fun index =>
      optionalClause keyword ((record index).get? key) (print index) := by
  refine Reads.ofOption fields key read
    (fun index found => optionalClause keyword found (print index)) ?_
  intro loose option found
  cases found with
  | none => exact prints_of_same (same_const _)
  | some part =>
      simpa [optionalClause] using prints_around (handles part) (" " ++ keyword ++ " ") ""

/-! ## Lists of parts -/

section Lists

variable {print : ι → Tree → Printed}

theorem prints_joined_cons {first second : Bool} {item : ι → Tree} (separator : String)
    (itemPrints : Prints comparison.Loose first fun index => print index (item index))
    (parts : PartItems comparison.Part second items)
    (othersPrint : Prints comparison.Loose second fun index =>
      joined separator (items index) (print index))
    (apart : first = false ∨ second = false) :
    Prints comparison.Loose (first || second) fun index =>
      joined separator (item index :: items index) (print index) := by
  have linear (other : String) :
      (∃ before after, ∀ text, text ++ separator ++ other = before ++ text ++ after) ∧
        ∃ before after, ∀ text, other ++ separator ++ text = before ++ text ++ after :=
    ⟨⟨"", separator ++ other, fun text => by simp [String.append_assoc]⟩,
      ⟨other ++ separator, "", fun text => by simp⟩⟩
  cases parts with
  | nil =>
      simp only [joined_singleton]
      cases first with
      | false => exact prints_of_same itemPrints
      | true => exact itemPrints
  | first | later =>
      simp only [joined_cons_cons]
      exact prints_both itemPrints othersPrint apart (fun other => (linear other).1)
        fun other => (linear other).2

/-- The items of a list are all the same, or one of them is loose. -/
theorem prints_joined (handles : Handles comparison.Part comparison.Loose print)
    (separator : String) (parts : PartItems comparison.Part loose items) :
    Prints comparison.Loose loose fun index => joined separator (items index) (print index) := by
  induction parts with
  | nil loose => exact prints_of_same (same_const _)
  | first part others ih =>
      simpa using prints_joined_cons separator (handles part) others ih (Or.inr rfl)
  | later part others ih =>
      simpa using prints_joined_cons separator (handles part) others ih (Or.inl rfl)

theorem prints_commaList (handles : Handles comparison.Part comparison.Loose print)
    (parts : PartItems comparison.Part loose items) :
    Prints comparison.Loose loose fun index => commaList (items index) (print index) :=
  prints_joined handles ", " parts

theorem same_isEmpty (parts : PartItems comparison.Part loose items) :
    Same fun index => (items index).isEmpty := by
  cases parts with
  | nil => exact same_const true
  | first | later => exact same_const false

theorem prints_listClause (handles : Handles comparison.Part comparison.Loose print)
    (keyword : String) (parts : PartItems comparison.Part loose items) :
    Prints comparison.Loose loose fun index => listClause keyword (items index) (print index) := by
  rcases same_isEmpty parts with ⟨empty, equal⟩
  have list := prints_around (prints_commaList handles parts) (" " ++ keyword ++ " ") ""
  cases empty with
  | true => exact prints_of_same ⟨.ok "", fun index => by simp [listClause, equal]⟩
  | false => simpa [listClause, equal] using list

theorem Reads.ofListClause (fields : Slot comparison.Part loose record slot) (key : String)
    (read : isRead key = true) (keyword : String)
    (handles : Handles comparison.Part comparison.Loose print) :
    comparison.Reads slot [key] fun index =>
      listClause keyword ((record index).itemsAt key) (print index) :=
  .ofItems fields key read (fun index items => listClause keyword items (print index))
    (prints_listClause handles keyword)

theorem prints_enclosed (handles : Handles comparison.Part comparison.Loose print) (word : String)
    (parts : PartItems comparison.Part loose items) :
    Prints comparison.Loose loose fun index =>
      Printer.enclosed word (items index) (print index) := by
  rcases same_isEmpty parts with ⟨empty, equal⟩
  have list := prints_around (prints_commaList handles parts) (" " ++ word ++ "(") ")"
  cases empty with
  | true => exact prints_of_same ⟨.ok "", fun index => by simp [Printer.enclosed, equal]; rfl⟩
  | false => simpa [Printer.enclosed, equal] using list

theorem same_filterMap {view : Tree → Option α}
    (same : ∀ {loose : Bool} {tree : ι → Tree}, comparison.Part loose tree →
      Same fun index => view (tree index))
    (parts : PartItems comparison.Part loose items) :
    Same fun index => (items index).filterMap view := by
  have grow {item : ι → Tree} {others : ι → List Tree}
      (first : Same fun index => view (item index))
      (rest : Same fun index => (others index).filterMap view) :
      Same fun index => (item index :: others index).filterMap view := by
    rcases first with ⟨head, headEqual⟩
    rcases rest with ⟨tail, tailEqual⟩
    exact ⟨head.toList ++ tail, fun index => by cases head <;> simp [headEqual, tailEqual]⟩
  induction parts with
  | nil => exact same_const []
  | first part others ih => exact grow (same part) ih
  | later part others ih => exact grow (same part) ih

theorem same_nameList (parts : PartItems comparison.Part loose items) (separator : String) :
    Same fun index => nameList (items index) separator :=
  (same_filterMap comparison.name parts).map (Text.join separator)

end Lists

end Comparison

end SqlTree.Print

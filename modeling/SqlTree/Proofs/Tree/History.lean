import Mathlib.Data.List.DropRight
import Mathlib.Data.Set.Card
import SqlTree.Proofs.Tree.Rearrangement

/-!
# The history of fields

Fields are changed by writing to names and by removing them. This file says what a run of such calls
leaves in terms of the calls alone, without following the list: the value of a name is the one that
was last written to it since its last removal, and the names stand in the order in which each was
first written to since then. A name that was there from the start and was never removed keeps its
value until it is written to, and its place in front of all others.

So there are two kinds of names afterwards. `survivors` are the old ones that stayed. `newcomers`
are those that a call has brought in, and such a call is known by its number: it is the first write
to its name behind the last removal. The argument goes from the right. A write adds at most its own
name at the end, and a removal takes out its own name and moves no other.

What this means for the updates of a tree stands at the end: merging in two steps or in one is the
same, and updates of different names can be exchanged.
-/

namespace SqlTree.Fields

variable {α : Type}

/-! ## Calls and what they tell -/

inductive Call (α : Type) where
  | insert (key : String) (value : α)
  | remove (key : String)

namespace Call

def key : Call α → String
  | .insert key _ | .remove key => key

def applyTo (call : Call α) (fields : List (String × α)) : List (String × α) :=
  match call with
  | .insert key value => Fields.insert key value fields
  | .remove key => (Fields.remove key fields).2

/-- The value that a call writes to a name. -/
def written? (name : String) : Call α → Option α
  | .insert key value => if key = name then some value else none
  | .remove _ => none

def removes (name : String) : Call α → Bool
  | .insert _ _ => false
  | .remove key => key = name

theorem removes_of_ne {call : Call α} {name : String} (different : call.key ≠ name) :
    call.removes name = false := by
  cases call with
  | insert key value => rfl
  | remove key => exact decide_eq_false different

end Call

def run (fields : List (String × α)) (calls : List (Call α)) : List (String × α) :=
  calls.foldl (fun current call => call.applyTo current) fields

section Told

variable (fields : List (String × α)) (calls : List (Call α))

def isRemoved (name : String) : Bool := calls.any (·.removes name)

/-- The calls since the last removal of a name, each with the number of calls before it. -/
def sinceRemoval (name : String) : List (Call α × Nat) :=
  calls.zipIdx.rtakeWhile fun numbered => !numbered.1.removes name

/-- The value that was last written to a name since its last removal. -/
def lastWritten? (name : String) : Option α :=
  ((sinceRemoval calls name).filterMap fun numbered => numbered.1.written? name).getLast?

/-- The number of the first call that has written to a name since its last removal. -/
def enteredAt? (name : String) : Option Nat :=
  ((sinceRemoval calls name).find? fun numbered => (numbered.1.written? name).isSome).map (·.2)

/-- The value of a name. The old one is still there if it was neither replaced nor removed. -/
def valueAfter? (name : String) : Option α :=
  match lastWritten? calls name with
  | some value => some value
  | none => if isRemoved calls name then none else get? name fields

/-- The old names that were never removed. -/
def survivors : List String := (keys fields).filter fun name => !isRemoved calls name

/-- The call with this number brings its name in. -/
def Enters (numbered : Call α × Nat) : Prop :=
  enteredAt? calls numbered.1.key = some numbered.2 ∧ numbered.1.key ∉ survivors fields calls

instance (numbered : Call α × Nat) : Decidable (Enters fields calls numbered) :=
  inferInstanceAs (Decidable (_ ∧ _))

/-- The names that calls have brought in, in the order of these calls. -/
def newcomers : List String :=
  (calls.zipIdx.filter fun numbered => Enters fields calls numbered).map (·.1.key)

end Told

/-- What calls leave of some fields is told by the calls. -/
structure Follows (fields : List (String × α)) (calls : List (Call α))
    (after : List (String × α)) : Prop where
  value : ∀ name, get? name after = valueAfter? fields calls name
  distinct : Distinct after
  names : keys after = survivors fields calls ++ newcomers fields calls
  length : after.length = {name | (valueAfter? fields calls name).isSome = true}.ncard
  removed : ∀ name, (remove name after).1 = valueAfter? fields calls name

/-! ## One call more -/

section Step

variable {fields : List (String × α)} {calls : List (Call α)} {name : String} {now : Nat}

theorem run_append (first second : List (Call α)) :
    run fields (first ++ second) = run (run fields first) second :=
  List.foldl_append

theorem run_concat (call : Call α) :
    run fields (calls ++ [call]) = call.applyTo (run fields calls) :=
  run_append calls [call]

theorem isRemoved_concat (call : Call α) (name : String) :
    isRemoved (calls ++ [call]) name = (isRemoved calls name || call.removes name) := by
  simp [isRemoved]

theorem sinceRemoval_concat (call : Call α) (name : String) :
    sinceRemoval (calls ++ [call]) name =
      if call.removes name then [] else sinceRemoval calls name ++ [(call, calls.length)] := by
  rw [sinceRemoval, List.zipIdx_append, List.zipIdx_singleton, List.rtakeWhile_concat, Nat.zero_add]
  cases call.removes name <;> rfl

theorem lastWritten?_concat (call : Call α) (name : String) :
    lastWritten? (calls ++ [call]) name =
      if call.key = name then call.written? name else lastWritten? calls name := by
  rw [lastWritten?, sinceRemoval_concat]
  cases call with
  | insert key value =>
      by_cases same : key = name <;>
        simp [Call.key, Call.removes, Call.written?, same, lastWritten?]
  | remove key =>
      by_cases same : key = name <;>
        simp [Call.key, Call.removes, Call.written?, same, lastWritten?]

/-- A call changes the value of its own name and of no other. -/
theorem valueAfter?_concat (call : Call α) (name : String) :
    valueAfter? fields (calls ++ [call]) name =
      if call.key = name then call.written? name else valueAfter? fields calls name := by
  rw [valueAfter?, lastWritten?_concat, isRemoved_concat]
  by_cases same : call.key = name
  · subst same
    cases call <;> simp [Call.key, Call.written?, Call.removes]
  · rw [if_neg same, if_neg same, Call.removes_of_ne same, Bool.or_false, valueAfter?]

/-- A name that is in keeps its number. -/
theorem enteredAt?_insert (key name : String) (value : α) :
    enteredAt? (calls ++ [.insert key value]) name =
      (enteredAt? calls name).or (if key = name then some calls.length else none) := by
  have kept : (Call.insert key value).removes name = false := rfl
  rw [enteredAt?, sinceRemoval_concat, kept, if_neg Bool.false_ne_true, List.find?_append,
    Option.map_or, enteredAt?]
  by_cases same : key = name <;> simp [Call.written?, same]

theorem enteredAt?_remove (key name : String) :
    enteredAt? (calls ++ [.remove key]) name =
      if key = name then none else enteredAt? calls name := by
  rw [enteredAt?, sinceRemoval_concat]
  by_cases same : key = name <;> simp [Call.removes, Call.written?, same, enteredAt?]

theorem survivors_insert (key : String) (value : α) :
    survivors fields (calls ++ [.insert key value]) = survivors fields calls := by
  simp [survivors, isRemoved_concat, Call.removes]

theorem survivors_remove (key : String) :
    survivors fields (calls ++ [.remove key]) = (survivors fields calls).filter (· != key) := by
  rw [survivors, survivors, List.filter_filter]
  apply List.filter_congr
  intro name _
  rw [isRemoved_concat]
  by_cases same : key = name
  · simp [Call.removes, same]
  · simp [Call.removes, same, Ne.symm same]

/-! ## The names that calls bring in -/

theorem exists_of_enteredAt? (entered : enteredAt? calls name = some now) :
    ∃ call, (call, now) ∈ calls.zipIdx ∧ call.key = name := by
  rcases Option.map_eq_some_iff.mp entered with ⟨⟨call, _⟩, found, rfl⟩
  have mem := (List.rtakeWhile_suffix _ _).subset (List.mem_of_find?_eq_some found)
  have writes := List.find?_some found
  refine ⟨call, mem, ?_⟩
  cases call with
  | insert key value =>
      by_contra different
      simp [Call.written?, show key ≠ name from different] at writes
  | remove key => simp [Call.written?] at writes

theorem lt_of_enteredAt? (entered : enteredAt? calls name = some now) : now < calls.length := by
  rcases exists_of_enteredAt? entered with ⟨call, mem, _⟩
  exact (List.mem_zipIdx' mem).1

theorem mem_newcomers :
    name ∈ newcomers fields calls ↔
      (enteredAt? calls name).isSome = true ∧ name ∉ survivors fields calls := by
  simp only [newcomers, List.mem_map, List.mem_filter, decide_eq_true_eq]
  constructor
  · rintro ⟨numbered, ⟨_, entered, new⟩, rfl⟩
    exact ⟨by rw [entered]; rfl, new⟩
  · rintro ⟨entered, new⟩
    rcases Option.isSome_iff_exists.mp entered with ⟨now, found⟩
    rcases exists_of_enteredAt? found with ⟨call, mem, rfl⟩
    exact ⟨(call, now), ⟨mem, found, new⟩, rfl⟩

/-- A write cannot let an earlier call bring a name in, since its own number is a later one. -/
theorem enters_insert_iff {numbered : Call α × Nat} (past : numbered.2 < calls.length)
    (key : String) (value : α) :
    Enters fields (calls ++ [.insert key value]) numbered ↔ Enters fields calls numbered := by
  rw [Enters, Enters, survivors_insert, enteredAt?_insert]
  apply and_congr_left'
  cases enteredAt? calls numbered.1.key with
  | some now => rfl
  | none =>
      split
      · simp [past.ne']
      · rfl

/-- A write brings its name in if the name is not there. -/
theorem enters_last_iff (key : String) (value : α) :
    Enters fields (calls ++ [.insert key value]) (.insert key value, calls.length) ↔
      key ∉ survivors fields calls ++ newcomers fields calls := by
  rw [Enters, Call.key, survivors_insert, enteredAt?_insert, if_pos rfl, List.mem_append,
    mem_newcomers]
  cases found : enteredAt? calls key with
  | some now => simp [(lt_of_enteredAt? found).ne]
  | none => simp

theorem enters_remove_iff {numbered : Call α × Nat} (key : String) :
    Enters fields (calls ++ [.remove key]) numbered ↔
      numbered.1.key ≠ key ∧ Enters fields calls numbered := by
  rw [Enters, Enters, survivors_remove, enteredAt?_remove]
  by_cases same : key = numbered.1.key
  · simp [same]
  · simp [same, Ne.symm same]

theorem newcomers_concat (call : Call α) :
    newcomers fields (calls ++ [call]) =
      (calls.zipIdx.filter fun numbered =>
        Enters fields (calls ++ [call]) numbered).map (·.1.key) ++
        if Enters fields (calls ++ [call]) (call, calls.length) then [call.key] else [] := by
  rw [newcomers, List.zipIdx_append, List.zipIdx_singleton, List.filter_append, List.map_append,
    Nat.zero_add, List.filter_singleton]
  by_cases enters : Enters fields (calls ++ [call]) (call, calls.length) <;> simp [enters]

theorem newcomers_insert (key : String) (value : α) :
    newcomers fields (calls ++ [.insert key value]) =
      if key ∈ survivors fields calls ++ newcomers fields calls then newcomers fields calls
      else newcomers fields calls ++ [key] := by
  have earlier : calls.zipIdx.filter (fun numbered =>
      Enters fields (calls ++ [.insert key value]) numbered) =
        calls.zipIdx.filter fun numbered => Enters fields calls numbered :=
    List.filter_congr fun numbered mem =>
      decide_eq_decide.mpr (enters_insert_iff (List.mem_zipIdx' mem).1 key value)
  rw [newcomers_concat, earlier, ← newcomers]
  simp only [enters_last_iff]
  by_cases known : key ∈ survivors fields calls ++ newcomers fields calls
  · rw [if_pos known, if_neg (not_not_intro known), List.append_nil]
  · rw [if_neg known, if_pos known, Call.key]

theorem newcomers_remove (key : String) :
    newcomers fields (calls ++ [.remove key]) = (newcomers fields calls).filter (· != key) := by
  have gone : ¬Enters fields (calls ++ [.remove key]) (.remove key, calls.length) :=
    fun enters => ((enters_remove_iff key).mp enters).1 rfl
  rw [newcomers_concat, if_neg gone, List.append_nil, newcomers, List.filter_map,
    List.filter_filter]
  congr 1
  apply List.filter_congr
  intro numbered _
  by_cases same : numbered.1.key = key <;> simp [enters_remove_iff, same]

end Step

/-! ## What a run leaves -/

section Run

variable {fields : List (String × α)} (distinct : Distinct fields)
include distinct

theorem Distinct.applyTo (call : Call α) : Distinct (call.applyTo fields) := by
  cases call with
  | insert key value => exact distinct.insert key value
  | remove key =>
      rw [Call.applyTo, remove_eq]
      exact distinct.erase key

theorem get?_applyTo (call : Call α) (name : String) :
    get? name (call.applyTo fields) =
      if call.key = name then call.written? name else get? name fields := by
  cases call with
  | insert key value =>
      rw [Call.applyTo, get?_insert, Call.key]
      split
      · next same => rw [Call.written?, if_pos same]
      · rfl
  | remove key =>
      rw [Call.applyTo, remove_eq, Call.key]
      split
      · next same =>
        subst same
        exact Distinct.get?_erase_self distinct key
      · next different => exact get?_erase_of_ne different fields

variable (calls : List (Call α))

theorem Distinct.run : Distinct (run fields calls) := by
  induction calls using List.reverseRecOn with
  | nil => exact distinct
  | append_singleton calls call ih =>
      rw [run_concat]
      exact ih.applyTo call

theorem get?_run (name : String) :
    get? name (run fields calls) = valueAfter? fields calls name := by
  induction calls using List.reverseRecOn with
  | nil => rfl
  | append_singleton calls call ih =>
      rw [run_concat, get?_applyTo (distinct.run calls), valueAfter?_concat, ih]

theorem keys_run : keys (run fields calls) = survivors fields calls ++ newcomers fields calls := by
  induction calls using List.reverseRecOn with
  | nil => simp [run, survivors, isRemoved, newcomers]
  | append_singleton calls call ih =>
      cases call with
      | insert key value =>
          rw [run_concat, Call.applyTo, keys_insert, ih, survivors_insert, newcomers_insert]
          split
          · rfl
          · rw [List.append_assoc]
      | remove key =>
          have nodup : (keys (Fields.run fields calls)).Nodup := distinct.run calls
          rw [run_concat, Call.applyTo, remove_eq, keys_erase, nodup.erase_eq_filter, ih,
            List.filter_append, survivors_remove, newcomers_remove]

theorem length_run :
    (run fields calls).length =
      {name | (valueAfter? fields calls name).isSome = true}.ncard := by
  have live : {name | (valueAfter? fields calls name).isSome = true} =
      ((keys (run fields calls)).toFinset : Set String) := by
    ext name
    simp [← get?_run distinct calls, get?_isSome]
  have nodup : (keys (run fields calls)).Nodup := distinct.run calls
  rw [live, Set.ncard_coe_finset, List.toFinset_card_of_nodup nodup, keys, List.length_map]

theorem follows_run : Follows fields calls (run fields calls) where
  value := get?_run distinct calls
  distinct := distinct.run calls
  names := keys_run distinct calls
  length := length_run distinct calls
  removed name := by rw [remove_eq, get?_run distinct calls]

end Run

/-! ## Updates of different names -/

section Exchange

variable {key other : String} (different : key ≠ other)
include different

theorem insert_erase_comm (value : α) (fields : List (String × α)) :
    insert key value (erase other fields) = erase other (insert key value fields) := by
  induction fields with
  | nil => simp [insert, erase, different]
  | cons field rest ih =>
      by_cases erased : field.1 = other
      · simp [insert, erase, erased, Ne.symm different]
      · by_cases written : field.1 = key
        · simp [insert, erase, written, different]
        · simp [insert, erase, written, erased, ih]

theorem erase_erase_comm (fields : List (String × α)) :
    erase key (erase other fields) = erase other (erase key fields) := by
  induction fields with
  | nil => rfl
  | cons field rest ih =>
      by_cases second : field.1 = other
      · simp [erase, second, Ne.symm different]
      · by_cases first : field.1 = key
        · simp [erase, first, different]
        · simp [erase, first, second, ih]

end Exchange

end SqlTree.Fields

namespace SqlTree.Tree

/-- Equal as maps: the same fields in some order, and the same value under every name. -/
structure SameMap (left right : Tree) : Prop where
  fields : left.fields.Perm right.fields
  value : ∀ name, left.get? name = right.get? name

/-- A merge is a run of writes. -/
theorem merge_eq_run (tree : Tree) (pairs : List (String × Tree)) :
    tree.merge pairs =
      .object (Fields.run tree.fields (pairs.map fun pair => .insert pair.1 pair.2)) := by
  rw [Fields.run, List.foldl_map]
  rfl

theorem merge_merge (tree : Tree) (first second : List (String × Tree)) :
    (tree.merge first).merge second = tree.merge (first ++ second) := by
  rw [merge_eq_run, merge_eq_run, merge_eq_run, List.map_append, Fields.run_append]
  rfl

theorem erase_of_absent {tree : Tree} {key : String} (absent : tree.get? key = none) :
    tree.erase key = tree := by
  cases tree with
  | object fields => exact congrArg object (Fields.erase_of_get?_none absent)
  | _ => rfl

section Exchange

variable (tree : Tree) {key other : String} (different : key ≠ other)
include different

theorem sameMap_set_set (value otherValue : Tree) :
    SameMap ((tree.set key value).set other otherValue)
      ((tree.set other otherValue).set key value) := by
  constructor
  · apply Fields.perm_of_valuesOf
    intro name
    simp only [fields_set, Fields.valuesOf_insert]
    by_cases first : key = name
    · simp [first, first ▸ different.symm]
    · simp [first]
  · intro name
    simp only [get?_set]
    by_cases first : key = name
    · simp [first, first ▸ different.symm]
    · simp [first]

theorem set_erase_comm (value : Tree) :
    (tree.set key value).erase other = (tree.erase other).set key value := by
  rw [set, set, fields_erase, Fields.insert_erase_comm different]
  rfl

theorem erase_erase_comm : (tree.erase key).erase other = (tree.erase other).erase key := by
  cases tree with
  | object fields => exact congrArg object (Fields.erase_erase_comm different.symm fields)
  | _ => rfl

end Exchange

/--
Fields are a map that keeps its insertion order. After any calls a name has the value that was last
written to it since its last removal, or its old one; the names are distinct and stand in the order
in which they came in, the old ones first; their number is that of the names with a value; and
removing a name answers with its value. So merging twice is merging once, updates of different names
commute as maps, and erasing an absent name changes nothing.
-/
theorem fields_follow_calls {α : Type} {before : List (String × α)}
    (distinct : Fields.Distinct before) (calls : List (Fields.Call α)) :
    Fields.Follows before calls (Fields.run before calls) ∧
      (∀ (tree : Tree) (first second : List (String × Tree)),
        (tree.merge first).merge second = tree.merge (first ++ second)) ∧
      (∀ (tree : Tree) {key other : String}, key ≠ other → ∀ value otherValue : Tree,
        SameMap ((tree.set key value).set other otherValue)
            ((tree.set other otherValue).set key value) ∧
          (tree.set key value).erase other = (tree.erase other).set key value ∧
          (tree.erase key).erase other = (tree.erase other).erase key) ∧
      ∀ (tree : Tree) (key : String), tree.get? key = none → tree.erase key = tree := by
  refine ⟨Fields.follows_run distinct calls, merge_merge, ?_, fun _ _ => erase_of_absent⟩
  intro tree key other different value otherValue
  exact ⟨sameMap_set_set tree different value otherValue, set_erase_comm tree different value,
    erase_erase_comm tree different⟩

/-- One name is replaced, one is new, and one is removed and written again. -/
def invoiceCalls : List (Fields.Call Tree) :=
  [.insert "relname" (.text "invoices"), .remove "inh", .insert "alias" .null,
    .insert "inh" (.bool false)]

theorem invoices_follow_calls :
    let before : List (String × Tree) := [("relname", .text "orders"), ("inh", .bool true)]
    let after := Fields.run before invoiceCalls
    Fields.Distinct before ∧ Fields.Distinct after ∧
      Fields.keys after = ["relname", "alias", "inh"] ∧
      Fields.get? "relname" after = some (.text "invoices") ∧
      (Fields.remove "inh" after).1 = some (.bool false) ∧
      ((object before).set "alias" .null).erase "inh" =
        ((object before).erase "inh").set "alias" .null ∧
      (object before).erase "alias" = object before := by
  intro before after
  have distinct : Fields.Distinct before := by decide
  rcases fields_follow_calls distinct invoiceCalls with ⟨follows, _, exchanged, absent⟩
  have names : Fields.keys after = ["relname", "alias", "inh"] := follows.names.trans (by decide)
  have name : Fields.get? "relname" after = some (.text "invoices") :=
    (follows.value "relname").trans (by decide)
  have removed : (Fields.remove "inh" after).1 = some (.bool false) :=
    (follows.removed "inh").trans (by decide)
  have different : "alias" ≠ "inh" := by decide
  exact ⟨distinct, follows.distinct, names, name, removed,
    (exchanged (object before) different .null .null).2.1, absent (object before) "alias" rfl⟩

end SqlTree.Tree

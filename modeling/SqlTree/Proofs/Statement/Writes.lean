import SqlTree.Proofs.Tree.Rearrangement
import SqlTree.Statement.Query

/-!
# Updates as writes

Every update of a clause writes one field of the record or erases it. This file says what each of
them writes, and collects them under one relation: `Query.ChangedIn` holds between a query and what
an update made of it if only the named fields were written. All that an invariant needs to know of
an update follows from the names alone.
-/

namespace SqlTree.Query

/-! ## What is written -/

/-- The items of a clause that is a list. -/
def itemsOf (content : Option Tree) : List Tree := (content.map Tree.items).getD []

/-- A clause with these items. Without any there is no clause. -/
def ofItems (items : List Tree) : Option Tree :=
  if items.isEmpty then none else some (.list items)

theorem itemsOf_ofItems (items : List Tree) : itemsOf (ofItems items) = items := by
  cases items <;> rfl

theorem ofItems_itemsOf {content : Option Tree} (items : itemsOf content ≠ []) :
    ofItems (itemsOf content) = content := by
  rcases content with _ | ⟨_ | _ | _ | _ | (_ | ⟨first, rest⟩) | _⟩
  case some.list.cons => rfl
  all_goals exact absurd rfl items

def restricted (content condition : Option Tree) : Option Tree :=
  match condition with
  | some condition => Expr.conjunction [content, some condition]
  | none => content

theorem setOption_eq_write (query : Query) (key : String) (value : Option Tree) :
    query.setOption key value = query.withRecord (query.record.write key value) := by
  cases value <;> rfl

theorem setList_eq_write (query : Query) (key : String) (items : List Tree) :
    query.setList key items = query.withRecord (query.record.write key (ofItems items)) := by
  unfold setList ofItems
  split <;> rfl

theorem restrict_eq_write (query : Query) (key : String) (condition : Option Tree) :
    query.restrict key condition =
      query.withRecord (query.record.write key (restricted (query.record.get? key) condition)) := by
  cases condition with
  | some condition => exact setOption_eq_write query key _
  | none =>
      rw [restricted, Tree.write_get?]
      rfl

/-- The second of two values replaces the first one where it stands. -/
theorem set_set (query : Query) (key : String) (first second : Tree) :
    (query.set key first).set key second = query.set key second := by
  simp only [set, withRecord, Tree.set, Tree.fields, Fields.insert_insert]

/-! ## What is there afterwards -/

/-- A clause holds what was written to it, if the record has no name twice. -/
theorem get?_write {record : Tree} (distinct : Fields.Distinct record.fields) (key : String)
    (value : Option Tree) : (record.write key value).get? key = value := by
  cases value with
  | some value => simp [Tree.write, Tree.get?_set]
  | none =>
      rw [Tree.write, Tree.get?, Tree.fields_erase]
      exact Fields.Distinct.get?_erase_self distinct key

theorem distinct_write {record : Tree} (distinct : Fields.Distinct record.fields) (key : String)
    (value : Option Tree) : Fields.Distinct (record.write key value).fields := by
  cases value with
  | some value => exact distinct.insert key value
  | none =>
      rw [Tree.write, Tree.fields_erase]
      exact distinct.erase key

/-- A clause that is a list has the items that were written to it. -/
theorem itemsAt_setList {query : Query} (distinct : Fields.Distinct query.record.fields)
    (key : String) (items : List Tree) :
    (query.setList key items).record.itemsAt key = items := by
  rw [setList_eq_write, withRecord, Tree.itemsAt, get?_write distinct]
  exact itemsOf_ofItems items

/-- Writing back the items that a clause has changes nothing. -/
theorem setList_itemsAt {query : Query} {key : String} (items : query.record.itemsAt key ≠ []) :
    query.setList key (query.record.itemsAt key) = query := by
  have found : ofItems (query.record.itemsAt key) = query.record.get? key := ofItems_itemsOf items
  rw [setList_eq_write, found, Tree.write_get?]
  rfl

theorem distinct_setList {query : Query} (distinct : Fields.Distinct query.record.fields)
    (key : String) (items : List Tree) :
    Fields.Distinct (query.setList key items).record.fields := by
  rw [setList_eq_write]
  exact distinct_write distinct key _

/-! ## Where it is written -/

/-- The second query comes from the first by writing or erasing the named fields. -/
def ChangedIn (fields : List String) (before after : Query) : Prop :=
  ∃ writes : List (String × Option Tree),
    (∀ write ∈ writes, write.1 ∈ fields) ∧
      after = before.withRecord (before.record.writeAll writes)

namespace ChangedIn

variable {fields : List String} {key : String}

theorem refl (query : Query) : ChangedIn fields query query := ⟨[], by simp, rfl⟩

theorem trans {first second third : Query} (before : ChangedIn fields first second)
    (after : ChangedIn fields second third) : ChangedIn fields first third := by
  rcases before with ⟨writes, named, rfl⟩
  rcases after with ⟨more, moreNamed, rfl⟩
  refine ⟨writes ++ more, ?_, ?_⟩
  · exact List.forall_mem_append.mpr ⟨named, moreNamed⟩
  · rw [Tree.writeAll_append]
    rfl

theorem write (named : key ∈ fields) (query : Query) (value : Option Tree) :
    ChangedIn fields query (query.withRecord (query.record.write key value)) :=
  ⟨[(key, value)], by simpa using named, rfl⟩

theorem set (named : key ∈ fields) (query : Query) (value : Tree) :
    ChangedIn fields query (query.set key value) :=
  write named query (some value)

theorem setList (named : key ∈ fields) (query : Query) (items : List Tree) :
    ChangedIn fields query (query.setList key items) := by
  rw [setList_eq_write]
  exact write named query _

theorem append (named : key ∈ fields) (query : Query) (items : List Tree) :
    ChangedIn fields query (query.append key items) :=
  setList named query _

theorem mapList (named : key ∈ fields) (query : Query) (change : List Tree → List Tree) :
    ChangedIn fields query (query.mapList key change) :=
  setList named query _

theorem mapOption (named : key ∈ fields) (query : Query) (change : Option Tree → Option Tree) :
    ChangedIn fields query (query.mapOption key change) := by
  rw [Query.mapOption, setOption_eq_write]
  exact write named query _

theorem restrict (named : key ∈ fields) (query : Query) (condition : Option Tree) :
    ChangedIn fields query (query.restrict key condition) := by
  rw [restrict_eq_write]
  exact write named query _

/-! ## What stays -/

variable {before after : Query}

theorem kind (changed : ChangedIn fields before after) : after.kind = before.kind := by
  rcases changed with ⟨_, _, rfl⟩
  rfl

theorem parser (changed : ChangedIn fields before after) : after.parser = before.parser := by
  rcases changed with ⟨_, _, rfl⟩
  rfl

theorem isObject (changed : ChangedIn fields before after)
    (object : before.record.isObject = true) : after.record.isObject = true := by
  rcases changed with ⟨writes, _, rfl⟩
  rw [withRecord, Tree.isObject_writeAll, object, Bool.true_or]

theorem get?_of_not_mem (changed : ChangedIn fields before after) (other : key ∉ fields) :
    after.record.get? key = before.record.get? key := by
  rcases changed with ⟨writes, named, rfl⟩
  have none : Tree.writesTo key writes = Tree.writesTo key [] := by
    apply List.filter_eq_nil_iff.mpr
    intro write mem found
    exact other (of_decide_eq_true found ▸ named write mem)
  exact Tree.get?_writeAll_of_writesTo before.record none

end ChangedIn

end SqlTree.Query

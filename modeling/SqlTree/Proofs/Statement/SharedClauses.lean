import SqlTree.Proofs.Statement.Reached

/-!
# Clauses that UPDATE and DELETE share

An UPDATE has the clauses of a DELETE without further tables, and two of its own: its assignments
and its own further tables. Whatever is done to an UPDATE can be done to a DELETE of the same table
as far as it concerns the shared clauses. So an UPDATE leads to the record of some DELETE if it is
looked at without its own clauses, `Tree.without`, and if they are empty it has this record itself.

The run is followed step by step: an update of an own clause leaves the DELETE as it is, and an
update of a shared clause is repeated there.
-/

namespace SqlTree

/-! ## Leaving out fields -/

namespace Fields

variable {α : Type}

/-- The fields with other names than these. -/
def without (names : List String) (fields : List (String × α)) : List (String × α) :=
  fields.filter fun field => field.1 ∉ names

variable {names : List String}

@[simp]
theorem without_nil : without names ([] : List (String × α)) = [] := rfl

@[simp]
theorem without_cons (field : String × α) (rest : List (String × α)) :
    without names (field :: rest) =
      if field.1 ∈ names then without names rest else field :: without names rest := by
  simp [without, List.filter_cons]

theorem without_insert (key : String) (value : α) (fields : List (String × α)) :
    without names (insert key value fields) =
      if key ∈ names then without names fields else insert key value (without names fields) := by
  induction fields with
  | nil => simp [insert]
  | cons field rest ih =>
      by_cases same : field.1 = key
      · by_cases left : key ∈ names <;> simp [insert, same, left]
      · by_cases left : field.1 ∈ names
        · simp [insert, same, left, ih]
        · by_cases keyLeft : key ∈ names <;> simp [insert, same, left, keyLeft, ih]

theorem without_erase (key : String) (fields : List (String × α)) :
    without names (erase key fields) =
      if key ∈ names then without names fields else erase key (without names fields) := by
  induction fields with
  | nil => simp [erase]
  | cons field rest ih =>
      by_cases same : field.1 = key
      · by_cases left : key ∈ names <;> simp [erase, same, left]
      · by_cases left : field.1 ∈ names
        · simp [erase, same, left, ih]
        · by_cases keyLeft : key ∈ names <;> simp [erase, same, left, keyLeft, ih]

theorem without_of_absent {fields : List (String × α)}
    (absent : ∀ name ∈ names, get? name fields = none) : without names fields = fields := by
  apply List.filter_eq_self.mpr
  intro field mem
  apply decide_eq_true
  intro left
  have present : (get? field.1 fields).isSome = true :=
    (get?_isSome field.1 fields).mpr (List.mem_map_of_mem mem)
  rw [absent field.1 left] at present
  cases present

end Fields

namespace Tree

/-- A record without the fields of these names. -/
def without (tree : Tree) (names : List String) : Tree :=
  .object (Fields.without names tree.fields)

variable {names : List String}

/-- A write to a field that is left out does not show, and any other can be made afterwards. -/
theorem without_write (tree : Tree) (key : String) (value : Option Tree) :
    (tree.write key value).without names =
      if key ∈ names then tree.without names else (tree.without names).write key value := by
  unfold without
  cases value with
  | some value =>
      rw [write, fields_set, Fields.without_insert]
      split <;> rfl
  | none =>
      rw [write, fields_erase, Fields.without_erase]
      split <;> rfl

theorem without_of_absent {tree : Tree} (object : tree.isObject = true)
    (absent : ∀ name ∈ names, tree.get? name = none) : tree.without names = tree := by
  rcases exists_object object with ⟨fields, rfl⟩
  exact congrArg Tree.object (Fields.without_of_absent absent)

end Tree

/-! ## Following an UPDATE by a DELETE -/

/-- The clauses of an UPDATE that are not those of a DELETE. -/
def Update.ownClauses : List String := ["targetList", "fromClause"]

namespace Builder

/-- An update of an UPDATE writes a clause of its own, or one that a DELETE has as well. -/
theorem Updated.update_cases {before : Builder} {after : Update}
    (updated : Updated before (.update after)) :
    ∃ update : Update, before = .update update ∧
      ((∃ key ∈ Update.ownClauses, ∃ items, after.query = update.query.setList key items) ∨
        (∃ condition, after.query = update.query.setOption "whereClause" condition) ∨
        ∃ items, after.query = update.query.setList "returningList" items) := by
  cases updated with
  | assign | mapAssignments =>
      exact ⟨_, rfl, .inl ⟨"targetList", by decide, _, rfl⟩⟩
  | updateFrom | mapUpdateFrom =>
      exact ⟨_, rfl, .inl ⟨"fromClause", by decide, _, rfl⟩⟩
  | updateFilter update condition =>
      have filtered : (update.filter condition).query = update.query.setOption "whereClause"
          (Query.restricted (update.query.record.get? "whereClause") condition) := by
        rw [Update.filter, Query.restrict_eq_write, Query.setOption_eq_write]
      exact ⟨update, rfl, .inr (.inl ⟨_, filtered⟩)⟩
  | mapUpdateFilter => exact ⟨_, rfl, .inr (.inl ⟨_, rfl⟩)⟩
  | updateReturning | mapUpdateReturning => exact ⟨_, rfl, .inr (.inr ⟨_, rfl⟩)⟩

/-- A DELETE with the record that an UPDATE has apart from its own clauses. -/
def Follows (delete : Delete) (update : Update) : Prop :=
  (Builder.delete delete).Reached ∧
    delete.query.record = update.query.record.without Update.ownClauses

/-- A write to a shared clause is followed by the same write. -/
theorem Follows.write {delete next : Delete} {before after : Update} {key : String}
    {value : Option Tree} (follows : Follows delete before) (shared : key ∉ Update.ownClauses)
    (reached : Reached (.delete next))
    (followed : next.query = delete.query.withRecord (delete.query.record.write key value))
    (written : after.query = before.query.withRecord (before.query.record.write key value)) :
    Follows next after := by
  refine ⟨reached, ?_⟩
  rw [followed, written, Query.withRecord, Query.withRecord, Tree.without_write, if_neg shared,
    follows.2]

/-- The step: own clauses are not followed, and shared clauses are written alike. -/
theorem Updated.exists_follows {delete : Delete} {before after : Update}
    (updated : Updated (.update before) (.update after)) (follows : Follows delete before) :
    ∃ next, Follows next after := by
  rcases updated.update_cases with ⟨_, same, own | filtered | returned⟩ <;> cases same
  · rcases own with ⟨key, mem, items, written⟩
    refine ⟨delete, follows.1, ?_⟩
    rw [written, Query.setList_eq_write, Query.withRecord, Tree.without_write, if_pos mem,
      follows.2]
  · rcases filtered with ⟨condition, written⟩
    have next := Reached.step follows.1 (.mapDeleteFilter delete fun _ => condition)
    exact ⟨_, follows.write (by decide) next (Query.setOption_eq_write _ _ _)
      (written.trans (Query.setOption_eq_write _ _ _))⟩
  · rcases returned with ⟨items, written⟩
    have next := Reached.step follows.1 (.mapDeleteReturning delete fun _ => items)
    exact ⟨_, follows.write (by decide) next (Query.setList_eq_write _ _ _)
      (written.trans (Query.setList_eq_write _ _ _))⟩

/-- The run: every UPDATE is followed by a DELETE. -/
theorem Reached.exists_follows {builder : Builder} (reached : Reached builder) :
    ∀ update, builder = .update update → ∃ delete, Follows delete update := by
  induction reached with
  | update table =>
      intro update same
      cases same
      exact ⟨.start table, .delete table, rfl⟩
  | step reached updated ih =>
      intro update same
      subst same
      rcases updated.update_cases with ⟨before, rfl, _⟩
      rcases ih before rfl with ⟨delete, follows⟩
      exact updated.exists_follows follows
  | _ =>
      intro update same
      cases same

/--
An UPDATE without assignments has the record of a DELETE exactly if it has no further tables. A
DELETE has a clause of another name for its further tables.
-/
theorem Reached.exists_delete_iff {update : Update} (reached : Reached (.update update))
    (unassigned : update.query.record.get? "targetList" = none) :
    (∃ delete : Delete, Reached (.delete delete) ∧
        delete.query.record = update.query.record) ↔
      update.query.record.get? "fromClause" = none := by
  constructor
  · rintro ⟨delete, deleteReached, same⟩
    rcases deleteReached.shaped with ⟨kind, variant, shaped⟩
    cases variant
    rw [← same, ← Option.not_isSome_iff_eq_none, Tree.get?, Fields.get?_isSome]
    intro mem
    exact absurd (shaped.known "fromClause" mem) (by decide)
  · intro alone
    rcases reached.exists_follows update rfl with ⟨delete, deleteReached, record⟩
    rcases reached.shaped with ⟨kind, _, shaped⟩
    refine ⟨delete, deleteReached, record.trans (Tree.without_of_absent shaped.object ?_)⟩
    simp [Update.ownClauses, unassigned, alone]

end Builder

end SqlTree

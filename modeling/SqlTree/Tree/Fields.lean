/-!
# Ordered fields

The fields of an object are a list of named values in the order in which the names arrived.
Writing to a name that is present keeps its place; writing to a new name appends it; erasing a name
closes the gap. So erasing a name and writing it again moves it to the end. Removing a name is
erasing it with an answer: the value that it had.

Distinctness of the names is not part of the type. It is the predicate `Fields.Distinct`, which
every operation here keeps.
-/

namespace SqlTree.Fields

variable {α β : Type}

/-- The value under a name, the first one if the name is repeated. -/
def get? (key : String) : List (String × α) → Option α
  | [] => none
  | (name, value) :: rest => if name = key then some value else get? key rest

def contains (key : String) (fields : List (String × α)) : Bool := (get? key fields).isSome

/-- Writes a value in the place of the name, or at the end if the name is new. -/
def insert (key : String) (value : α) : List (String × α) → List (String × α)
  | [] => [(key, value)]
  | (name, old) :: rest =>
      if name = key then (name, value) :: rest else (name, old) :: insert key value rest

def erase (key : String) : List (String × α) → List (String × α)
  | [] => []
  | (name, value) :: rest => if name = key then rest else (name, value) :: erase key rest

/-- Looks for the place of a name, takes the field out, and answers with its value. -/
def remove (key : String) (fields : List (String × α)) : Option α × List (String × α) :=
  match fields.findIdx? fun field => field.1 == key with
  | some place => (fields[place]?.map (·.2), fields.eraseIdx place)
  | none => (none, fields)

/--
Writes a value at a place, whatever name stands there. Past the end there is nothing to write.
-/
def setAt : Nat → α → List (String × α) → List (String × α)
  | _, _, [] => []
  | 0, value, (name, _) :: rest => (name, value) :: rest
  | place + 1, value, field :: rest => field :: setAt place value rest

def merge (fields pairs : List (String × α)) : List (String × α) :=
  pairs.foldl (fun merged (key, value) => insert key value merged) fields

/-- Fields from pairs: a repeated name keeps its first place and takes its last value. -/
def ofPairs (pairs : List (String × α)) : List (String × α) := merge [] pairs

def keys (fields : List (String × α)) : List String := fields.map (·.1)

def Distinct (fields : List (String × α)) : Prop := (keys fields).Nodup

instance (fields : List (String × α)) : Decidable (Distinct fields) :=
  inferInstanceAs (Decidable (keys fields).Nodup)

/-! ## What the updates do to the names and the values -/

@[simp]
theorem keys_nil : keys ([] : List (String × α)) = [] := rfl

@[simp]
theorem keys_cons (field : String × α) (fields : List (String × α)) :
    keys (field :: fields) = field.1 :: keys fields := rfl

theorem get?_isSome (key : String) (fields : List (String × α)) :
    (get? key fields).isSome = true ↔ key ∈ keys fields := by
  induction fields with
  | nil => simp [get?]
  | cons field rest ih =>
      by_cases same : field.1 = key
      · simp [get?, same]
      · simp [get?, same, ih, Ne.symm same]

/-- Removing a name answers with what a look-up would find, and erases the name. -/
theorem remove_eq (key : String) (fields : List (String × α)) :
    remove key fields = (get? key fields, erase key fields) := by
  induction fields with
  | nil => rfl
  | cons field rest ih =>
      by_cases same : field.1 = key
      · simp [remove, get?, erase, same, List.findIdx?_cons]
      · have later : remove key (field :: rest) =
            ((remove key rest).1, field :: (remove key rest).2) := by
          simp only [remove, List.findIdx?_cons, beq_iff_eq, same, if_false]
          cases rest.findIdx? fun field => field.1 == key <;> simp
        rw [later, ih, get?, erase, if_neg same, if_neg same]

theorem mem_of_get? {key : String} {value : α} {fields : List (String × α)}
    (found : get? key fields = some value) : (key, value) ∈ fields := by
  induction fields with
  | nil => simp [get?] at found
  | cons field rest ih =>
      by_cases same : field.1 = key
      · simp [get?, same] at found
        simp [← same, ← found]
      · simp only [get?, same, if_false] at found
        exact List.mem_cons_of_mem field (ih found)

theorem Distinct.get?_of_mem {fields : List (String × α)} (distinct : Distinct fields)
    {field : String × α} (mem : field ∈ fields) : get? field.1 fields = some field.2 := by
  induction fields with
  | nil => simp at mem
  | cons first rest ih =>
      rcases List.nodup_cons.mp distinct with ⟨absent, restDistinct⟩
      cases List.mem_cons.mp mem with
      | inl here => simp [get?, here]
      | inr later =>
          have other : first.1 ≠ field.1 := fun same =>
            absent (List.mem_map.mpr ⟨field, later, same.symm⟩)
          simp only [get?, other, if_false]
          exact ih restDistinct later

/-- After a write the name holds the written value, and every other name what it held before. -/
theorem get?_insert (key name : String) (value : α) (fields : List (String × α)) :
    get? name (insert key value fields) = if key = name then some value else get? name fields := by
  induction fields with
  | nil => simp [insert, get?]
  | cons field rest ih =>
      by_cases same : field.1 = key
      · subst same
        by_cases asked : field.1 = name <;> simp [insert, get?, asked]
      · by_cases asked : field.1 = name
        · subst asked
          simp [insert, get?, same, Ne.symm same]
        · simp [insert, get?, same, asked, ih]

theorem mem_of_mem_insert {key : String} {value : α} {fields : List (String × α)}
    {field : String × α} (mem : field ∈ insert key value fields) :
    field = (key, value) ∨ field ∈ fields := by
  induction fields with
  | nil => exact Or.inl (by simpa [insert] using mem)
  | cons first rest ih =>
      rw [insert] at mem
      split at mem
      · next same =>
        rcases List.mem_cons.mp mem with rfl | later
        · exact Or.inl (by rw [same])
        · exact Or.inr (List.mem_cons_of_mem first later)
      · rcases List.mem_cons.mp mem with rfl | later
        · exact Or.inr List.mem_cons_self
        · rcases ih later with here | old
          · exact Or.inl here
          · exact Or.inr (List.mem_cons_of_mem first old)

theorem mem_of_mem_erase {key : String} {fields : List (String × α)} {field : String × α}
    (mem : field ∈ erase key fields) : field ∈ fields := by
  induction fields with
  | nil => exact mem
  | cons first rest ih =>
      rw [erase] at mem
      split at mem
      · exact List.mem_cons_of_mem first mem
      · rcases List.mem_cons.mp mem with rfl | later
        · exact List.mem_cons_self
        · exact List.mem_cons_of_mem first (ih later)

/-- Erasing a name leaves every other name with what it held. -/
theorem get?_erase_of_ne {key name : String} (other : key ≠ name) (fields : List (String × α)) :
    get? name (erase key fields) = get? name fields := by
  induction fields with
  | nil => rfl
  | cons field rest ih =>
      by_cases same : field.1 = key
      · simp [erase, get?, same, other]
      · simp [erase, get?, same, ih]

/-- A write keeps the names in their places and appends a new one. -/
theorem keys_insert (key : String) (value : α) (fields : List (String × α)) :
    keys (insert key value fields) =
      if key ∈ keys fields then keys fields else keys fields ++ [key] := by
  induction fields with
  | nil => simp [insert]
  | cons field rest ih =>
      by_cases same : field.1 = key
      · simp [insert, same]
      · simp only [insert, same, if_false, keys_cons, ih, List.mem_cons, Ne.symm same, false_or]
        split <;> rfl

theorem insert_insert (key : String) (first second : α) (fields : List (String × α)) :
    insert key second (insert key first fields) = insert key second fields := by
  induction fields with
  | nil => simp [insert]
  | cons field rest ih =>
      by_cases same : field.1 = key
      · simp [insert, same]
      · simp [insert, same, ih]

theorem setAt_length_append (front : List (String × α)) (name : String) (old value : α)
    (rest : List (String × α)) :
    setAt front.length value (front ++ (name, old) :: rest) = front ++ (name, value) :: rest := by
  induction front with
  | nil => rfl
  | cons field front ih => simp [setAt, ih]

theorem keys_erase (key : String) (fields : List (String × α)) :
    keys (erase key fields) = (keys fields).erase key := by
  induction fields with
  | nil => rfl
  | cons field rest ih =>
      by_cases same : field.1 = key
      · simp [erase, same]
      · simp [erase, same, ih, List.erase_cons_tail]

theorem Distinct.insert {fields : List (String × α)} (distinct : Distinct fields) (key : String)
    (value : α) : Distinct (Fields.insert key value fields) := by
  unfold Distinct at *
  rw [keys_insert]
  split
  · exact distinct
  · next absent =>
    rw [List.nodup_append]
    refine ⟨distinct, by simp, ?_⟩
    intro name present other single
    simp only [List.mem_singleton] at single
    subst single
    exact fun equal => absent (equal ▸ present)

theorem Distinct.erase {fields : List (String × α)} (distinct : Distinct fields) (key : String) :
    Distinct (Fields.erase key fields) := by
  unfold Distinct at *
  rw [keys_erase]
  exact distinct.erase key

/-- An erased name holds nothing, since there was no second field with it. -/
theorem Distinct.get?_erase_self {fields : List (String × α)} (distinct : Distinct fields)
    (key : String) : get? key (Fields.erase key fields) = none := by
  have absent : key ∉ keys (Fields.erase key fields) := by
    rw [keys_erase]
    exact List.Nodup.not_mem_erase distinct
  rwa [← get?_isSome, Option.not_isSome_iff_eq_none] at absent

theorem Distinct.merge {fields : List (String × α)} (distinct : Distinct fields)
    (pairs : List (String × α)) : Distinct (Fields.merge fields pairs) := by
  unfold Fields.merge
  induction pairs generalizing fields with
  | nil => exact distinct
  | cons pair rest ih => exact ih (distinct.insert pair.1 pair.2)

theorem distinct_ofPairs (pairs : List (String × α)) : Distinct (ofPairs pairs) :=
  Distinct.merge (show Distinct [] from List.nodup_nil) pairs

end SqlTree.Fields

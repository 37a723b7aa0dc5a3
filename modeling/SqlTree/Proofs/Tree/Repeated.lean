import Mathlib.Data.List.Induction
import SqlTree.Tree.Fields

/-!
# Names that are written more than once

Pairs may repeat a name, and fields are made of them by one write after the other. A name gets its
place with its first pair and its value with its last one. So what comes out can be told without
following the writes: the names are those of the pairs without repetitions, and the value of a name
is the first one that the reversed pairs have for it. Pairs that repeat no name are fields already.
-/

namespace SqlTree.Fields

variable {α β : Type}

theorem insert_of_not_mem {key : String} {fields : List (String × α)} (absent : key ∉ keys fields)
    (value : α) : insert key value fields = fields ++ [(key, value)] := by
  induction fields with
  | nil => rfl
  | cons field rest ih =>
      simp only [keys_cons, List.mem_cons, not_or] at absent
      simp [insert, Ne.symm absent.1, ih absent.2]

theorem merge_of_distinct {fields pairs : List (String × α)}
    (distinct : Distinct (fields ++ pairs)) : merge fields pairs = fields ++ pairs := by
  induction pairs generalizing fields with
  | nil => simp [merge]
  | cons pair rest ih =>
      rcases pair with ⟨key, value⟩
      have absent : key ∉ keys fields := by
        intro present
        have apart := (List.nodup_append.mp (by simpa [Distinct, keys] using distinct)).2.2
        exact apart key present key (by simp) rfl
      have later := @ih (fields ++ [(key, value)]) (by simpa using distinct)
      simp only [merge, List.foldl_cons, insert_of_not_mem absent]
      simpa [merge] using later

theorem ofPairs_of_distinct {pairs : List (String × α)} (distinct : Distinct pairs) :
    ofPairs pairs = pairs :=
  merge_of_distinct distinct

theorem mem_of_mem_merge {fields pairs : List (String × α)} {field : String × α}
    (mem : field ∈ merge fields pairs) : field ∈ fields ∨ field ∈ pairs := by
  induction pairs generalizing fields with
  | nil => exact Or.inl mem
  | cons pair rest ih =>
      have written : field ∈ insert pair.1 pair.2 fields ∨ field ∈ rest := ih mem
      rcases written with inserted | later
      · rcases mem_of_mem_insert inserted with rfl | old
        · exact Or.inr List.mem_cons_self
        · exact Or.inl old
      · exact Or.inr (List.mem_cons_of_mem pair later)

theorem mem_of_mem_ofPairs {pairs : List (String × α)} {field : String × α}
    (mem : field ∈ ofPairs pairs) : field ∈ pairs := by
  rcases mem_of_mem_merge mem with impossible | found
  · simp at impossible
  · exact found

/-! ## First places and last values -/

theorem eraseDups_concat (names : List String) (name : String) :
    (names ++ [name]).eraseDups =
      if name ∈ names then names.eraseDups else names.eraseDups ++ [name] := by
  rw [List.eraseDups_append]
  by_cases mem : name ∈ names
  · simp [List.removeAll, mem]
  · simp [List.removeAll, mem, List.eraseDups_cons]

theorem ofPairs_concat (pairs : List (String × α)) (key : String) (value : α) :
    ofPairs (pairs ++ [(key, value)]) = insert key value (ofPairs pairs) := by
  simp [ofPairs, merge]

theorem keys_ofPairs (pairs : List (String × α)) :
    keys (ofPairs pairs) = (keys pairs).eraseDups := by
  induction pairs using List.reverseRecOn with
  | nil => rfl
  | append_singleton pairs pair ih =>
      rcases pair with ⟨key, value⟩
      have names : keys (pairs ++ [(key, value)]) = keys pairs ++ [key] := by simp [keys]
      rw [ofPairs_concat, keys_insert, ih, names, eraseDups_concat]
      simp only [List.mem_eraseDups]

theorem get?_ofPairs (key : String) (pairs : List (String × α)) :
    get? key (ofPairs pairs) = get? key pairs.reverse := by
  induction pairs using List.reverseRecOn with
  | nil => rfl
  | append_singleton pairs pair ih =>
      rcases pair with ⟨name, value⟩
      rw [ofPairs_concat, get?_insert, ih, List.reverse_append]
      rfl

/-- Making fields of pairs a second time changes nothing. -/
theorem ofPairs_ofPairs (pairs : List (String × α)) : ofPairs (ofPairs pairs) = ofPairs pairs :=
  ofPairs_of_distinct (distinct_ofPairs pairs)

/-- Fields are told by their names in order and by what each name holds. -/
theorem Distinct.ext {lefts rights : List (String × α)} (distinct : Distinct lefts)
    (names : keys lefts = keys rights)
    (values : ∀ key ∈ keys lefts, get? key lefts = get? key rights) : lefts = rights := by
  induction lefts generalizing rights with
  | nil => exact (List.map_eq_nil_iff.mp names.symm).symm
  | cons left rest ih =>
      rcases rights with _ | ⟨right, others⟩
      · cases names
      · rcases left with ⟨key, value⟩
        rcases right with ⟨name, other⟩
        simp only [keys_cons, List.cons.injEq] at names
        rcases names with ⟨rfl, names⟩
        rcases List.nodup_cons.mp distinct with ⟨absent, restDistinct⟩
        have first := values key List.mem_cons_self
        simp only [get?, if_true, Option.some.injEq] at first
        rw [first, ih restDistinct names]
        intro later mem
        have further := values later (List.mem_cons_of_mem key mem)
        have differ : key ≠ later := fun same => absent (same ▸ mem)
        simpa only [get?, differ, if_false] using further

/-! ## Values that are converted -/

/-- Converts every value, and leaves the names. -/
def mapValues (convert : α → β) (pairs : List (String × α)) : List (String × β) :=
  pairs.map fun pair => (pair.1, convert pair.2)

@[simp]
theorem mapValues_nil (convert : α → β) : mapValues convert [] = [] := rfl

@[simp]
theorem mapValues_cons (convert : α → β) (pair : String × α) (rest : List (String × α)) :
    mapValues convert (pair :: rest) = (pair.1, convert pair.2) :: mapValues convert rest := rfl

theorem keys_mapValues (convert : α → β) (pairs : List (String × α)) :
    keys (mapValues convert pairs) = keys pairs := by
  simp [keys, mapValues]

theorem get?_mapValues (convert : α → β) (key : String) (pairs : List (String × α)) :
    get? key (mapValues convert pairs) = (get? key pairs).map convert := by
  induction pairs with
  | nil => rfl
  | cons pair rest ih =>
      simp only [mapValues_cons, get?, ih]
      split <;> rfl

theorem insert_mapValues (convert : α → β) (key : String) (value : α) (pairs : List (String × α)) :
    insert key (convert value) (mapValues convert pairs) =
      mapValues convert (insert key value pairs) := by
  induction pairs with
  | nil => rfl
  | cons pair rest ih =>
      simp only [mapValues_cons, insert, ih]
      split <;> rfl

/-- It does not matter whether values are converted before fields are made or afterwards. -/
theorem ofPairs_mapValues (convert : α → β) (pairs : List (String × α)) :
    ofPairs (mapValues convert pairs) = mapValues convert (ofPairs pairs) := by
  induction pairs using List.reverseRecOn with
  | nil => rfl
  | append_singleton pairs pair ih =>
      rcases pair with ⟨key, value⟩
      have converted : mapValues convert (pairs ++ [(key, value)]) =
          mapValues convert pairs ++ [(key, convert value)] := by simp [mapValues]
      rw [converted, ofPairs_concat, ofPairs_concat, ih, insert_mapValues]

end SqlTree.Fields

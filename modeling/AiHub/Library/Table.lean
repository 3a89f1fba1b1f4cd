import Mathlib.Data.List.Sort

/-!
# Tables with an auto-increment primary key

A table is a list of rows, each stored under a positive key that no other row
has.  The key of the next inserted row lies above every key in use, so a key is
never given to two rows.  The operations are those of a relational store: look a
row up by its key, select by a predicate, update the rows that satisfy one,
insert and delete.

Every operation is described by what it does to `find?`; proofs about programs
over tables use these equations and never the list of rows.
-/

namespace AiHub.Library

open List

universe u

/-- Rows of type `ρ` under distinct positive keys below `next`. -/
structure Table (ρ : Type u) where
  rows : List (Nat × ρ)
  next : Nat
  keys_nodup : (rows.map Prod.fst).Nodup
  keys_range : ∀ entry ∈ rows, 0 < entry.1 ∧ entry.1 < next
  next_pos : 0 < next

namespace Table

variable {ρ : Type u}

/-- The table without rows; its first row will get key `1`. -/
def empty : Table ρ where
  rows := []
  next := 1
  keys_nodup := by simp
  keys_range := by simp
  next_pos := by decide

/-- The row stored under a key. -/
def find? (table : Table ρ) (key : Nat) : Option ρ :=
  (table.rows.find? fun entry => decide (entry.1 = key)).map Prod.snd

/-- The rows that satisfy a predicate, with their keys, in key order of
insertion. -/
def select (table : Table ρ) (accept : Nat → ρ → Bool) : List (Nat × ρ) :=
  table.rows.filter fun entry => accept entry.1 entry.2

/-- The first selected row: the row itself where the predicate is a unique index. -/
def first? (table : Table ρ) (accept : Nat → ρ → Bool) : Option (Nat × ρ) :=
  (table.select accept).head?

def selectOrdered (table : Table ρ) (accept : Nat → ρ → Bool)
    (before : Nat × ρ → Nat × ρ → Prop) [DecidableRel before] : List (Nat × ρ) :=
  (table.select accept).insertionSort before

/-- Rewrite every row that satisfies a predicate. -/
def updateWhere (table : Table ρ) (accept : Nat → ρ → Bool) (change : ρ → ρ) :
    Table ρ where
  rows := table.rows.map fun entry =>
    (entry.1, if accept entry.1 entry.2 then change entry.2 else entry.2)
  next := table.next
  keys_nodup := by simpa [map_map, Function.comp_def] using table.keys_nodup
  keys_range := by
    intro entry member
    obtain ⟨source, sourceMem, rfl⟩ := mem_map.mp member
    exact table.keys_range source sourceMem
  next_pos := table.next_pos

/-- Replace the row stored under one key; nothing happens without such a row. -/
def set (table : Table ρ) (key : Nat) (row : ρ) : Table ρ :=
  table.updateWhere (fun entryKey _ => decide (entryKey = key)) fun _ => row

/-- Append a row under the next key. -/
def insert (table : Table ρ) (row : ρ) : Table ρ where
  rows := table.rows ++ [(table.next, row)]
  next := table.next + 1
  keys_nodup := by
    rw [map_append, nodup_append]
    refine ⟨table.keys_nodup, by simp, ?_⟩
    intro key keyMem other otherMem
    obtain ⟨entry, entryMem, rfl⟩ := mem_map.mp keyMem
    have below := (table.keys_range entry entryMem).2
    simp only [map_cons, map_nil, mem_singleton] at otherMem
    omega
  keys_range := by
    intro entry member
    rcases mem_append.mp member with old | new
    · have range := table.keys_range entry old
      omega
    · rw [mem_singleton.mp new]
      exact ⟨table.next_pos, Nat.lt_succ_self _⟩
  next_pos := Nat.succ_pos _

/-- Remove the row stored under a key. -/
def delete (table : Table ρ) (key : Nat) : Table ρ where
  rows := table.rows.filter fun entry => decide (entry.1 ≠ key)
  next := table.next
  keys_nodup := by
    have sublist := filter_sublist (l := table.rows)
      (p := fun entry => decide (entry.1 ≠ key))
    exact (sublist.map Prod.fst).nodup table.keys_nodup
  keys_range := fun entry member =>
    table.keys_range entry (mem_filter.mp member).1
  next_pos := table.next_pos

/-! ## Rows and their keys -/

theorem find?_eq_some_iff (table : Table ρ) (key : Nat) (row : ρ) :
    table.find? key = some row ↔ (key, row) ∈ table.rows := by
  obtain ⟨rows, next, nodup, range, nextPos⟩ := table
  simp only [find?]
  clear range
  induction rows with
  | nil => simp
  | cons entry rest ih =>
    simp only [map_cons, nodup_cons] at nodup
    by_cases same : entry.1 = key
    · have notRest : (key, row) ∉ rest := by
        intro member
        exact nodup.1 (same ▸ mem_map.mpr ⟨_, member, rfl⟩)
      simp only [find?_cons, same, decide_true, Option.map_some,
        Option.some.injEq, mem_cons, notRest, or_false]
      constructor
      · intro equal
        exact Prod.ext same.symm equal.symm
      · intro equal
        exact (congrArg Prod.snd equal).symm
    · rw [find?_cons_of_neg (by simpa using same), ih nodup.2]
      have notHead : (key, row) ≠ entry := by
        intro equal
        exact same (by rw [← equal])
      simp [notHead]

theorem mem_select (table : Table ρ) (accept : Nat → ρ → Bool) (key : Nat) (row : ρ) :
    (key, row) ∈ table.select accept ↔ table.find? key = some row ∧ accept key row = true := by
  rw [find?_eq_some_iff, select, mem_filter]

theorem mem_selectOrdered (table : Table ρ) (accept : Nat → ρ → Bool)
    (before : Nat × ρ → Nat × ρ → Prop) [DecidableRel before] (key : Nat) (row : ρ) :
    (key, row) ∈ table.selectOrdered accept before ↔
      table.find? key = some row ∧ accept key row = true := by
  rw [selectOrdered, mem_insertionSort, mem_select]

variable {table : Table ρ} {accept wanted : Nat → ρ → Bool} {key : Nat} {row after : ρ}
  {change : ρ → ρ}

/-- The first row in an order comes before every selected row. -/
theorem selectOrdered_head {before : Nat × ρ → Nat × ρ → Prop} [DecidableRel before]
    [Std.Total before] [IsTrans (Nat × ρ) before] {first : Nat × ρ}
    (head : (table.selectOrdered accept before).head? = some first)
    (found : table.find? key = some row) (accepted : accept key row = true)
    (different : (key, row) ≠ first) : before first (key, row) := by
  have member := (mem_selectOrdered table accept before key row).mpr ⟨found, accepted⟩
  have sorted := pairwise_insertionSort before (table.select accept)
  unfold selectOrdered at head member
  cases rows : (table.select accept).insertionSort before with
  | nil => simp [rows] at head
  | cons entry rest =>
    rw [rows] at head member sorted
    cases head
    rcases mem_cons.mp member with same | later
    · exact absurd same different
    · exact (pairwise_cons.mp sorted).1 _ later

theorem selectOrdered_keys_nodup (table : Table ρ) (accept : Nat → ρ → Bool)
    (before : Nat × ρ → Nat × ρ → Prop) [DecidableRel before] :
    ((table.selectOrdered accept before).map Prod.fst).Nodup := by
  have sorted := (perm_insertionSort before (table.select accept)).map Prod.fst
  have sublist := (filter_sublist (l := table.rows)
    (p := fun entry => accept entry.1 entry.2)).map Prod.fst
  exact sorted.nodup_iff.mpr (sublist.nodup table.keys_nodup)

theorem key_pos (found : table.find? key = some row) : 0 < key :=
  (table.keys_range _ ((find?_eq_some_iff table key row).mp found)).1

theorem key_lt_next (found : table.find? key = some row) : key < table.next :=
  (table.keys_range _ ((find?_eq_some_iff table key row).mp found)).2

/-! ## What the operations do to `find?` -/

theorem find?_updateWhere (table : Table ρ) (accept : Nat → ρ → Bool) (change : ρ → ρ) (key : Nat) :
    (table.updateWhere accept change).find? key =
      (table.find? key).map fun row => if accept key row then change row else row := by
  simp only [find?, updateWhere]
  induction table.rows with
  | nil => rfl
  | cons entry rest ih =>
    by_cases same : entry.1 = key
    · simp [same]
    · simpa [find?_cons, same] using ih

theorem find?_set (table : Table ρ) (key : Nat) (row : ρ) (query : Nat) :
    (table.set key row).find? query =
      if query = key then (table.find? query).map fun _ => row else table.find? query := by
  rw [set, find?_updateWhere]
  by_cases same : query = key <;> simp [same]

theorem find?_set_self {old : ρ} (row : ρ) (found : table.find? key = some old) :
    (table.set key row).find? key = some row := by
  simp [find?_set, found]

theorem find?_set_of_ne (table : Table ρ) {query : Nat} (row : ρ) (different : query ≠ key) :
    (table.set key row).find? query = table.find? query := by
  simp [find?_set, different]

/-- A replacement that is selected exactly when the old row was does not change which
entries are selected. -/
theorem select_set_map (table : Table ρ)
    (same : ∀ before, table.find? key = some before → accept key row = accept key before) :
    (table.set key row).select accept =
      (table.select accept).map fun entry =>
        if entry.1 = key then (entry.1, row) else entry := by
  have kept : ∀ entry ∈ table.rows, accept entry.1
      (if decide (entry.1 = key) then row else entry.2) = accept entry.1 entry.2 := by
    intro entry member
    by_cases this : entry.1 = key
    · have stored : table.find? key = some entry.2 :=
        (find?_eq_some_iff table key entry.2).mpr (this ▸ member)
      simp [this, same entry.2 stored]
    · simp [this]
  simp only [select, set, updateWhere, filter_map]
  rw [filter_congr (q := fun entry => accept entry.1 entry.2) (fun entry member => by
    simpa using kept entry member)]
  apply map_congr_left
  intro entry _
  by_cases this : entry.1 = key <;> simp [this]

/-- Replacing a row that is not selected by another such row keeps the selection. -/
theorem select_set_of_rejected (table : Table ρ)
    (old : ∀ before, table.find? key = some before → accept key before = false)
    (new : accept key row = false) :
    (table.set key row).select accept = table.select accept := by
  rw [select_set_map table fun before stored => by rw [new, old before stored]]
  conv_rhs => rw [← map_id (table.select accept)]
  apply map_congr_left
  intro entry member
  obtain ⟨stored, accepted⟩ := (mem_select table accept entry.1 entry.2).mp member
  have different : entry.1 ≠ key := by
    rintro rfl
    rw [old entry.2 stored] at accepted
    cases accepted
  simp [different]

theorem select_insert (table : Table ρ) (accept : Nat → ρ → Bool) (row : ρ) :
    (table.insert row).select accept =
      table.select accept ++ if accept table.next row then [(table.next, row)] else [] := by
  simp only [select, insert, filter_append]
  by_cases accepted : accept table.next row = true <;> simp [accepted]

theorem first?_spec (found : table.first? accept = some (key, row)) :
    table.find? key = some row ∧ accept key row = true :=
  (mem_select table accept key row).mp (mem_of_mem_head? found)

/-- Replacing the first selected row by another selected row is seen by the next lookup. -/
theorem first?_set (found : table.first? accept = some (key, row))
    (accepted : accept key after = true) :
    (table.set key after).first? accept = some (key, after) := by
  obtain ⟨stored, old⟩ := first?_spec found
  have same : ∀ before, table.find? key = some before → accept key after = accept key before := by
    intro before beforeStored
    obtain rfl := Option.some.inj (stored.symm.trans beforeStored)
    rw [accepted, old]
  unfold first? at found ⊢
  rw [select_set_map table same, head?_map, found]
  simp

theorem first?_set_of_rejected (stored : table.find? key = some row) (old : accept key row = false)
    (new : accept key after = false) :
    (table.set key after).first? accept = table.first? accept := by
  unfold first?
  rw [select_set_of_rejected table _ new]
  intro before beforeStored
  obtain rfl := Option.some.inj (stored.symm.trans beforeStored)
  exact old

theorem first?_insert (table : Table ρ) (accept : Nat → ρ → Bool) (row : ρ) :
    (table.insert row).first? accept =
      (table.first? accept).or
        (if accept table.next row then some (table.next, row) else none) := by
  unfold first?
  rw [select_insert, head?_append]
  by_cases accepted : accept table.next row = true <;> simp [accepted]

theorem find?_insert (table : Table ρ) (row : ρ) (key : Nat) :
    (table.insert row).find? key =
      if key = table.next then some row else table.find? key := by
  by_cases fresh : key = table.next
  · rw [if_pos fresh, find?_eq_some_iff, fresh]
    simp [insert]
  · rw [if_neg fresh]
    apply Option.ext
    intro value
    rw [find?_eq_some_iff, find?_eq_some_iff]
    simp [insert, fresh]

theorem find?_delete (table : Table ρ) (removed key : Nat) :
    (table.delete removed).find? key =
      if key = removed then none else table.find? key := by
  by_cases same : key = removed
  · rw [if_pos same]
    cases found : (table.delete removed).find? key with
    | none => rfl
    | some row =>
      rw [find?_eq_some_iff] at found
      simp [delete, same] at found
  · rw [if_neg same]
    apply Option.ext
    intro value
    rw [find?_eq_some_iff, find?_eq_some_iff]
    simp [delete, same]

theorem updateWhere_id (table : Table ρ) (accept : Nat → ρ → Bool)
    (same : ∀ row, change row = row) :
    table.updateWhere accept change = table := by
  have rows : (table.updateWhere accept change).rows = table.rows := by
    simp [updateWhere, same]
  simp only [updateWhere] at rows ⊢
  simp only [rows]

/-- An update followed by the update that undoes it changes nothing. -/
theorem updateWhere_cancel (table : Table ρ) (accept : Nat → ρ → Bool) (change undo : ρ → ρ)
    (stable : ∀ key row, accept key row = true → accept key (change row) = true)
    (inverse : ∀ row, undo (change row) = row) :
    (table.updateWhere accept change).updateWhere accept undo = table := by
  have rows : ((table.updateWhere accept change).updateWhere accept undo).rows = table.rows := by
    simp only [updateWhere, map_map]
    conv_rhs => rw [← map_id table.rows]
    apply map_congr_left
    intro entry _
    by_cases accepted : accept entry.1 entry.2 = true
    · simp [accepted, stable entry.1 entry.2 accepted, inverse]
    · simp [accepted]
  simp only [updateWhere] at rows ⊢
  simp only [rows]

/-- Storing the row that is there already changes nothing. -/
theorem set_stored (stored : table.find? key = some row) : table.set key row = table := by
  have rows : (table.set key row).rows = table.rows := by
    conv_rhs => rw [← map_id table.rows]
    apply map_congr_left
    intro entry member
    by_cases same : entry.1 = key
    · have found := (find?_eq_some_iff table entry.1 entry.2).mpr member
      rw [same, stored] at found
      simp [same, Option.some.inj found, Prod.ext_iff]
    · simp [same]
  simp only [set, updateWhere] at rows ⊢
  simp only [rows]

/-- An update that takes the rows it changes out of a selection makes the selection
shorter by their number. -/
theorem length_select_updateWhere (table : Table ρ)
    (inside : ∀ entry ∈ table.rows, accept entry.1 entry.2 = true → wanted entry.1 entry.2 = true)
    (outside : ∀ entry ∈ table.rows, accept entry.1 entry.2 = true →
      wanted entry.1 (change entry.2) = false) :
    ((table.updateWhere accept change).select wanted).length + (table.select accept).length =
      (table.select wanted).length := by
  simp only [select, updateWhere]
  generalize table.rows = rows at inside outside ⊢
  induction rows with
  | nil => rfl
  | cons entry rest ih =>
    have later := ih (fun other member => inside other (mem_cons_of_mem _ member))
      (fun other member => outside other (mem_cons_of_mem _ member))
    have here := mem_cons_self (a := entry) (l := rest)
    cases changed : accept entry.1 entry.2 with
    | true =>
      simp only [map_cons, filter_cons, changed, if_true,
        inside entry here changed, outside entry here changed, length_cons,
        Bool.false_eq_true, if_false]
      omega
    | false =>
      cases kept : wanted entry.1 entry.2
      · simpa only [map_cons, filter_cons, changed, kept, Bool.false_eq_true,
          if_false] using later
      · simp only [map_cons, filter_cons, changed, kept, Bool.false_eq_true,
          if_false, if_true, length_cons]
        omega

/-- Replacing a selected row by one that is not selected takes it out of the
selection. -/
theorem length_select_set (stored : table.find? key = some row) (inside : wanted key row = true)
    (outside : wanted key after = false) :
    ((table.set key after).select wanted).length + 1 = (table.select wanted).length := by
  have member := (find?_eq_some_iff table key row).mp stored
  have single : (table.select fun entryKey _ => decide (entryKey = key)).length = 1 := by
    have once := count_eq_one_of_mem table.keys_nodup (mem_map.mpr ⟨_, member, rfl⟩)
    rw [List.count, countP_map, countP_eq_length_filter] at once
    exact once
  have onlyRow : ∀ entry ∈ table.rows, decide (entry.1 = key) = true → entry = (key, row) := by
    intro entry entryMem same
    have same := of_decide_eq_true same
    have found := (find?_eq_some_iff table entry.1 entry.2).mpr entryMem
    rw [same, stored] at found
    exact Prod.ext same (Option.some.inj found).symm
  rw [← single, set]
  apply length_select_updateWhere
  · intro entry entryMem same
    rw [onlyRow entry entryMem same]
    exact inside
  · intro entry entryMem same
    rw [onlyRow entry entryMem same]
    exact outside

/-! ## Properties of every row -/

/-- Every stored row satisfies a property. -/
def All (table : Table ρ) (property : Nat → ρ → Prop) : Prop :=
  ∀ key row, table.find? key = some row → property key row

variable {property : Nat → ρ → Prop} {table : Table ρ}

theorem all_of_rows (holds : ∀ entry ∈ table.rows, property entry.1 entry.2) :
    table.All property := by
  intro key row found
  exact holds (key, row) ((find?_eq_some_iff table key row).mp found)

section

variable (every : table.All property)
include every

theorem All.updateWhere (kept : ∀ key row, table.find? key = some row → accept key row = true →
      property key row → property key (change row)) :
    (table.updateWhere accept change).All property := by
  intro key row found
  rw [find?_updateWhere, Option.map_eq_some_iff] at found
  obtain ⟨old, oldFound, rfl⟩ := found
  by_cases accepted : accept key old = true
  · rw [if_pos accepted]
    exact kept key old oldFound accepted (every key old oldFound)
  · rw [if_neg accepted]
    exact every key old oldFound

theorem All.set (holds : property key row) : (table.set key row).All property := by
  apply All.updateWhere every
  intro entryKey _ _ accepted _
  rw [of_decide_eq_true accepted]
  exact holds

theorem All.insert (holds : property table.next row) : (table.insert row).All property := by
  intro key value found
  rw [find?_insert] at found
  by_cases fresh : key = table.next
  · rw [if_pos fresh] at found
    rw [fresh, ← Option.some.inj found]
    exact holds
  · rw [if_neg fresh] at found
    exact every key value found

theorem All.delete {removed : Nat} : (table.delete removed).All property := by
  intro key value found
  rw [find?_delete] at found
  by_cases same : key = removed
  · simp [same] at found
  · rw [if_neg same] at found
    exact every key value found

end

end Table

end AiHub.Library

import Mathlib.Algebra.BigOperators.Group.Finset.Basic
import Mathlib.Algebra.Ring.Int.Defs
import Mathlib.Data.List.AList

/-!
# Maps that a loop builds

Two loops fill a map from a list.  One stores each item under its key, so that the
last item with a key stays; the other appends to the list under its key, so that
nothing is lost.  Ranging over a map visits its keys once each, in an order that
nothing fixes.
-/

namespace AiHub.Library

open List

universe u v w

/-- A map with values of one type. -/
abbrev GoMap (κ : Type u) (ν : Type v) := AList fun _ : κ => ν

/-- The order in which maps are ranged over. -/
structure RangeOrder (κ : Type u) where
  order : List κ → List κ
  perm : ∀ keys, (order keys).Perm keys

/-- Ranging in the order of the list. -/
def RangeOrder.listed {κ : Type u} : RangeOrder κ := ⟨id, fun _ => .rfl⟩

theorem RangeOrder.mem_order {κ : Type u} (range : RangeOrder κ) {keys : List κ} {key : κ} :
    key ∈ range.order keys ↔ key ∈ keys :=
  (range.perm keys).mem_iff

variable {α : Type u} {κ : Type v} {ν : Type w} [DecidableEq κ]

/-- `for _, x := range items { m[key(x)] = x }` -/
def indexBy (key : α → κ) (items : List α) : GoMap κ α :=
  items.foldl (fun map item => map.insert (key item) item) ∅

/-- `for _, x := range items { m[key(x)] = append(m[key(x)], value(x)) }` -/
def groupBy (key : α → κ) (value : α → ν) (items : List α) : GoMap κ (List ν) :=
  items.foldl
    (fun map item =>
      map.insert (key item) ((map.lookup (key item)).getD [] ++ [value item])) ∅

/-- `for _, x := range entries { m[x.key] = x.value }` -/
def insertAll (entries : List (κ × ν)) : GoMap κ ν :=
  entries.foldl (fun map entry => map.insert entry.1 entry.2) ∅

@[simp] theorem indexBy_append_singleton (key : α → κ) (items : List α) (item : α) :
    indexBy key (items ++ [item]) = (indexBy key items).insert (key item) item := by
  simp [indexBy]

@[simp] theorem groupBy_append_singleton (key : α → κ) (value : α → ν) (items : List α) (item : α) :
    groupBy key value (items ++ [item]) =
      (groupBy key value items).insert (key item)
        (((groupBy key value items).lookup (key item)).getD [] ++ [value item]) := by
  simp [groupBy]

theorem insertAll_append_singleton (entries : List (κ × ν)) (entry : κ × ν) :
    insertAll (entries ++ [entry]) = (insertAll entries).insert entry.1 entry.2 := by
  simp [insertAll]

theorem of_lookup_insertAll {entries : List (κ × ν)} {key : κ} {value : ν}
    (found : (insertAll entries).lookup key = some value) : (key, value) ∈ entries := by
  induction entries using List.reverseRecOn with
  | nil => simp [insertAll] at found
  | append_singleton entries last ih =>
    rw [insertAll_append_singleton] at found
    by_cases same : key = last.1
    · subst same
      rw [AList.lookup_insert, Option.some.injEq] at found
      simp [← found]
    · rw [AList.lookup_insert_ne same] at found
      simp [ih found]

theorem mem_insertAll {entries : List (κ × ν)} {entry : κ × ν} (member : entry ∈ entries) :
    entry.1 ∈ insertAll entries := by
  induction entries using List.reverseRecOn with
  | nil => simp at member
  | append_singleton entries last ih =>
    rw [insertAll_append_singleton, AList.mem_insert]
    rcases mem_append.mp member with earlier | isLast
    · exact .inr (ih earlier)
    · exact .inl (mem_singleton.mp isLast ▸ rfl)

/-- Where the entries give a key at most one value, this is found. -/
theorem lookup_insertAll {entries : List (κ × ν)} {key : κ} {found : Option ν}
    (agree : ∀ value, (key, value) ∈ entries ↔ found = some value) :
    (insertAll entries).lookup key = found := by
  cases isFound : (insertAll entries).lookup key with
  | some value => exact ((agree value).mp (of_lookup_insertAll isFound)).symm
  | none =>
    cases found with
    | none => rfl
    | some value =>
      have member := mem_insertAll ((agree value).mpr rfl)
      exact absurd member (AList.lookup_eq_none.mp isFound)

/-- What is found under a key has this key. -/
theorem of_lookup_indexBy {key : α → κ} {items : List α} {wanted : κ} {item : α}
    (found : (indexBy key items).lookup wanted = some item) :
    item ∈ items ∧ key item = wanted := by
  induction items using List.reverseRecOn with
  | nil => simp [indexBy] at found
  | append_singleton items last ih =>
    rw [indexBy_append_singleton] at found
    by_cases same : wanted = key last
    · subst same
      rw [AList.lookup_insert, Option.some.injEq] at found
      subst found
      exact ⟨by simp, rfl⟩
    · rw [AList.lookup_insert_ne same] at found
      obtain ⟨member, keyed⟩ := ih found
      exact ⟨by simp [member], keyed⟩

/-- Something is found under the key of each item. -/
theorem exists_lookup_indexBy (key : α → κ) {items : List α} {item : α} (member : item ∈ items) :
    ∃ found, (indexBy key items).lookup (key item) = some found := by
  induction items using List.reverseRecOn with
  | nil => simp at member
  | append_singleton items last ih =>
    rw [indexBy_append_singleton]
    by_cases same : key item = key last
    · exact ⟨last, by rw [same, AList.lookup_insert]⟩
    · have earlier : item ∈ items := by
        rcases mem_append.mp member with earlier | isLast
        · exact earlier
        · exact absurd (congrArg key (mem_singleton.mp isLast)) same
      rw [AList.lookup_insert_ne same]
      exact ih earlier

/-- An item whose key no other item has is found under it. -/
theorem lookup_indexBy_of_unique (key : α → κ) {items : List α} {item : α}
    (member : item ∈ items) (unique : ∀ other ∈ items, key other = key item → other = item) :
    (indexBy key items).lookup (key item) = some item := by
  obtain ⟨found, lookup⟩ := exists_lookup_indexBy key member
  obtain ⟨foundMem, keyed⟩ := of_lookup_indexBy lookup
  rw [lookup, unique found foundMem keyed]

/-- The list under a key has the values of all items with this key. -/
theorem lookup_groupBy (key : α → κ) (value : α → ν) (items : List α) (wanted : κ) :
    ((groupBy key value items).lookup wanted).getD [] =
      (items.filter fun item => key item = wanted).map value := by
  induction items using List.reverseRecOn with
  | nil => simp [groupBy]
  | append_singleton items last ih =>
    rw [groupBy_append_singleton]
    by_cases same : wanted = key last
    · subst same
      rw [AList.lookup_insert, Option.getD_some, ih]
      simp
    · rw [AList.lookup_insert_ne same, ih]
      simp [Ne.symm same]

theorem mem_keys_groupBy {key : α → κ} {value : α → ν} {items : List α} {wanted : κ} :
    wanted ∈ (groupBy key value items).keys ↔ ∃ item ∈ items, key item = wanted := by
  rw [← AList.mem_keys]
  induction items using List.reverseRecOn with
  | nil => simp [groupBy]
  | append_singleton items last ih =>
    rw [groupBy_append_singleton, AList.mem_insert, ih]
    constructor
    · rintro (isLast | ⟨item, member, keyed⟩)
      · exact ⟨last, by simp, isLast.symm⟩
      · exact ⟨item, by simp [member], keyed⟩
    · rintro ⟨item, member, keyed⟩
      rcases mem_append.mp member with earlier | isLast
      · exact .inr ⟨item, earlier, keyed⟩
      · left
        rw [← keyed, mem_singleton.mp isLast]

/-- Ranging over distinct keys, of which only one can have a share. -/
theorem sum_range_single {keys : List κ} (nodup : keys.Nodup) {wanted : κ} {share : κ → Int}
    (others : ∀ key, key ≠ wanted → share key = 0)
    (absent : wanted ∉ keys → share wanted = 0) : (keys.map share).sum = share wanted := by
  rw [sum_map_eq_nsmul_single wanted share fun key different _ => others key different]
  by_cases member : wanted ∈ keys
  · rw [count_eq_one_of_mem nodup member, one_nsmul]
  · rw [absent member, nsmul_zero]

/-- An entry of a map is found under its key. -/
theorem lookup_of_mem_entries (map : GoMap κ ν) {entry : Sigma fun _ : κ => ν}
    (member : entry ∈ map.entries) : map.lookup entry.1 = some entry.2 :=
  mem_dlookup map.nodupKeys member

/-- The product over the entries of a map is the product over its set of keys. -/
theorem prod_entries {μ : Type w} [CommMonoid μ] (map : GoMap κ μ) :
    (map.entries.map fun entry => entry.2).prod =
      ∏ key ∈ map.keys.toFinset, (map.lookup key).getD 1 := by
  rw [prod_toFinset _ map.keys_nodup, AList.keys, List.keys, map_map]
  congr 1
  apply map_congr_left
  intro entry member
  rw [Function.comp_apply, lookup_of_mem_entries map member, Option.getD_some]

end AiHub.Library

import AiHub.Service.TextQuota
import Mathlib.Data.Prod.Lex
import Mathlib.Data.String.Basic

/-!
# Merging the surcharges of tool calls

The items are sorted by name and price, and neighbours of the same name and price become one item.
The sort may leave equal items in any order, so the results are about every sorted list of the
items.  A count that would pass the largest `int` stays there.
-/

namespace AiHub.Service

open List

/-! ## Counts and prices -/

/-- The number of calls of a tool at a price. -/
def callCount (items : List ToolSurchargeItem) (name : String) (price : ℚ) : Int :=
  ((items.filter fun item => item.name = name ∧ item.price = price).map (·.count)).sum

/-- What the calls cost before ratios are applied. -/
def callPrice (items : List ToolSurchargeItem) : ℚ :=
  (items.map fun item => item.price * (item.count : ℚ)).sum

namespace ToolSurchargeItem

/-- Counts of calls are positive values of the type `int`. -/
def Counted (item : ToolSurchargeItem) : Prop := 0 < item.count ∧ item.count ≤ maxCallCount

def key (item : ToolSurchargeItem) : String ×ₗ ℚ := toLex (item.name, item.price)

theorem key_eq_iff {first second : ToolSurchargeItem} :
    first.key = second.key ↔ first.name = second.name ∧ first.price = second.price := by
  simp [key]

theorem notAfter_iff {first second : ToolSurchargeItem} :
    first.NotAfter second ↔ first.key ≤ second.key := by
  unfold NotAfter key
  rw [Prod.Lex.toLex_le_toLex]
  split
  case isTrue same => simp [same]
  case isFalse different => simp [different]

instance : IsTrans ToolSurchargeItem NotAfter where
  trans _ _ _ := by
    simp only [notAfter_iff]
    exact le_trans

instance : Std.Total NotAfter where
  total _ _ := by
    simp only [notAfter_iff]
    exact le_total _ _

end ToolSurchargeItem

open ToolSurchargeItem

theorem addCallCount_eq (merged count : Int) :
    addCallCount merged count = min maxCallCount (merged + count) := by
  unfold addCallCount
  split <;> omega

theorem callCount_append (first second : List ToolSurchargeItem) (name : String) (price : ℚ) :
    callCount (first ++ second) name price =
      callCount first name price + callCount second name price := by
  simp [callCount]

theorem callCount_singleton (item : ToolSurchargeItem) (name : String) (price : ℚ) :
    callCount [item] name price =
      if item.name = name ∧ item.price = price then item.count else 0 := by
  unfold callCount
  split <;> simp_all

theorem callCount_perm {first second : List ToolSurchargeItem} (perm : first.Perm second)
    (name : String) (price : ℚ) : callCount first name price = callCount second name price :=
  ((perm.filter _).map _).sum_eq

variable {items : List ToolSurchargeItem}

theorem callCount_nonneg (counted : ∀ item ∈ items, item.Counted)
    (name : String) (price : ℚ) : 0 ≤ callCount items name price := by
  apply sum_nonneg
  intro count member
  obtain ⟨item, itemMem, rfl⟩ := mem_map.mp member
  exact (counted item (mem_of_mem_filter itemMem)).1.le

theorem callCount_eq_zero {wanted : ToolSurchargeItem}
    (absent : ∀ item ∈ items, item.key ≠ wanted.key) :
    callCount items wanted.name wanted.price = 0 := by
  have none : items.filter (fun item => item.name = wanted.name ∧ item.price = wanted.price) = [] :=
    filter_eq_nil_iff.mpr fun item member same =>
      absent item member (key_eq_iff.mpr (by simpa using same))
  unfold callCount
  rw [none]
  rfl

/-! ## The loop -/

/-- What the loop has built from the items that it has consumed, the last one first. -/
structure Merged (consumed merged : List ToolSurchargeItem) : Prop where
  descending : merged.Pairwise fun later earlier => earlier.key < later.key
  members : ∀ item, item ∈ merged ↔ (∃ other ∈ consumed, other.key = item.key) ∧
    item.count = min maxCallCount (callCount consumed item.name item.price)

namespace Merged

theorem empty : Merged [] [] where
  descending := List.Pairwise.nil
  members := by simp

variable {consumed merged : List ToolSurchargeItem} {item : ToolSurchargeItem}

/-- Each consumed item has gone into one of the same name and price. -/
theorem mem_of_consumed (isMerged : Merged consumed merged) (member : item ∈ consumed) :
    { item with count := min maxCallCount (callCount consumed item.name item.price) } ∈ merged :=
  (isMerged.members _).mpr ⟨⟨item, member, rfl⟩, rfl⟩

theorem key_le_of_mem (isMerged : Merged consumed merged)
    (sorted : ∀ other ∈ consumed, other.key ≤ item.key) {old : ToolSurchargeItem}
    (member : old ∈ merged) : old.key ≤ item.key := by
  obtain ⟨⟨other, otherMem, same⟩, -⟩ := (isMerged.members old).mp member
  rw [← same]
  exact sorted other otherMem

/-- An item whose name and price were not seen before comes first. -/
theorem push (isMerged : Merged consumed merged) (counted : item.Counted)
    (fresh : ∀ old ∈ merged, old.key < item.key) :
    Merged (consumed ++ [item]) (item :: merged) where
  descending := List.Pairwise.cons fresh isMerged.descending
  members candidate := by
    have absent : ∀ other ∈ consumed, other.key ≠ item.key := by
      intro other member
      exact (fresh _ (isMerged.mem_of_consumed member)).ne
    rw [mem_cons, isMerged.members, callCount_append, callCount_singleton]
    by_cases same : item.key = candidate.key
    case pos =>
      have nameEq := key_eq_iff.mp same
      have unseen : ¬∃ other ∈ consumed, other.key = candidate.key := by
        rintro ⟨other, member, otherSame⟩
        exact absent other member (otherSame.trans same.symm)
      have none : callCount consumed candidate.name candidate.price = 0 :=
        callCount_eq_zero fun other member otherSame => unseen ⟨other, member, otherSame⟩
      have bound := counted.2
      simp only [unseen, false_and, or_false, none, nameEq, and_self, if_true, zero_add,
        min_eq_right bound]
      constructor
      · rintro rfl
        exact ⟨⟨candidate, by simp, rfl⟩, rfl⟩
      · cases candidate
        cases item
        simp_all
    case neg =>
      have different : candidate ≠ item := fun equal => same (equal ▸ rfl)
      have notAlike : ¬(item.name = candidate.name ∧ item.price = candidate.price) :=
        fun alike => same (key_eq_iff.mpr alike)
      simp [different, notAlike, same]

/-- An item of the name and the price that were last is counted there. -/
theorem join {last : ToolSurchargeItem} {rest : List ToolSurchargeItem}
    (isMerged : Merged consumed (last :: rest)) (counted : item.Counted)
    (same : last.key = item.key) :
    Merged (consumed ++ [item])
      ({ last with count := addCallCount last.count item.count } :: rest) where
  descending := by
    have descending := pairwise_cons.mp isMerged.descending
    exact List.Pairwise.cons descending.1 descending.2
  members candidate := by
    obtain ⟨⟨seen, seenMem, seenSame⟩, lastCount⟩ := (isMerged.members last).mp (by simp)
    have old := isMerged.members candidate
    rw [mem_cons] at old
    rw [mem_cons, callCount_append, callCount_singleton]
    by_cases alike : last.key = candidate.key
    case pos =>
      have itemAlike := key_eq_iff.mp (same.symm.trans alike)
      have lastAlike := key_eq_iff.mp alike
      have notLater : candidate ∉ rest := by
        intro member
        exact ((pairwise_cons.mp isMerged.descending).1 candidate member).ne alike.symm
      have count : addCallCount last.count item.count =
          min maxCallCount (callCount consumed candidate.name candidate.price + item.count) := by
        rw [addCallCount_eq, lastCount, lastAlike.1, lastAlike.2]
        have positive := counted.1
        omega
      simp only [notLater, or_false, itemAlike, and_self, if_true]
      constructor
      · rintro rfl
        exact ⟨⟨item, by simp, same.symm⟩, count⟩
      · cases candidate
        simp_all
    case neg =>
      have notAlike : ¬(item.name = candidate.name ∧ item.price = candidate.price) :=
        fun itemAlike => alike (same.trans (key_eq_iff.mpr itemAlike))
      have notLast : candidate ≠ last := fun equal => alike (equal ▸ rfl)
      have notJoined : candidate ≠ { last with count := addCallCount last.count item.count } :=
        fun equal => alike (equal ▸ rfl)
      have notItem : item.key ≠ candidate.key := fun equal => alike (same.trans equal)
      simp only [notLast, false_or] at old
      simp [notJoined, old, notAlike, notItem]

/-- One turn of the loop. -/
theorem step (isMerged : Merged consumed merged) (counted : item.Counted)
    (sorted : ∀ other ∈ consumed, other.key ≤ item.key) :
    Merged (consumed ++ [item]) (mergeToolSurchargeItem merged item) := by
  cases merged with
  | nil => exact isMerged.push counted (by simp)
  | cons last rest =>
    simp only [mergeToolSurchargeItem]
    split
    case isTrue same => exact isMerged.join counted (key_eq_iff.mpr same)
    case isFalse different =>
      apply isMerged.push counted
      have lastBefore : last.key < item.key :=
        (isMerged.key_le_of_mem sorted (by simp)).lt_of_ne fun same =>
          different (key_eq_iff.mp same)
      intro old member
      rcases mem_cons.mp member with rfl | earlier
      · exact lastBefore
      · exact ((pairwise_cons.mp isMerged.descending).1 old earlier).trans lastBefore

/-- The whole loop over sorted items. -/
theorem run (counted : ∀ item ∈ items, item.Counted)
    (sorted : items.Pairwise NotAfter) : Merged items (items.foldl mergeToolSurchargeItem []) := by
  induction items using List.reverseRecOn with
  | nil => exact empty
  | append_singleton earlier last ih =>
    rw [foldl_append]
    obtain ⟨earlierSorted, -, lastAfter⟩ := pairwise_append.mp sorted
    apply step (ih (fun item member => counted item (by simp [member])) earlierSorted)
    · exact counted last (by simp)
    · intro other member
      exact notAfter_iff.mp (lastAfter other member last (by simp))

theorem nodup (isMerged : Merged consumed merged) : merged.Nodup := by
  apply isMerged.descending.imp
  rintro later earlier before rfl
  exact lt_irrefl _ before

/-- What was merged is determined by the names and prices and their counts. -/
theorem eq_of_perm {first second left right : List ToolSurchargeItem}
    (perm : first.Perm second) (leftMerged : Merged first left)
    (rightMerged : Merged second right) : left = right := by
  have sameMembers : ∀ item, item ∈ left ↔ item ∈ right := by
    intro item
    rw [leftMerged.members, rightMerged.members, callCount_perm perm]
    simp only [perm.mem_iff]
  apply List.Perm.eq_of_pairwise _ leftMerged.descending rightMerged.descending
    ((perm_ext_iff_of_nodup leftMerged.nodup rightMerged.nodup).mpr sameMembers)
  intro one other _ _ before after
  exact absurd (before.trans after) (lt_irrefl _)

/-- No other item has the name and the price of a merged one. -/
theorem callCount_of_mem (isMerged : Merged consumed merged) (member : item ∈ merged) :
    callCount merged item.name item.price = item.count := by
  obtain ⟨later, earlier, rfl⟩ := append_of_mem member
  obtain ⟨-, rest, across⟩ := pairwise_append.mp isMerged.descending
  have laterNone : callCount later item.name item.price = 0 :=
    callCount_eq_zero fun other otherMem => (across other otherMem item (by simp)).ne'
  have earlierNone : callCount earlier item.name item.price = 0 :=
    callCount_eq_zero fun other otherMem => ((pairwise_cons.mp rest).1 other otherMem).ne
  rw [← singleton_append, callCount_append, callCount_append, callCount_singleton,
    laterNone, earlierNone]
  simp

theorem callCount_eq (isMerged : Merged consumed merged) (name : String) (price : ℚ) :
    callCount merged name price = min maxCallCount (callCount consumed name price) := by
  by_cases seen : ∃ other ∈ consumed, other.name = name ∧ other.price = price
  case pos =>
    obtain ⟨other, otherMem, rfl, rfl⟩ := seen
    exact isMerged.callCount_of_mem (isMerged.mem_of_consumed otherMem)
  case neg =>
    have absent : ∀ other ∈ consumed, other.key ≠ key ⟨name, 0, price⟩ :=
      fun other otherMem same => seen ⟨other, otherMem, key_eq_iff.mp same⟩
    have mergedAbsent : ∀ other ∈ merged, other.key ≠ key ⟨name, 0, price⟩ := by
      intro other otherMem
      obtain ⟨⟨source, sourceMem, same⟩, -⟩ := (isMerged.members other).mp otherMem
      exact same ▸ absent source sourceMem
    have mergedNone : callCount merged name price = 0 := callCount_eq_zero mergedAbsent
    have none : callCount consumed name price = 0 := callCount_eq_zero absent
    rw [mergedNone, none]
    rfl

/-- A turn of the loop adds the price of the item's calls where the count is not cut. -/
theorem callPrice_step (isMerged : Merged consumed merged)
    (fits : callCount (consumed ++ [item]) item.name item.price ≤ maxCallCount) :
    callPrice (mergeToolSurchargeItem merged item) =
      callPrice merged + item.price * (item.count : ℚ) := by
  cases merged with
  | nil => simp [mergeToolSurchargeItem, callPrice]
  | cons last rest =>
    simp only [mergeToolSurchargeItem]
    split
    case isTrue same =>
      have lastCount := ((isMerged.members last).mp (by simp)).2
      rw [callCount_append, callCount_singleton, ← same.1, ← same.2] at fits
      simp only [same, and_self, if_true] at fits lastCount
      have sum : addCallCount last.count item.count = last.count + item.count := by
        rw [addCallCount_eq]
        omega
      simp only [callPrice, map_cons, sum_cons, sum, Int.cast_add, same.2]
      ring
    case isFalse =>
      simp only [callPrice, map_cons, sum_cons]
      ring

theorem callPrice_run (counted : ∀ item ∈ items, item.Counted) (sorted : items.Pairwise NotAfter)
    (fits : ∀ name price, callCount items name price ≤ maxCallCount) :
    callPrice (items.foldl mergeToolSurchargeItem []) = callPrice items := by
  induction items using List.reverseRecOn with
  | nil => rfl
  | append_singleton earlier last ih =>
    have earlierCounted : ∀ item ∈ earlier, item.Counted :=
      fun item member => counted item (by simp [member])
    have earlierSorted := (pairwise_append.mp sorted).1
    have earlierFits : ∀ name price, callCount earlier name price ≤ maxCallCount := by
      intro name price
      have whole := fits name price
      have lastNonneg : 0 ≤ callCount [last] name price :=
        callCount_nonneg (fun item member => counted item (by simp_all)) name price
      rw [callCount_append] at whole
      omega
    rw [foldl_append, foldl_cons, foldl_nil,
      callPrice_step (run earlierCounted earlierSorted) (fits _ _),
      ih earlierCounted earlierSorted earlierFits]
    simp [callPrice]

end Merged

/-! ## The merged items -/

/-- Whichever order a sort gives to equal items, the loop merges the same. -/
theorem merged_eq_of_sorted
    (counted : ∀ item ∈ items, item.Counted) {sorted : List ToolSurchargeItem}
    (perm : sorted.Perm items) (isSorted : sorted.Pairwise NotAfter) :
    (sorted.foldl mergeToolSurchargeItem []).reverse = mergeToolSurchargeItems items := by
  have sort := perm_insertionSort NotAfter items
  unfold mergeToolSurchargeItems
  rw [Merged.eq_of_perm (perm.trans sort.symm)
    (Merged.run (fun item member => counted item (perm.mem_iff.mp member)) isSorted)
    (Merged.run (fun item member => counted item (sort.mem_iff.mp member))
      (pairwise_insertionSort NotAfter items))]

/-- The loop's invariant, for the items as they came. -/
theorem merged_items (counted : ∀ item ∈ items, item.Counted) :
    Merged items (mergeToolSurchargeItems items).reverse := by
  have sort := perm_insertionSort NotAfter items
  have isMerged := Merged.run (fun item member => counted item (sort.mem_iff.mp member))
    (pairwise_insertionSort NotAfter items)
  unfold mergeToolSurchargeItems
  rw [reverse_reverse]
  refine ⟨isMerged.descending, fun item => ?_⟩
  rw [isMerged.members, callCount_perm sort]
  simp only [sort.mem_iff]

/-- No two merged items have the same name and price, the number of calls of each tool at each
price stays, up to the largest `int`, and so does the total price where no number passes it.  The
merged items depend neither on the order of the items nor on that which the sort gives to equal
ones. -/
theorem tool_surcharges_merged (items : List ToolSurchargeItem)
    (counted : ∀ item ∈ items, item.Counted) :
    ((mergeToolSurchargeItems items).Pairwise fun first second =>
        ¬(first.name = second.name ∧ first.price = second.price)) ∧
      (∀ name price, callCount (mergeToolSurchargeItems items) name price =
        min maxCallCount (callCount items name price)) ∧
      ((∀ name price, callCount items name price ≤ maxCallCount) →
        callPrice (mergeToolSurchargeItems items) = callPrice items) ∧
      (∀ permuted : List ToolSurchargeItem, permuted.Perm items →
        (mergeToolSurchargeItems permuted).Perm (mergeToolSurchargeItems items)) ∧
      ∀ sorted : List ToolSurchargeItem, sorted.Perm items → sorted.Pairwise NotAfter →
        (sorted.foldl mergeToolSurchargeItem []).reverse = mergeToolSurchargeItems items := by
  have isMerged := merged_items counted
  refine ⟨?_, ?_, ?_, ?_, fun sorted perm isSorted => merged_eq_of_sorted counted perm isSorted⟩
  · have descending := pairwise_reverse.mp isMerged.descending
    exact descending.imp fun before alike => before.ne (key_eq_iff.mpr alike)
  · intro name price
    rw [← isMerged.callCount_eq name price]
    exact callCount_perm (reverse_perm _).symm name price
  · intro fits
    have sort := perm_insertionSort NotAfter items
    have sameCounts := callCount_perm sort
    have priced := Merged.callPrice_run (fun item member => counted item (sort.mem_iff.mp member))
      (pairwise_insertionSort NotAfter items) fun name price =>
        (sameCounts name price).trans_le (fits name price)
    calc callPrice (mergeToolSurchargeItems items)
        = callPrice ((items.insertionSort NotAfter).foldl mergeToolSurchargeItem []) :=
          ((reverse_perm _).map _).sum_eq
      _ = callPrice (items.insertionSort NotAfter) := priced
      _ = callPrice items := (sort.map _).sum_eq
  · intro permuted perm
    have sort := perm_insertionSort NotAfter permuted
    exact .of_eq (merged_eq_of_sorted counted (sort.trans perm)
      (pairwise_insertionSort NotAfter permuted))

/-- Calls of one tool before and after those of another one. -/
theorem repeated_search_merged :
    let items : List ToolSurchargeItem :=
      [⟨"web_search", 2, 10⟩, ⟨"file_search", 1, 5 / 2⟩, ⟨"web_search", 3, 10⟩]
    mergeToolSurchargeItems items = [⟨"file_search", 1, 5 / 2⟩, ⟨"web_search", 5, 10⟩] ∧
      callCount (mergeToolSurchargeItems items) "web_search" 10 =
        min maxCallCount (callCount items "web_search" 10) :=
  ⟨by decide +kernel, (tool_surcharges_merged _ (by unfold Counted; decide)).2.1 _ _⟩

/-- The largest `int` of calls and one more are counted as the largest `int`. -/
theorem call_count_cut :
    let items : List ToolSurchargeItem :=
      [⟨"web_search", maxCallCount, 10⟩, ⟨"web_search", 1, 10⟩]
    callCount (mergeToolSurchargeItems items) "web_search" 10 ≠
      callCount items "web_search" 10 := by
  decide +kernel

end AiHub.Service

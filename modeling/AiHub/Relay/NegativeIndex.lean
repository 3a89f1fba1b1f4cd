import AiHub.Library.GoJSONValue
import AiHub.Library.Occurrence

/-!
# Negative indexes in paths

A path of a parameter override may count the elements of an array from its end.  Each negative
index is looked up by its text in the path as it was given: the array is what stands before the
first occurrence of that text, and the first occurrence in the result so far is replaced.

A path is read by `gjson`; what matters of it is the length of the array at a path.
-/

namespace AiHub.Relay

open AiHub.Library List

/-- The digits of a match of the regular expression at the beginning of a segment. -/
def leadingIndex : List Char → Option (List Char)
  | '-' :: rest =>
    if (rest.takeWhile Char.isDigit).isEmpty then none else some (rest.takeWhile Char.isDigit)
  | _ => none

/-- The matches of `\.(-\d+)`.  A match begins at a dot and has no other one, so that there is at
most one for each segment but the first. -/
def negativeIndexes (path : List Char) : List (List Char) :=
  ((split '.' path).drop 1).filterMap leadingIndex

/-- The number with some digits. -/
def digitsValue (digits : List Char) : Nat := Nat.ofDigitChars 10 digits 0

section Resolve

variable (arrayLength : List Char → Option Nat)

/-- One turn of the loop over the matches. -/
def resolveIndex (path result digits : List Char) : List Char :=
  let negIndex := '-' :: digits
  let parts := before negIndex path
  let arrayPath := if parts.getLast? = some '.' then parts.dropLast else parts
  match arrayLength arrayPath with
  | none => result
  | some length =>
    let actualIndex : Int := length - digitsValue digits
    if 0 ≤ actualIndex ∧ actualIndex < length then
      replaceFirst ('.' :: negIndex) ('.' :: Nat.toDigits 10 actualIndex.toNat) result
    else result

def processNegativeIndex (path : List Char) : List Char :=
  (negativeIndexes path).foldl (resolveIndex arrayLength path) path

/-! ## Segments -/

/-- A segment that is a negative index within an array stands for an index from the beginning. -/
def resolveSegment (earlier : List (List Char)) (segment : List Char) : List Char :=
  match leadingIndex segment, arrayLength (joined '.' earlier) with
  | some digits, some length =>
    if 1 ≤ digitsValue digits ∧ digitsValue digits ≤ length then
      Nat.toDigits 10 (length - digitsValue digits)
    else segment
  | _, _ => segment

/-- Every segment by those that stand before it in the path as it was given. -/
def resolveSegments (earlier : List (List Char)) : List (List Char) → List (List Char)
  | [] => []
  | segment :: segments =>
    resolveSegment arrayLength earlier segment :: resolveSegments (earlier ++ [segment]) segments

/-- Every segment by those before it that have been resolved. -/
def resolveInTurn (resolved : List (List Char)) : List (List Char) → List (List Char)
  | [] => resolved
  | segment :: segments =>
    resolveInTurn (resolved ++ [resolveSegment arrayLength resolved segment]) segments

/-- Every segment stands for the same by those before it as they were given and as they have been
resolved. -/
def ResolvedAlike (given resolved : List (List Char)) : List (List Char) → Prop
  | [] => True
  | segment :: segments =>
    resolveSegment arrayLength given segment = resolveSegment arrayLength resolved segment ∧
      ResolvedAlike (given ++ [segment])
        (resolved ++ [resolveSegment arrayLength resolved segment]) segments

end Resolve

/-- The index that a segment of a path is. -/
def index? (segment : List Char) : Option Nat :=
  if !segment.isEmpty && segment.all Char.isDigit then some (digitsValue segment) else none

/-- The value at a path of names and indexes. -/
def valueAt : List (List Char) → JSON → Option JSON
  | [], value => some value
  | name :: names, .object members =>
    (JSON.member? members (String.ofList name)).bind (valueAt names)
  | name :: names, .array items =>
    (index? name).bind fun index => items[index]?.bind (valueAt names)
  | _ :: _, _ => none

/-- The length of the array at a path, where a dot path is a path of names and indexes. -/
def arrayLengthAt (document : JSON) (path : List Char) : Option Nat :=
  match valueAt (split '.' path) document with
  | some (.array items) => some items.length
  | _ => none

/-- Negative indexes are whole segments, and the text of one is not part of a segment before it. -/
def SeparateIndexes (segments : List (List Char)) : Prop :=
  ∀ earlier segment later, segments = earlier ++ segment :: later → earlier ≠ [] →
    ∀ digits, leadingIndex segment = some digits →
      segment = '-' :: digits ∧ ∀ other ∈ earlier, ¬ segment <:+: other

variable {arrayLength : List Char → Option Nat}

theorem dot_notMem_toDigits (index : Nat) : '.' ∉ Nat.toDigits 10 index := by
  intro member
  exact absurd (Nat.isDigit_of_mem_toDigits (by decide) (by decide) member) (by decide)

theorem not_initial_toDigits (index : Nat) (digits : List Char) :
    ¬ '-' :: digits <+: Nat.toDigits 10 index := by
  intro initial
  have member := initial.mem mem_cons_self
  exact absurd (Nat.isDigit_of_mem_toDigits (by decide) (by decide) member) (by decide)

/-- A turn for an index that is a segment of its own resolves that segment. -/
theorem resolveIndex_segment {first digits : List Char} {segments done later : List (List Char)}
    {firstDone : List Char} (within : '.' ∉ digits)
    (absent : ∀ segment ∈ first :: segments, ¬ '-' :: digits <:+: segment)
    (free : ∀ segment ∈ firstDone :: done, '.' ∉ segment)
    (absentDone : ∀ segment ∈ done, ¬ '-' :: digits <+: segment)
    (isIndex : leadingIndex ('-' :: digits) = some digits) :
    resolveIndex arrayLength (joined '.' (first :: segments ++ ('-' :: digits) :: later))
        (joined '.' (firstDone :: done ++ ('-' :: digits) :: later)) digits =
      joined '.' (firstDone :: done ++
        resolveSegment arrayLength (first :: segments) ('-' :: digits) :: later) := by
  have inside : '.' ∉ '-' :: digits := by simp [within]
  have parts := before_joined (cons_ne_nil '-' digits) inside absent (later.flatMap ('.' :: ·))
  have arrayPath : (joined '.' (first :: segments) ++ ['.']).getLast? = some '.' :=
    getLast?_concat ..
  simp only [joined_append]
  simp only [resolveIndex, parts, arrayPath, if_true, dropLast_concat, resolveSegment, isIndex]
  cases arrayLength (joined '.' (first :: segments)) with
  | none => rfl
  | some length =>
    have bounds : (0 ≤ (length : Int) - digitsValue digits ∧
        (length : Int) - digitsValue digits < length) ↔
        1 ≤ digitsValue digits ∧ digitsValue digits ≤ length := by omega
    simp only [bounds]
    split
    · have toNat : ((length : Int) - digitsValue digits).toNat = length - digitsValue digits := by
        omega
      rw [toNat]
      exact replaceFirst_joined inside _ free absentDone _
    · rfl

theorem dot_notMem_of_leadingIndex {segment digits : List Char}
    (isIndex : leadingIndex segment = some digits) : '.' ∉ digits := by
  unfold leadingIndex at isIndex
  split at isIndex
  · split at isIndex
    · cases isIndex
    · cases isIndex
      exact fun member => absurd (mem_takeWhile_imp member) (by decide)
  · cases isIndex

theorem resolveSegment_cases (earlier : List (List Char)) (segment : List Char) :
    resolveSegment arrayLength earlier segment = segment ∨
      ∃ index, resolveSegment arrayLength earlier segment = Nat.toDigits 10 index := by
  unfold resolveSegment
  split
  · split
    · exact .inr ⟨_, rfl⟩
    · exact .inl rfl
  · exact .inl rfl

/-- The turns for the segments that are left, after those of the other segments. -/
theorem foldl_resolveIndex {path first : List Char} {later segments done : List (List Char)}
    (isPath : path = joined '.' (first :: segments ++ later))
    (separate : SeparateIndexes (first :: segments ++ later))
    (free : ∀ segment ∈ first :: segments ++ later, '.' ∉ segment)
    (isDone : ∀ segment ∈ done, segment ∈ segments ∨ ∃ index, segment = Nat.toDigits 10 index) :
    (later.filterMap leadingIndex).foldl (resolveIndex arrayLength path)
        (joined '.' (first :: done ++ later)) =
      joined '.' (first :: done ++ resolveSegments arrayLength (first :: segments) later) := by
  induction later generalizing segments done with
  | nil => rfl
  | cons segment later ih =>
    have shift : ∀ others : List (List Char), ∀ next rest,
        first :: others ++ next :: rest = first :: (others ++ [next]) ++ rest := by simp
    have next := @ih (segments ++ [segment])
      (done ++ [resolveSegment arrayLength (first :: segments) segment])
      (by rw [isPath, shift]) (by rw [← shift]; exact separate) (by rw [← shift]; exact free) ?_
    · rw [← shift done, ← shift done] at next
      refine Eq.trans ?_ next
      cases isIndex : leadingIndex segment with
      | none =>
        have unchanged : resolveSegment arrayLength (first :: segments) segment = segment := by
          simp only [resolveSegment, isIndex]
        rw [filterMap_cons_none isIndex, unchanged]
      | some digits =>
        obtain ⟨rfl, absent⟩ := separate (first :: segments) segment later rfl
          (cons_ne_nil _ _) digits isIndex
        rw [filterMap_cons_some isIndex, foldl_cons, isPath,
          resolveIndex_segment (dot_notMem_of_leadingIndex isIndex) absent ?_ ?_ isIndex]
        · intro other member
          rcases mem_cons.mp member with rfl | member
          · exact free other (by simp)
          · rcases isDone other member with original | ⟨index, rfl⟩
            · exact free other (by simp [original])
            · exact dot_notMem_toDigits index
        · intro other member
          rcases isDone other member with original | ⟨index, rfl⟩
          · exact fun initial =>
              absent other (mem_cons_of_mem first original) initial.isInfix
          · exact not_initial_toDigits index digits
    · intro other member
      rcases mem_append.mp member with member | member
      · exact (isDone other member).imp_left (mem_append_left _)
      · rw [mem_singleton.mp member]
        exact (resolveSegment_cases _ segment).imp_left fun same => by simp [same]

theorem dot_notMem_resolveSegment {segment : List Char} (free : '.' ∉ segment)
    (earlier : List (List Char)) : '.' ∉ resolveSegment arrayLength earlier segment := by
  rcases resolveSegment_cases earlier segment with same | ⟨index, isIndex⟩
  · rw [same]
    exact free
  · rw [isIndex]
    exact dot_notMem_toDigits index

theorem dot_notMem_of_mem_resolveSegments {earlier segments : List (List Char)}
    (free : ∀ segment ∈ segments, '.' ∉ segment) :
    ∀ segment ∈ resolveSegments arrayLength earlier segments, '.' ∉ segment := by
  induction segments generalizing earlier with
  | nil => simp [resolveSegments]
  | cons segment segments ih =>
    obtain ⟨here, free⟩ := forall_mem_cons.mp free
    exact forall_mem_cons.mpr ⟨dot_notMem_resolveSegment here earlier, ih free⟩

theorem prefix_resolveInTurn (resolved segments : List (List Char)) :
    resolved <+: resolveInTurn arrayLength resolved segments := by
  induction segments generalizing resolved with
  | nil => exact prefix_rfl
  | cons segment segments ih => exact (prefix_append resolved _).trans (ih _)

theorem resolveSegments_eq_inTurn_iff (given resolved segments : List (List Char)) :
    resolved ++ resolveSegments arrayLength given segments =
        resolveInTurn arrayLength resolved segments ↔
      ResolvedAlike arrayLength given resolved segments := by
  induction segments generalizing given resolved with
  | nil => simp [resolveSegments, resolveInTurn, ResolvedAlike]
  | cons segment segments ih =>
    rw [resolveSegments, resolveInTurn, ResolvedAlike, ← ih]
    by_cases same : resolveSegment arrayLength given segment =
        resolveSegment arrayLength resolved segment
    · simp [same]
    · -- the resolved segment stays, so that the lists differ there
      refine iff_of_false (fun equal => same ?_) fun alike => same alike.1
      obtain ⟨rest, isRest⟩ := @prefix_resolveInTurn arrayLength
        (resolved ++ [resolveSegment arrayLength resolved segment]) segments
      rw [← isRest, append_assoc, singleton_append] at equal
      exact (List.cons.inj (append_cancel_left equal)).1

/-- Every negative index is resolved by the array at the path before it, as that was given, and
every other segment stays.  The indexes are so resolved one after another exactly if each stands
for the same by the path before it as it was given and as it has been resolved. -/
theorem negative_indexes_resolved (arrayLength : List Char → Option Nat) (path : List Char)
    (first : List Char) (segments : List (List Char)) (isPath : split '.' path = first :: segments)
    (separate : SeparateIndexes (first :: segments)) :
    processNegativeIndex arrayLength path =
        joined '.' (first :: resolveSegments arrayLength [first] segments) ∧
      (split '.' (processNegativeIndex arrayLength path) =
          resolveInTurn arrayLength [first] segments ↔
        ResolvedAlike arrayLength [first] [first] segments) := by
  have isJoined : path = joined '.' (first :: segments) := by rw [← isPath, joined_split]
  have free : ∀ segment ∈ first :: segments, '.' ∉ segment := fun segment member =>
    separator_notMem_of_mem_split (isPath ▸ member)
  have run := @foldl_resolveIndex arrayLength path first segments [] [] isJoined separate free
    (fun _ member => by cases member)
  have resolves : processNegativeIndex arrayLength path =
      joined '.' (first :: resolveSegments arrayLength [first] segments) := by
    rw [processNegativeIndex, negativeIndexes, isPath]
    simpa only [drop_one, tail_cons, cons_append, nil_append, ← isJoined] using run
  obtain ⟨freeFirst, freeRest⟩ := forall_mem_cons.mp free
  refine ⟨resolves, ?_⟩
  rw [resolves, split_joined (cons_ne_nil first _) (forall_mem_cons.mpr
    ⟨freeFirst, dot_notMem_of_mem_resolveSegments freeRest⟩)]
  exact resolveSegments_eq_inTurn_iff [first] [first] segments

theorem last_element_resolved :
    let document := JSON.object [("arr", .array [.null, .null])]
    processNegativeIndex (arrayLengthAt document) "arr.-1.model".toList = "arr.1.model".toList ∧
      split '.' (processNegativeIndex (arrayLengthAt document) "arr.-1.model".toList) =
        resolveInTurn (arrayLengthAt document) ["arr".toList] ["-1".toList, "model".toList] := by
  have separate : SeparateIndexes ["arr".toList, "-1".toList, "model".toList] := by
    intro earlier segment later isAll some digits isIndex
    rcases earlier with _ | ⟨first, _ | ⟨second, _ | ⟨third, others⟩⟩⟩
    · exact absurd rfl some
    · cases isAll
      cases isIndex
      exact ⟨rfl, by decide⟩
    · cases isAll
      cases isIndex
    · simp at isAll
  obtain ⟨resolves, inTurn⟩ := negative_indexes_resolved
    (arrayLengthAt (.object [("arr", .array [.null, .null])])) "arr.-1.model".toList "arr".toList
    ["-1".toList, "model".toList] rfl separate
  exact ⟨resolves.trans (by decide), inTurn.mpr ⟨rfl, rfl, trivial⟩⟩

/-- The second of two equal indexes is resolved by the array of the first. -/
theorem repeated_index_misread :
    let document := JSON.object [("a", .array [.array [.null, .null]])]
    processNegativeIndex (arrayLengthAt document) "a.-1.-1".toList = "a.0.0".toList ∧
      joined '.' (resolveInTurn (arrayLengthAt document) ["a".toList]
        ["-1".toList, "-1".toList]) = "a.0.1".toList := by
  decide

end AiHub.Relay

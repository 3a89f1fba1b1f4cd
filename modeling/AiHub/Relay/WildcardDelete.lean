import AiHub.Relay.NegativeIndex

/-!
# Deleting by a path with wildcards

A path with wildcards is first expanded to the paths that it matches, and these are deleted one
after another.  They are texts again: a name that contains a dot is read as two, and after the
deletion of an element the indexes of those behind it are lower by one.

Deletion at one path is done by `sjson`, of which only paths of plain names are relied on.
-/

namespace AiHub.Relay

open AiHub.Library List

/-! ## Expansion -/

/-- A segment without the spaces around it. -/
def trimmed (segment : List Char) : List Char := (trimSpace (String.ofList segment)).toList

def sortedKeys (members : List (String × JSON)) : List String :=
  (members.map Prod.fst).insertionSort (· ≤ ·)

/-- The paths that a segment matches at a node, continued by those that the other segments match
at its children. -/
def expandSegment (segment : List Char) (isLast : Bool)
    (collect : JSON → List (List (List Char))) (node : JSON) : List (List (List Char)) :=
  if segment = [] then []
  else if segment = ['*'] then
    match node with
    | .object members => (sortedKeys members).flatMap fun key =>
      (collect (JSON.member members key)).map (key.toList :: ·)
    | .array items => (List.range items.length).flatMap fun index =>
      (collect (items.getD index .null)).map (Nat.toDigits 10 index :: ·)
    | _ => []
  else
    match node with
    | .object members =>
      -- the last name need not exist
      if isLast then [[segment]]
      else
        match JSON.member? members (String.ofList segment) with
        | none => []
        | some child => (collect child).map (segment :: ·)
    | .array items =>
      match (index? segment).filter (· < items.length) with
      | none => []
      | some index => (collect (items.getD index .null)).map (segment :: ·)
    | _ => []

/-- The paths that a pattern matches, each as the list of its segments. -/
def collectWildcardPaths : List (List Char) → JSON → List (List (List Char))
  | [] => fun _ => [[]]
  | next :: segments =>
    expandSegment (trimmed next) (segments = []) (collectWildcardPaths segments)

def expandWildcardPaths (data : JSON) (path : List Char) : List (List Char) :=
  ((collectWildcardPaths (split '.' path) data).map (joined '.')).eraseDups

def resolveOperationPaths (data : JSON) (path : List Char) : List (List Char) :=
  if '*' ∈ path then expandWildcardPaths data path else [path]

/-! ## Deletion -/

def updateMember (name : String) (change : JSON → JSON) (members : List (String × JSON)) :
    List (String × JSON) :=
  members.map fun entry => if entry.1 = name then (entry.1, change entry.2) else entry

/-- Deletion at names of members and indexes of elements; what is not there is not deleted. -/
def deleteAt : List (List Char) → JSON → JSON
  | [], node => node
  | name :: names, .object members =>
    .object (if names = [] then members.filter (·.1 ≠ String.ofList name)
      else updateMember (String.ofList name) (deleteAt names) members)
  | name :: names, .array items =>
    match index? name with
    | none => .array items
    | some index =>
      .array (if names = [] then items.eraseIdx index else items.modify index (deleteAt names))
  | _ :: _, node => node

/-- A name that `sjson` takes as it stands: it has no signs of patterns, escapes or queries and
is neither the end of an array nor an index that overflows. -/
def plainName (name : List Char) : Bool :=
  name ≠ [] && name ≠ ['-', '1'] && name.all (· ∉ ['.', '\\', '*', '?', '#', '@', '|']) &&
    name.head?.all (· ∉ [':', '!', '[', '\x7b']) && (index? name).all (· < 9223372036854775808)

section Operation

-- `sjson.DeleteBytes`
variable (delete : List Char → JSON → Except String JSON)

/-- Plain names are read as they stand. -/
def ReadsPlainPaths : Prop :=
  ∀ names node, names ≠ [] → (∀ name ∈ names, plainName name = true) →
    delete (joined '.' names) node = .ok (deleteAt names node)

def deleteValue (data : JSON) (path : List Char) : Except String JSON :=
  if trimSpace (String.ofList path) = "" then .ok data else delete path data

/-- The operation `delete` at a path whose negative indexes have been resolved. -/
def deleteOperation (data : JSON) (opPath : List Char) : Except String JSON :=
  ((resolveOperationPaths data opPath).foldlM (deleteValue delete) data).mapError
    ("operation delete failed: " ++ ·)

end Operation

/-! ## What it is for -/

def matchesName (segment : List Char) (name : String) : Bool :=
  segment ≠ [] && (segment = ['*'] || segment = name.toList)

def matchesIndex (segment : List Char) (index : Nat) : Bool :=
  segment = ['*'] || index? segment = some index

/-- A document without the nodes that a pattern matches. -/
def withoutMatches : List (List Char) → JSON → JSON
  | [], node => node
  | next :: segments, .object members =>
    .object (if segments = [] then members.filter fun entry => !matchesName (trimmed next) entry.1
      else members.map fun entry =>
        if matchesName (trimmed next) entry.1 then (entry.1, withoutMatches segments entry.2)
        else entry)
  | next :: segments, .array items =>
    .array (if segments = [] then
        if trimmed next = ['*'] then []
        else (index? (trimmed next)).elim items items.eraseIdx
      else items.mapIdx fun index item =>
        if matchesIndex (trimmed next) index then withoutMatches segments item else item)
  | _ :: _, node => node

/-- A child of a node that a segment matches, by its name in the paths. -/
inductive MatchedChild (segment : List Char) : JSON → List Char × JSON → Prop where
  | member {members : List (String × JSON)} {entry : String × JSON} (isMember : entry ∈ members)
      (isMatch : matchesName segment entry.1 = true) :
      MatchedChild segment (.object members) (entry.1.toList, entry.2)
  | element {items : List JSON} {index : Nat} {item : JSON} {name : List Char}
      (isItem : items[index]? = some item) (isMatch : matchesIndex segment index = true)
      (isName : name = Nat.toDigits 10 index ∨ name = segment) :
      MatchedChild segment (.array items) (name, item)

/-- What holds of a node for the segments of a pattern, and of the children that the first of
them matches for the others. -/
def AlongMatches (holds : List (List Char) → JSON → Prop) : List (List Char) → JSON → Prop
  | [], node => holds [] node
  | next :: segments, node => holds (next :: segments) node ∧
      ∀ child, MatchedChild (trimmed next) node child → AlongMatches holds segments child.2

def DistinctNames (node : JSON) : Prop :=
  ∀ members, node = .object members → (members.map Prod.fst).Nodup

/-- A wildcard at the end does not match several elements. -/
def SingleAtEnd (segments : List (List Char)) (node : JSON) : Prop :=
  ∀ items, node = .array items → segments.map trimmed = [['*']] → items.length ≤ 1

/-! ## Deleting paths one after another -/

def deleteAll (paths : List (List (List Char))) (node : JSON) : JSON :=
  paths.foldl (fun node path => deleteAt path node) node

theorem deleteAll_append (first second : List (List (List Char))) (node : JSON) :
    deleteAll (first ++ second) node = deleteAll second (deleteAll first node) :=
  foldl_append

theorem updateMember_id (name : String) (members : List (String × JSON)) :
    updateMember name id members = members := by
  simp [updateMember]

theorem updateMember_updateMember (name : String) (first second : JSON → JSON)
    (members : List (String × JSON)) :
    updateMember name second (updateMember name first members) =
      updateMember name (second ∘ first) members := by
  simp only [updateMember, map_map]
  refine map_congr_left fun entry _ => ?_
  by_cases isName : entry.1 = name <;> simp [isName]

/-- Deletions below a member change that member only. -/
theorem deleteAll_below_member (name : List Char) {paths : List (List (List Char))}
    (below : ∀ path ∈ paths, path ≠ []) (members : List (String × JSON)) :
    deleteAll (paths.map (name :: ·)) (.object members) =
      .object (updateMember (String.ofList name) (deleteAll paths) members) := by
  induction paths generalizing members with
  | nil => exact congrArg JSON.object (updateMember_id _ members).symm
  | cons path paths ih =>
    have first : deleteAt (name :: path) (.object members) =
        .object (updateMember (String.ofList name) (deleteAt path) members) := by
      rw [deleteAt, if_neg (below path mem_cons_self)]
    have rest := ih (fun other member => below other (mem_cons_of_mem path member))
    refine (congrArg (deleteAll (paths.map (name :: ·))) first).trans ((rest _).trans ?_)
    rw [updateMember_updateMember]
    rfl

/-- Deletions below an element change that element only. -/
theorem deleteAll_below_element {name : List Char} {index : Nat}
    (isIndex : index? name = some index) {paths : List (List (List Char))}
    (below : ∀ path ∈ paths, path ≠ []) (items : List JSON) :
    deleteAll (paths.map (name :: ·)) (.array items) =
      .array (items.modify index (deleteAll paths)) := by
  induction paths generalizing items with
  | nil => exact congrArg JSON.array (modify_id index items).symm
  | cons path paths ih =>
    have first : deleteAt (name :: path) (.array items) =
        .array (items.modify index (deleteAt path)) := by
      simp only [deleteAt, isIndex, if_neg (below path mem_cons_self)]
    have rest := ih (fun other member => below other (mem_cons_of_mem path member))
    refine (congrArg (deleteAll (paths.map (name :: ·))) first).trans ((rest _).trans ?_)
    rw [modify_modify_eq]
    rfl

theorem deleteAll_members (keys : List String) (members : List (String × JSON)) :
    deleteAll (keys.map fun key => [key.toList]) (.object members) =
      .object (members.filter (·.1 ∉ keys)) := by
  induction keys generalizing members with
  | nil => simp [deleteAll]
  | cons key keys ih =>
    have first : deleteAt [key.toList] (.object members) =
        .object (members.filter (·.1 ≠ key)) := by
      simp only [deleteAt, if_true, String.ofList_toList]
    refine (congrArg (deleteAll (keys.map fun key => [key.toList])) first).trans ((ih _).trans ?_)
    simp [Bool.and_comm]

/-- Deletions below several members change each of them on its own. -/
theorem deleteAll_below_members {keys : List String} (distinct : keys.Nodup)
    {paths : String → List (List (List Char))} (below : ∀ key, ∀ path ∈ paths key, path ≠ [])
    (members : List (String × JSON)) :
    deleteAll (keys.flatMap fun key => (paths key).map (key.toList :: ·)) (.object members) =
      .object (members.map fun entry =>
        if entry.1 ∈ keys then (entry.1, deleteAll (paths entry.1) entry.2) else entry) := by
  induction keys generalizing members with
  | nil => simp [deleteAll]
  | cons key keys ih =>
    obtain ⟨notLater, distinct⟩ := nodup_cons.mp distinct
    rw [flatMap_cons, deleteAll_append, deleteAll_below_member _ (below key), ih distinct,
      updateMember, map_map, String.ofList_toList]
    refine congrArg JSON.object (map_congr_left fun entry _ => ?_)
    by_cases isKey : entry.1 = key
    · simp [isKey, notLater]
    · simp [isKey]

theorem index?_toDigits (index : Nat) : index? (Nat.toDigits 10 index) = some index := by
  have digits : (Nat.toDigits 10 index).all Char.isDigit = true := all_eq_true.mpr
    fun _ member => Nat.isDigit_of_mem_toDigits (by decide) (by decide) member
  have some : Nat.toDigits 10 index ≠ [] := Nat.toDigits_ne_nil
  rw [index?, digits, digitsValue, Nat.ofDigitChars_toDigits (by decide) (by decide)]
  simp [some]

/-- Deletions below several elements change each of them on its own. -/
theorem deleteAll_below_elements {paths : Nat → List (List (List Char))}
    (below : ∀ index, ∀ path ∈ paths index, path ≠ []) (count : Nat) (items : List JSON) :
    deleteAll ((List.range count).flatMap fun index =>
        (paths index).map (Nat.toDigits 10 index :: ·)) (.array items) =
      .array (items.mapIdx fun index item =>
        if index < count then deleteAll (paths index) item else item) := by
  induction count with
  | zero => exact congrArg JSON.array (ext_getElem? fun index => by simp)
  | succ count ih =>
    rw [range_succ, flatMap_append, deleteAll_append, ih, flatMap_singleton,
      deleteAll_below_element (index?_toDigits count) (below count)]
    refine congrArg JSON.array (ext_getElem? fun index => ?_)
    rw [getElem?_modify, getElem?_mapIdx, getElem?_mapIdx]
    cases items[index]? with
    | none => rfl
    | some item =>
      rcases Nat.lt_trichotomy index count with lower | rfl | higher
      · simp [lower, lower.ne', lower.trans (Nat.lt_succ_self count)]
      · simp
      · simp [higher.ne, higher.not_gt, Nat.not_lt.mpr higher]

theorem mem_of_member? {members : List (String × JSON)} {key : String} {value : JSON}
    (found : JSON.member? members key = some value) : (key, value) ∈ members := by
  obtain ⟨entry, isEntry, rfl⟩ := Option.map_eq_some_iff.mp found
  have isKey := find?_some isEntry
  simp only [decide_eq_true_eq] at isKey
  rw [← isKey]
  exact mem_of_find?_eq_some isEntry

theorem exists_member? {members : List (String × JSON)} {key : String}
    (isKey : key ∈ members.map Prod.fst) : ∃ value, JSON.member? members key = some value := by
  rw [← Option.isSome_iff_exists, JSON.member?, Option.isSome_map, find?_isSome]
  simpa using isKey

theorem toDigits_injective : Function.Injective (Nat.toDigits 10) := by
  intro first second same
  have isIndex := index?_toDigits first
  rw [same, index?_toDigits] at isIndex
  exact (Option.some.inj isIndex).symm

/-- Paths that are collected below the children that a segment matches, in some order. -/
def BelowChildren (segment : List Char) (collect : JSON → List (List (List Char))) (node : JSON)
    (paths : List (List (List Char))) : Prop :=
  ∃ children : List (List Char × JSON), (∀ child ∈ children, MatchedChild segment node child) ∧
    (DistinctNames node → (children.map Prod.fst).Nodup) ∧
    paths = children.flatMap fun child => (collect child.2).map (child.1 :: ·)

/-- The paths at a node are collected below its children, or there is the last name of an object
only. -/
theorem expandSegment_cases (segment : List Char) (isLast : Bool)
    (collect : JSON → List (List (List Char))) (node : JSON) :
    expandSegment segment isLast collect node = [[segment]] ∨
      BelowChildren segment collect node (expandSegment segment isLast collect node) := by
  have noChildren : expandSegment segment isLast collect node = [] →
      BelowChildren segment collect node (expandSegment segment isLast collect node) :=
    fun empty => ⟨[], by simp, by simp, by simp [empty]⟩
  by_cases empty : segment = []
  · exact .inr (noChildren (by simp [expandSegment, empty]))
  by_cases isStar : segment = ['*']
  · subst isStar
    cases node with
    | object members =>
      refine .inr ⟨(sortedKeys members).map fun key => (key.toList, JSON.member members key),
        ?_, fun distinct => ?_, ?_⟩
      · intro child isChild
        obtain ⟨key, isKey, rfl⟩ := mem_map.mp isChild
        obtain ⟨value, found⟩ := exists_member? ((mem_insertionSort _).mp isKey)
        rw [JSON.member, found]
        exact .member (mem_of_member? found) (by simp [matchesName])
      · rw [map_map]
        have keys := (perm_insertionSort (· ≤ ·) _).nodup_iff.mpr (distinct members rfl)
        exact keys.map fun _ _ => String.toList_inj.mp
      · simp [expandSegment, flatMap_map]
    | array items =>
      refine .inr ⟨(List.range items.length).map fun index =>
        (Nat.toDigits 10 index, items.getD index .null), ?_, fun _ => ?_, ?_⟩
      · intro child isChild
        obtain ⟨index, isIndex, rfl⟩ := mem_map.mp isChild
        have isItem := getElem?_eq_getElem (mem_range.mp isIndex)
        rw [getD_eq_getElem?_getD, isItem]
        exact .element isItem (by simp [matchesIndex]) (.inl rfl)
      · rw [map_map]
        exact nodup_range.map toDigits_injective
      · simp [expandSegment, flatMap_map]
    | _ => exact .inr (noChildren (by simp [expandSegment]))
  · cases node with
    | object members =>
      cases isLast with
      | true => exact .inl (by simp [expandSegment, empty, isStar])
      | false =>
        cases found : JSON.member? members (String.ofList segment) with
        | none => exact .inr (noChildren (by simp [expandSegment, isStar, found]))
        | some child =>
          have isMatch : matchesName segment (String.ofList segment) = true := by
            simp [matchesName, empty]
          have here := MatchedChild.member (mem_of_member? found) isMatch
          exact .inr ⟨[(segment, child)], by simpa using here, by simp,
            by simp [expandSegment, empty, isStar, found]⟩
    | array items =>
      cases found : (index? segment).filter (· < items.length) with
      | none => exact .inr (noChildren (by simp [expandSegment, isStar, found]))
      | some index =>
        obtain ⟨isIndex, within⟩ := Option.filter_eq_some_iff.mp found
        have isItem := getElem?_eq_getElem (of_decide_eq_true within)
        refine .inr ⟨[(segment, items.getD index .null)], ?_, by simp,
          by simp [expandSegment, empty, isStar, found]⟩
        rw [getD_eq_getElem?_getD, isItem, forall_mem_singleton]
        exact .element isItem (by simp [matchesIndex, isIndex]) (.inr rfl)
    | _ => exact .inr (noChildren (by simp [expandSegment, isStar]))

theorem ne_nil_of_collected {segments : List (List Char)} (some : segments ≠ []) {node : JSON}
    {path : List (List Char)} (collected : path ∈ collectWildcardPaths segments node) :
    path ≠ [] := by
  obtain ⟨next, segments, rfl⟩ := exists_cons_of_ne_nil some
  rcases expandSegment_cases (trimmed next) (segments = []) (collectWildcardPaths segments) node
    with last | ⟨children, -, -, expands⟩
  · rw [collectWildcardPaths, last, mem_singleton] at collected
    simp [collected]
  · rw [collectWildcardPaths, expands] at collected
    obtain ⟨child, -, collected⟩ := mem_flatMap.mp collected
    obtain ⟨rest, -, rfl⟩ := mem_map.mp collected
    exact cons_ne_nil _ _

/-! ## The deletion of all matches -/

/-- The child at a name among distinct names. -/
theorem member?_of_mem {members : List (String × JSON)} (distinct : (members.map Prod.fst).Nodup)
    {entry : String × JSON} (isEntry : entry ∈ members) :
    JSON.member? members entry.1 = some entry.2 := by
  obtain ⟨value, found⟩ := exists_member? (mem_map_of_mem isEntry)
  have same := inj_on_of_nodup_map distinct (mem_of_member? found) isEntry rfl
  rw [found, ← same]

/-- Changing one element. -/
theorem mapIdx_eq_modify (index : Nat) (change : JSON → JSON) (items : List JSON) :
    (items.mapIdx fun other item => if index = other then change item else item) =
      items.modify index change := by
  refine ext_getElem? fun other => ?_
  rw [getElem?_modify, getElem?_mapIdx]
  rfl

/-- What deleting the paths that a pattern matches leaves. -/
def deleteMatches (segments : List (List Char)) (node : JSON) : JSON :=
  deleteAll (collectWildcardPaths segments node) node

section Step

variable {next : List Char} {segments : List (List Char)} {members : List (String × JSON)}
  {items : List JSON} {segment : List Char}

theorem mem_sortedKeys {entry : String × JSON} (isEntry : entry ∈ members) :
    entry.1 ∈ sortedKeys members := by
  rw [sortedKeys, mem_insertionSort]
  exact mem_map_of_mem isEntry

theorem matchesName_wildcard (name : String) : matchesName ['*'] name = true := by
  simp [matchesName]

theorem matchesName_name (notStar : segment ≠ ['*']) (notEmpty : segment ≠ [])
    (name : String) : matchesName segment name = decide (name = String.ofList segment) := by
  have isName : segment = name.toList ↔ name = String.ofList segment := by
    rw [← String.toList_inj, String.toList_ofList, eq_comm]
  simp [matchesName, notEmpty, notStar, isName]

theorem deleteMatches_last_object :
    deleteMatches [next] (.object members) = withoutMatches [next] (.object members) := by
  by_cases isStar : trimmed next = ['*']
  · have deleted := deleteAll_members (sortedKeys members) members
    rw [map_eq_flatMap] at deleted
    simp only [deleteMatches, collectWildcardPaths, expandSegment, withoutMatches, isStar,
      map_cons, map_nil, matchesName_wildcard, if_true, cons_ne_nil, if_false,
      Bool.not_true, filter_false]
    refine deleted.trans (congrArg JSON.object (filter_eq_nil_iff.mpr ?_))
    intro entry isEntry
    simpa using mem_sortedKeys isEntry
  by_cases empty : trimmed next = []
  · simp [deleteMatches, collectWildcardPaths, expandSegment, withoutMatches, empty, deleteAll,
      matchesName]
  · simp only [deleteMatches, collectWildcardPaths, expandSegment, decide_true, withoutMatches,
      empty, isStar, if_false, if_true, deleteAll, foldl_cons, foldl_nil, deleteAt,
      matchesName_name isStar empty]
    simp

/-- Below the members that a segment matches, the other segments are deleted. -/
theorem deleteMatches_object (some : segments ≠ []) (distinct : (members.map Prod.fst).Nodup) :
    deleteMatches (next :: segments) (.object members) =
      .object (members.map fun entry => if matchesName (trimmed next) entry.1 then
        (entry.1, deleteMatches segments entry.2) else entry) := by
  unfold deleteMatches
  by_cases isStar : trimmed next = ['*']
  · have distinctKeys : (sortedKeys members).Nodup :=
      (perm_insertionSort _ _).nodup_iff.mpr distinct
    simp only [collectWildcardPaths, expandSegment, isStar, cons_ne_nil, if_false, if_true,
      matchesName_wildcard]
    rw [deleteAll_below_members distinctKeys fun key path => ne_nil_of_collected some]
    refine congrArg JSON.object (map_congr_left fun entry isEntry => ?_)
    rw [if_pos (mem_sortedKeys isEntry), JSON.member, member?_of_mem distinct isEntry,
      Option.getD_some]
  by_cases empty : trimmed next = []
  · simp [collectWildcardPaths, expandSegment, empty, deleteAll, matchesName]
  simp only [collectWildcardPaths, expandSegment, decide_eq_true_eq, empty, isStar, if_false, some,
    matchesName_name isStar empty]
  cases found : JSON.member? members (String.ofList (trimmed next)) with
  | none =>
    refine congrArg JSON.object ((map_congr_left fun entry isEntry => ?_).trans (map_id' _)).symm
    refine if_neg fun isName => ?_
    rw [← isName, member?_of_mem distinct isEntry] at found
    cases found
  | some child =>
    rw [deleteAll_below_member _ fun path => ne_nil_of_collected some]
    refine congrArg JSON.object (map_congr_left fun entry isEntry => ?_)
    by_cases isName : entry.1 = String.ofList (trimmed next)
    · rw [← isName, member?_of_mem distinct isEntry] at found
      cases found
      rw [if_pos isName]
    · rw [if_neg isName, if_neg isName]

theorem ne_nil_of_index? {index : Nat} (isIndex : index? segment = some index) : segment ≠ [] := by
  rintro rfl
  cases isIndex

theorem deleteAt_element (index : Nat) :
    deleteAt [Nat.toDigits 10 index] (.array items) = .array (items.eraseIdx index) := by
  simp only [deleteAt, index?_toDigits, if_true]

theorem deleteAll_behind_first (item : JSON) (indexes : List Nat) (items : List JSON) :
    ∃ rest, deleteAll (indexes.map fun index => [Nat.toDigits 10 (index + 1)])
      (.array (item :: items)) = .array (item :: rest) := by
  induction indexes generalizing items with
  | nil => exact ⟨items, rfl⟩
  | cons index indexes ih =>
    obtain ⟨rest, remains⟩ := ih (items.eraseIdx index)
    refine ⟨rest, remains ▸ ?_⟩
    rw [map_cons, deleteAll, foldl_cons, deleteAt_element]
    rfl

/-- The elements of an array are all deleted only if there is not a second one, which takes the
place of the first. -/
theorem deleteMatches_elements_iff (isStar : trimmed next = ['*']) :
    deleteMatches [next] (.array items) = .array [] ↔ items.length ≤ 1 := by
  have paths : collectWildcardPaths [next] (.array items) =
      (List.range items.length).map fun index => [Nat.toDigits 10 index] := by
    simp [collectWildcardPaths, expandSegment, isStar, map_eq_flatMap]
  rw [deleteMatches, paths]
  have first : ∀ count item items,
      deleteAll ((List.range (count + 1)).map fun index => [Nat.toDigits 10 index])
          (.array (item :: items)) =
        deleteAll ((List.range count).map fun index => [Nat.toDigits 10 (index + 1)])
          (.array items) := by
    intro count item items
    rw [range_succ_eq_map, map_cons, map_map, deleteAll, foldl_cons, deleteAt_element]
    rfl
  rcases items with _ | ⟨item, _ | ⟨second, items⟩⟩
  · simp [deleteAll]
  · rw [length_singleton, first]
    simp [deleteAll]
  · obtain ⟨rest, remains⟩ := deleteAll_behind_first second (List.range (items.length + 1)) items
    rw [length_cons, length_cons, first, remains]
    simp

theorem deleteMatches_last_array :
    deleteMatches [next] (.array items) = withoutMatches [next] (.array items) ↔
      (trimmed next = ['*'] → items.length ≤ 1) := by
  by_cases isStar : trimmed next = ['*']
  · simpa [withoutMatches, isStar] using deleteMatches_elements_iff isStar
  cases isIndex : index? (trimmed next) with
  | none =>
    simp [deleteMatches, collectWildcardPaths, expandSegment, withoutMatches, isStar, isIndex,
      deleteAll]
  | some index =>
    have notEmpty := ne_nil_of_index? isIndex
    by_cases within : index < items.length
    · simp [deleteMatches, collectWildcardPaths, expandSegment, withoutMatches, isStar, isIndex,
        notEmpty, within, deleteAll, deleteAt, Option.filter_some]
    · simp [deleteMatches, collectWildcardPaths, expandSegment, withoutMatches, isStar, isIndex,
        notEmpty, within, deleteAll, Option.filter_some,
        eraseIdx_of_length_le (Nat.not_lt.mp within)]

/-- Below the elements that a segment matches, the other segments are deleted. -/
theorem deleteMatches_array (some : segments ≠ []) :
    deleteMatches (next :: segments) (.array items) =
      .array (items.mapIdx fun index item => if matchesIndex (trimmed next) index then
        deleteMatches segments item else item) := by
  unfold deleteMatches
  by_cases isStar : trimmed next = ['*']
  · have isMatch : ∀ index, matchesIndex ['*'] index = true := by simp [matchesIndex]
    simp only [collectWildcardPaths, expandSegment, isStar, cons_ne_nil, if_false, if_true, isMatch]
    rw [deleteAll_below_elements fun index path => ne_nil_of_collected some]
    refine congrArg JSON.array (mapIdx_eq_mapIdx_iff.mpr fun index within => ?_)
    rw [if_pos within, getD_eq_getElem?_getD, getElem?_eq_getElem within, Option.getD_some]
  have isMatch : ∀ index, matchesIndex (trimmed next) index =
      decide (index? (trimmed next) = Option.some index) := by simp [matchesIndex, isStar]
  cases isIndex : index? (trimmed next) with
  | none =>
    have unchanged : items.mapIdx (fun _ item => item) = items :=
      ext_getElem? fun index => by simp
    simp [collectWildcardPaths, expandSegment, isStar, isIndex, isMatch, deleteAll, unchanged]
  | some index =>
    have notEmpty := ne_nil_of_index? isIndex
    simp only [collectWildcardPaths, expandSegment, notEmpty, isStar, if_false, isIndex, isMatch,
      Option.some.injEq, decide_eq_true_eq, mapIdx_eq_modify]
    by_cases within : index < items.length
    · have isItem := getElem?_eq_getElem within
      rw [Option.filter_some, if_pos (decide_eq_true within)]
      rw [deleteAll_below_element isIndex fun path => ne_nil_of_collected some]
      refine congrArg JSON.array (ext_getElem? fun other => ?_)
      by_cases here : index = other
      · subst here
        simp [isItem]
      · simp [here]
    · rw [Option.filter_some, if_neg (by simpa using within), modify_eq_self (Nat.not_lt.mp within)]
      simp [deleteAll]

theorem forall_matchedChild_object {holds : JSON → Prop} :
    (∀ child, MatchedChild segment (.object members) child → holds child.2) ↔
      ∀ entry ∈ members, matchesName segment entry.1 = true → holds entry.2 := by
  constructor
  · intro all entry isMember isMatch
    exact all _ (.member isMember isMatch)
  · intro all child isChild
    cases isChild with
    | member isMember isMatch => exact all _ isMember isMatch

theorem forall_matchedChild_array {holds : JSON → Prop} :
    (∀ child, MatchedChild segment (.array items) child → holds child.2) ↔
      ∀ (index : Nat) (within : index < items.length), matchesIndex segment index = true →
        holds items[index] := by
  constructor
  · intro all index within isMatch
    exact all _ (.element (getElem?_eq_getElem within) isMatch (.inl rfl))
  · intro all child isChild
    cases isChild with
    | element isItem isMatch _ =>
      obtain ⟨within, rfl⟩ := List.getElem?_eq_some_iff.mp isItem
      exact all _ within isMatch

end Step

/-- The paths that a pattern matches, deleted one after another, are all that is deleted exactly
if no wildcard at the end matches several elements. -/
theorem deleteMatches_iff {segments : List (List Char)} {node : JSON}
    (distinct : AlongMatches (fun _ => DistinctNames) segments node) :
    deleteMatches segments node = withoutMatches segments node ↔
      AlongMatches SingleAtEnd segments node := by
  induction segments generalizing node with
  | nil => simp [deleteMatches, collectWildcardPaths, deleteAll, deleteAt, withoutMatches,
      AlongMatches, SingleAtEnd]
  | cons next segments ih =>
    obtain ⟨names, below⟩ := distinct
    cases node with
    | object members =>
      rw [forall_matchedChild_object] at below
      rw [AlongMatches, forall_matchedChild_object]
      by_cases isLast : segments = []
      · subst isLast
        simp [deleteMatches_last_object, AlongMatches, SingleAtEnd]
      · rw [deleteMatches_object isLast (names members rfl)]
        simp only [withoutMatches, isLast, if_false, JSON.object.injEq, map_inj_left]
        refine Iff.trans ?_ (and_iff_right (by simp [SingleAtEnd])).symm
        refine forall₂_congr fun entry isMember => ?_
        by_cases isMatch : matchesName (trimmed next) entry.1 = true
        · simp [isMatch, ih (below entry isMember isMatch)]
        · simp [isMatch]
    | array items =>
      rw [forall_matchedChild_array] at below
      rw [AlongMatches, forall_matchedChild_array]
      by_cases isLast : segments = []
      · subst isLast
        simp [deleteMatches_last_array, AlongMatches, SingleAtEnd]
      · rw [deleteMatches_array isLast]
        simp only [withoutMatches, isLast, if_false, JSON.array.injEq, mapIdx_eq_mapIdx_iff]
        refine Iff.trans ?_ (and_iff_right (by simp [SingleAtEnd, isLast])).symm
        refine forall₂_congr fun index within => ?_
        by_cases isMatch : matchesIndex (trimmed next) index = true
        · simp [isMatch, ih (below index within isMatch)]
        · simp [isMatch]
    | _ =>
      refine iff_of_true ?_ ⟨by simp [SingleAtEnd], fun child isChild => by cases isChild⟩
      simp [deleteMatches, collectWildcardPaths, expandSegment, withoutMatches, deleteAll]

/-! ## Paths as texts -/

theorem collected_nodup {segments : List (List Char)} {node : JSON}
    (distinct : AlongMatches (fun _ => DistinctNames) segments node) :
    (collectWildcardPaths segments node).Nodup := by
  induction segments generalizing node with
  | nil => simp [collectWildcardPaths]
  | cons next segments ih =>
    rcases expandSegment_cases (trimmed next) (segments = []) (collectWildcardPaths segments) node
      with last | ⟨children, matched, names, expands⟩
    · rw [collectWildcardPaths, last]
      exact nodup_singleton _
    · rw [collectWildcardPaths, expands]
      refine nodup_flatMap.mpr ⟨fun child isChild => ?_, ?_⟩
      · exact (ih (distinct.2 child (matched child isChild))).map cons_injective
      · refine (pairwise_map.mp (names distinct.1)).imp fun {first second} different => ?_
        intro path inFirst inSecond
        obtain ⟨rest, -, rfl⟩ := mem_map.mp inFirst
        obtain ⟨other, -, same⟩ := mem_map.mp inSecond
        exact different (List.cons.inj same).1.symm

theorem eraseDups_of_nodup {α : Type} [BEq α] [LawfulBEq α] {items : List α}
    (distinct : items.Nodup) : items.eraseDups = items := by
  induction items with
  | nil => rfl
  | cons item items ih =>
    obtain ⟨notLater, distinct⟩ := nodup_cons.mp distinct
    have kept : items.filter (fun other => !other == item) = items :=
      filter_eq_self.mpr fun other member => by
        simp only [Bool.not_eq_true', beq_eq_false_iff_ne]
        rintro rfl
        exact notLater member
    rw [eraseDups_cons, kept, ih distinct]

theorem dot_notMem_of_plainName {name : List Char} (plain : plainName name = true) :
    '.' ∉ name := by
  simp only [plainName, Bool.and_eq_true, all_eq_true] at plain
  intro member
  exact absurd (plain.1.1.2 '.' member) (by decide)

theorem foldlM_deleteValue {delete : List Char → JSON → Except String JSON}
    (reads : ReadsPlainPaths delete) {paths : List (List (List Char))}
    (plain : ∀ path ∈ paths, path ≠ [] ∧ (∀ name ∈ path, plainName name = true) ∧
      trimSpace (String.ofList (joined '.' path)) ≠ "") (node : JSON) :
    (paths.map (joined '.')).foldlM (deleteValue delete) node = .ok (deleteAll paths node) := by
  induction paths generalizing node with
  | nil => rfl
  | cons path paths ih =>
    obtain ⟨⟨some, names, named⟩, others⟩ := forall_mem_cons.mp plain
    rw [map_cons, foldlM_cons, deleteValue, if_neg named, reads path node some names]
    exact ih others _

/-- Where a path expands to paths of plain names, of which none is blank, a wildcard deletes
exactly what it matches if and only if it does not match several elements of an array at its
end. -/
theorem wildcard_deletes_matches (delete : List Char → JSON → Except String JSON)
    (reads : ReadsPlainPaths delete) (document : JSON) (opPath : List Char)
    (wildcard : '*' ∈ opPath)
    (distinct : AlongMatches (fun _ => DistinctNames) (split '.' opPath) document)
    (plain : ∀ path ∈ collectWildcardPaths (split '.' opPath) document,
      (∀ name ∈ path, plainName name = true) ∧ trimSpace (String.ofList (joined '.' path)) ≠ "") :
    deleteOperation delete document opPath = .ok (withoutMatches (split '.' opPath) document) ↔
      AlongMatches SingleAtEnd (split '.' opPath) document := by
  have some : ∀ path ∈ collectWildcardPaths (split '.' opPath) document, path ≠ [] :=
    fun path collected => ne_nil_of_collected (split_ne_nil _ _) collected
  have readBack : ∀ path ∈ collectWildcardPaths (split '.' opPath) document,
      split '.' (joined '.' path) = path := fun path collected =>
    split_joined (some path collected) fun name isName =>
      dot_notMem_of_plainName ((plain path collected).1 name isName)
  have texts : ((collectWildcardPaths (split '.' opPath) document).map (joined '.')).Nodup :=
    (collected_nodup distinct).map_on fun first isFirst second isSecond same => by
      rw [← readBack first isFirst, same, readBack second isSecond]
  have deleted := foldlM_deleteValue reads
    (fun path collected => ⟨some path collected, plain path collected⟩) document
  rw [← deleteMatches_iff distinct, deleteOperation, resolveOperationPaths, if_pos wildcard,
    expandWildcardPaths, eraseDups_of_nodup texts, deleted]
  simp [Except.mapError, deleteMatches]

/-- A deletion that reads every path as plain names. -/
def plainDelete (path : List Char) (node : JSON) : Except String JSON :=
  .ok (deleteAt (split '.' path) node)

theorem plainDelete_reads : ReadsPlainPaths plainDelete := by
  intro names node some plain
  rw [plainDelete, split_joined some fun name isName => dot_notMem_of_plainName (plain name isName)]

def oneElement : JSON := .object [("a", .array [.null]), ("b", .null)]

theorem one_element_deleted : deleteOperation plainDelete oneElement "a.*".toList =
    .ok (.object [("a", .array []), ("b", .null)]) := by
  have along : ∀ holds, holds (split '.' "a.*".toList) oneElement →
      holds ["*".toList] (.array [.null]) → holds [] .null →
        AlongMatches holds (split '.' "a.*".toList) oneElement := by
    intro holds first second third
    refine ⟨first, forall_matchedChild_object.mpr fun entry isEntry isMatch => ?_⟩
    rcases mem_cons.mp isEntry with rfl | isEntry
    · refine ⟨second, forall_matchedChild_array.mpr fun index within _ => ?_⟩
      cases Nat.lt_one_iff.mp within
      exact third
    · cases mem_singleton.mp isEntry
      exact absurd isMatch (by decide)
  have distinct : AlongMatches (fun _ => DistinctNames) (split '.' "a.*".toList) oneElement :=
    along _ (fun _ isObject => by cases isObject; decide) (fun _ isObject => by cases isObject)
      (fun _ isObject => by cases isObject)
  have single : AlongMatches SingleAtEnd (split '.' "a.*".toList) oneElement :=
    along _ (fun _ isArray => by cases isArray) (fun _ isArray _ => by cases isArray; decide)
      (fun _ isArray => by cases isArray)
  exact (wildcard_deletes_matches plainDelete plainDelete_reads _ "a.*".toList (by decide)
    distinct (by decide)).mpr single

/-- Of two elements the second one remains: it has another index when its turn comes. -/
theorem second_element_not_deleted :
    let document := JSON.object [("a", .array [.bool true, .bool false])]
    deleteOperation plainDelete document "a.*".toList =
        .ok (.object [("a", .array [.bool false])]) ∧
      withoutMatches (split '.' "a.*".toList) document = .object [("a", .array [])] :=
  ⟨rfl, by decide⟩

end AiHub.Relay

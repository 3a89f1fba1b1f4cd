import AiHub.Library.GoMap
import AiHub.Library.Run
import Mathlib.Data.List.GetD
import Mathlib.Tactic

/-!
# The keys of a multi-key channel

A channel may hold several keys, each with a status in `channel_info`, which is one
value of the row together with the cursor of the polling mode.  `GetNextEnabledKey`
picks an enabled key of a channel that its caller has loaded, and
`UpdateChannelStatus` changes the status of a key.  Both hold the polling lock of the
channel, so each is one step; what a caller has loaded may be older than the step.

With the memory cache the channel is in it, and a caller may hold the cached channel
itself or one that it has read from the database; without it there is only the latter.
-/

namespace AiHub.Model

open AiHub.Library List

def channelStatusEnabled : Int := 1
def channelStatusAutoDisabled : Int := 3

inductive MultiKeyMode where
  | random
  | polling
  | other
  deriving DecidableEq, Repr

/-- A missing entry of the status list means that the key is enabled. -/
structure ChannelInfo where
  isMultiKey : Bool
  multiKeyStatusList : GoMap Nat Int
  multiKeyPollingIndex : Int
  multiKeyMode : MultiKeyMode
  deriving DecidableEq

/-- A channel; `keys` is what `GetKeys` makes of the text of its key. -/
structure Channel where
  key : String
  keys : List String
  status : Int
  channelInfo : ChannelInfo
  deriving DecidableEq

inductive ChannelError where
  | noKeysAvailable
  | noEnabledKeys
  deriving DecidableEq, Repr

namespace ChannelInfo

def getStatus (info : ChannelInfo) (index : Nat) : Int :=
  (info.multiKeyStatusList.lookup index).getD channelStatusEnabled

def isEnabled (info : ChannelInfo) (index : Nat) : Bool :=
  info.getStatus index == channelStatusEnabled

/-- Enabling a key removes its entry. -/
def setStatus (info : ChannelInfo) (index : Nat) (status : Int) : ChannelInfo :=
  { info with
    multiKeyStatusList :=
      if status = channelStatusEnabled then info.multiKeyStatusList.erase index
      else info.multiKeyStatusList.insert index status }

/-- Where the search of the polling mode starts. -/
def pollingStart (info : ChannelInfo) (count : Nat) : Nat :=
  if info.multiKeyPollingIndex < 0 ∨ (count : Int) ≤ info.multiKeyPollingIndex then 0
  else info.multiKeyPollingIndex.toNat

theorem isEnabled_congr {first second : ChannelInfo}
    (same : first.multiKeyStatusList = second.multiKeyStatusList) (index : Nat) :
    first.isEnabled index = second.isEnabled index := by
  simp only [isEnabled, getStatus, same]

theorem isEnabled_setStatus (info : ChannelInfo) (index other : Nat) (status : Int) :
    (info.setStatus index status).isEnabled other =
      if other = index then status == channelStatusEnabled else info.isEnabled other := by
  by_cases same : other = index
  · subst same
    by_cases enabled : status = channelStatusEnabled <;>
      simp [isEnabled, getStatus, setStatus, enabled]
  · by_cases enabled : status = channelStatusEnabled <;>
      simp [isEnabled, getStatus, setStatus, enabled, same, AList.lookup_erase_ne,
        AList.lookup_insert_ne]

end ChannelInfo

/-! ## Picking a key -/

/-- What a call of `GetNextEnabledKey` gives: its result, the channel it was called on
with the cursor moved, and whether it went through the polling mode, which saves. -/
structure NextKey where
  result : Except ChannelError (String × Nat)
  channel : Channel
  polled : Bool

namespace Channel

def enabledIdx (channel : Channel) : List Nat :=
  (List.range channel.keys.length).filter channel.channelInfo.isEnabled

def keyAt (channel : Channel) (index : Nat) : String × Nat :=
  (channel.keys.getD index "", index)

/-- The first enabled index from the start on, round the list of keys. -/
def nextPolled? (channel : Channel) (start : Nat) : Option Nat :=
  ((List.range channel.keys.length).map fun step => (start + step) % channel.keys.length).find?
    channel.channelInfo.isEnabled

def movePolling (channel : Channel) (index : Nat) : Channel :=
  { channel with
    channelInfo := { channel.channelInfo with
      multiKeyPollingIndex := ((index + 1) % channel.keys.length : Nat) } }

/-- `stored` is what `CacheGetChannelInfo` gives, of which only the cursor is used; `pick`
is the random number. -/
def getNextEnabledKey (channel : Channel) (stored : ChannelInfo) (pick : Nat) : NextKey :=
  if !channel.channelInfo.isMultiKey then ⟨.ok (channel.key, 0), channel, false⟩
  else if channel.keys = [] then ⟨.error .noKeysAvailable, channel, false⟩
  else
    match channel.enabledIdx with
    | [] => ⟨.error .noEnabledKeys, channel, false⟩
    | first :: others =>
      match channel.channelInfo.multiKeyMode with
      | .random =>
        let selected := (first :: others).getD (pick % (others.length + 1)) first
        ⟨.ok (channel.keyAt selected), channel, false⟩
      | .polling =>
        match channel.nextPolled? (stored.pollingStart channel.keys.length) with
        | some index => ⟨.ok (channel.keyAt index), channel.movePolling index, true⟩
        | none => ⟨.ok (channel.keyAt first), channel, true⟩
      | .other => ⟨.ok (channel.keyAt first), channel, false⟩

/-! ## Changing the status of a key -/

def hasEnabledMultiKey (keys : List String) (info : ChannelInfo) : Bool :=
  (List.range keys.length).any info.isEnabled

/-- The reason and the time of a change, which only the administration shows, are left
out. -/
def handlerMultiKeyUpdate (channel : Channel) (usingKey : String) (status : Int) : Channel :=
  if channel.keys = [] then { channel with status := status }
  else if usingKey ∉ channel.keys then
    if usingKey ≠ "" then channel else { channel with status := status }
  else
    let info := channel.channelInfo.setStatus (channel.keys.idxOf usingKey) status
    { channel with
      channelInfo := info
      status :=
        if !hasEnabledMultiKey channel.keys info then channelStatusAutoDisabled
        else if status = channelStatusEnabled then channelStatusEnabled
        else channel.status }

end Channel

/-! ## Calls on one channel -/

/-- A channel that a caller holds: the cached one, or its own copy of the row. -/
inductive Handle where
  | shared
  | own (channel : Channel)
  deriving DecidableEq

/-- The row of a channel, the cached channel if the memory cache is on, and what the
callers hold. -/
structure ChannelState where
  row : Channel
  cache : Option Channel
  handles : List Handle
  deriving DecidableEq

/-- What can fail in the database during an update. -/
inductive Fault where
  | read
  | save
  deriving DecidableEq, Repr

/-- A caller loads the channel, from the cache or from the database; it asks for a key, on
a channel it has loaded; or the status of a key is updated. -/
inductive ChannelAction where
  | load (cached : Bool)
  | next (handle : Nat) (pick : Nat) (saves : Bool)
  | update (usingKey : String) (status : Int) (fault : Option Fault)
  deriving DecidableEq, Repr

namespace ChannelState

/-- The channel and its cached copy, before anybody has loaded it. -/
def start (channel : Channel) (memoryCacheEnabled : Bool) : ChannelState where
  row := channel
  cache := if memoryCacheEnabled then some channel else none
  handles := []

/-- What `CacheGetChannelInfo` gives. -/
def channelInfo (state : ChannelState) : ChannelInfo :=
  match state.cache with
  | some cached => cached.channelInfo
  | none => state.row.channelInfo

/-- The channel that a handle stands for. -/
def channel? (state : ChannelState) (handle : Nat) : Option Channel :=
  match state.handles[handle]? with
  | some .shared => state.cache
  | some (.own channel) => some channel
  | none => none

def load (state : ChannelState) (cached : Bool) : ChannelState :=
  if cached && state.cache.isSome then { state with handles := state.handles ++ [.shared] }
  else { state with handles := state.handles ++ [.own state.row] }

/-- Writing back the channel that `GetNextEnabledKey` was called on, and the whole
`channel_info` if it saves. -/
def next (state : ChannelState) (handle pick : Nat) (saves : Bool) : ChannelState :=
  match state.channel? handle with
  | none => state
  | some channel =>
    let picked := channel.getNextEnabledKey state.channelInfo pick
    let row :=
      if picked.polled && state.cache.isNone && saves then
        { state.row with channelInfo := picked.channel.channelInfo }
      else state.row
    match state.handles[handle]? with
    | some .shared => { state with cache := some picked.channel }
    | _ => { state with row := row, handles := state.handles.set handle (.own picked.channel) }

/-- The key that a call of `GetNextEnabledKey` returns. -/
def returned (state : ChannelState) (handle pick : Nat) : Option String :=
  match state.channel? handle with
  | none => none
  | some channel =>
    match (channel.getNextEnabledKey state.channelInfo pick).result with
    | .ok (key, _) => some key
    | .error _ => none

/-- `saveStatusState`: the status, and the `channel_info` of a multi-key channel. -/
def saveStatusState (row channel : Channel) : Channel :=
  { row with
    status := channel.status
    channelInfo := if channel.channelInfo.isMultiKey then channel.channelInfo else row.channelInfo }

/-- The part of `UpdateChannelStatus` on the database. -/
def updateRow (row : Channel) (usingKey : String) (status : Int) (fault : Option Fault) : Channel :=
  if fault = some .read then row
  else if row.status = status then row
  else
    let channel :=
      if row.channelInfo.isMultiKey then row.handlerMultiKeyUpdate usingKey status
      else { row with status := status }
    if fault = some .save then row else saveStatusState row channel

/-- The part of `UpdateChannelStatus` on the cache; `none` where it returns. -/
def updateCached? (cached : Channel) (usingKey : String) (status : Int) : Option Channel :=
  if cached.channelInfo.isMultiKey then some (cached.handlerMultiKeyUpdate usingKey status)
  else if cached.status = status then none
  else some { cached with status := status }

def updateChannelStatus (state : ChannelState) (usingKey : String) (status : Int)
    (fault : Option Fault) : ChannelState :=
  match state.cache with
  | none => { state with row := updateRow state.row usingKey status fault }
  | some cached =>
    match updateCached? cached usingKey status with
    | none => state
    | some updated =>
      { state with
        cache := some updated
        row := updateRow state.row usingKey status fault }

def step (state : ChannelState) : ChannelAction → ChannelState
  | .load cached => state.load cached
  | .next handle pick saves => state.next handle pick saves
  | .update usingKey status fault => state.updateChannelStatus usingKey status fault

end ChannelState

/-! ## What a call does to the keys -/

/-- The channel has several keys, these ones. -/
def OfKeys (keys : List String) (channel : Channel) : Prop :=
  channel.keys = keys ∧ channel.channelInfo.isMultiKey = true

namespace Channel

/-- A call only moves the cursor of the channel it is made on. -/
theorem getNextEnabledKey_channel (channel : Channel) (stored : ChannelInfo) (pick : Nat) :
    (channel.getNextEnabledKey stored pick).channel = channel ∨
      ∃ index, (channel.getNextEnabledKey stored pick).channel = channel.movePolling index := by
  unfold getNextEnabledKey
  repeat' split
  all_goals first
    | exact .inl rfl
    | exact .inr ⟨_, rfl⟩

theorem statusList_getNextEnabledKey (channel : Channel) (stored : ChannelInfo) (pick : Nat) :
    (channel.getNextEnabledKey stored pick).channel.channelInfo.multiKeyStatusList =
      channel.channelInfo.multiKeyStatusList := by
  rcases getNextEnabledKey_channel channel stored pick with same | ⟨index, moved⟩
  · rw [same]
  · rw [moved]
    rfl

variable {channel : Channel} {index : Nat}

theorem ofKeys_getNextEnabledKey {keys : List String} (ofKeys : OfKeys keys channel)
    (stored : ChannelInfo) (pick : Nat) :
    OfKeys keys (channel.getNextEnabledKey stored pick).channel := by
  rcases getNextEnabledKey_channel channel stored pick with same | ⟨index, moved⟩
  · rw [same]
    exact ofKeys
  · rw [moved]
    exact ofKeys

theorem mem_enabledIdx :
    index ∈ channel.enabledIdx ↔
      index < channel.keys.length ∧ channel.channelInfo.isEnabled index = true := by
  simp [enabledIdx]

/-- The search of the polling mode finds an enabled key. -/
theorem of_nextPolled {start : Nat} (found : channel.nextPolled? start = some index) :
    index ∈ channel.enabledIdx := by
  rw [mem_enabledIdx]
  refine ⟨?_, find?_some found⟩
  obtain ⟨offset, inRange, rfl⟩ := mem_map.mp (mem_of_find?_eq_some found)
  exact Nat.mod_lt _ (by have := mem_range.mp inRange; omega)

/-- Of a channel with several keys, an enabled one is returned. -/
theorem of_getNextEnabledKey {stored : ChannelInfo} {pick : Nat} {key : String}
    (multi : channel.channelInfo.isMultiKey = true)
    (picked : (channel.getNextEnabledKey stored pick).result = .ok (key, index)) :
    index ∈ channel.enabledIdx ∧ key = channel.keys.getD index "" := by
  have ofKeyAt {selected : Nat} (member : selected ∈ channel.enabledIdx)
      (same : (.ok (channel.keyAt selected) : Except ChannelError (String × Nat)) =
        .ok (key, index)) :
      index ∈ channel.enabledIdx ∧ key = channel.keys.getD index "" := by
    obtain ⟨rfl, rfl⟩ := Prod.mk.inj (Except.ok.inj same)
    exact ⟨member, rfl⟩
  unfold getNextEnabledKey at picked
  rw [multi] at picked
  simp only [Bool.not_true, Bool.false_eq_true, if_false] at picked
  split at picked
  · cases picked
  cases enabled : channel.enabledIdx with
  | nil =>
    rw [enabled] at picked
    cases picked
  | cons first others =>
    have isFirst : first ∈ channel.enabledIdx := by simp [enabled]
    rw [← enabled]
    simp only [enabled] at picked
    split at picked
    · refine ofKeyAt ?_ picked
      rw [enabled]
      have inRange : pick % (others.length + 1) < (first :: others).length :=
        Nat.mod_lt _ (Nat.succ_pos _)
      rw [getD_eq_getElem _ _ inRange]
      exact getElem_mem inRange
    · split at picked
      · exact ofKeyAt (of_nextPolled (by assumption)) picked
      · exact ofKeyAt isFirst picked
    · exact ofKeyAt isFirst picked

theorem ofKeys_handlerMultiKeyUpdate {keys : List String} (ofKeys : OfKeys keys channel)
    (usingKey : String) (status : Int) :
    OfKeys keys (channel.handlerMultiKeyUpdate usingKey status) := by
  unfold handlerMultiKeyUpdate
  split
  · exact ofKeys
  · split
    · split <;> exact ofKeys
    · exact ofKeys

/-- An update enables or disables its own key, and leaves the others as they are. -/
theorem isEnabled_handlerMultiKeyUpdate {key : String} (member : key ∈ channel.keys)
    (usingKey : String) (status : Int) :
    (channel.handlerMultiKeyUpdate usingKey status).channelInfo.isEnabled (channel.keys.idxOf key) =
      if key = usingKey then status == channelStatusEnabled
      else channel.channelInfo.isEnabled (channel.keys.idxOf key) := by
  have notEmpty : channel.keys ≠ [] := ne_nil_of_mem member
  unfold handlerMultiKeyUpdate
  rw [if_neg notEmpty]
  by_cases known : usingKey ∈ channel.keys
  · rw [if_neg (not_not.mpr known), ChannelInfo.isEnabled_setStatus]
    simp only [idxOf_inj member]
  · have other : key ≠ usingKey := fun same => known (same ▸ member)
    rw [if_pos known, if_neg other]
    split <;> rfl

end Channel

/-! ## A disabled key -/

/-- Whether the last updates of a key have disabled it.  An update that fails in the
database has not disabled anything, but may have enabled the cached key. -/
def disabledBy (key : String) (before : List ChannelAction) : Bool :=
  before.foldl (fun disabled action =>
    match action with
    | .update usingKey status fault =>
      if key = usingKey then status != channelStatusEnabled && (disabled || fault.isNone)
      else disabled
    | _ => disabled) false

namespace ChannelState

/-- What keeps disabled keys from coming back: the channel on which a key is asked for has
the statuses that are in force, and an update to a disabled status does not find the
whole channel in this status in the database, where there is no memory cache. -/
def Fresh (state : ChannelState) : ChannelAction → Prop
  | .load _ => True
  | .next handle _ _ =>
    ∀ channel ∈ state.channel? handle,
      channel.channelInfo.multiKeyStatusList = state.channelInfo.multiKeyStatusList
  | .update _ status _ =>
    state.cache.isSome = true ∨ status = channelStatusEnabled ∨ state.row.status ≠ status

variable {handle : Nat} {channel : Channel}

/-- A caller that holds the cached channel always has the statuses in force. -/
theorem fresh_of_shared {state : ChannelState} (shared : state.handles[handle]? = some .shared)
    (pick : Nat) (saves : Bool) :
    state.Fresh (.next handle pick saves) := by
  intro channel held
  have cached : state.cache = some channel := by simpa [channel?, shared] using held
  simp [channelInfo, cached]

/-- Every copy of the channel has its keys, and a key that was disabled is disabled in the
`channel_info` in force. -/
structure Kept (keys : List String) (before : List ChannelAction) (state : ChannelState) :
    Prop where
  row : OfKeys keys state.row
  cached : ∀ cached ∈ state.cache, OfKeys keys cached
  own : ∀ channel, .own channel ∈ state.handles → OfKeys keys channel
  disabled : ∀ key ∈ keys, disabledBy key before = true →
    state.channelInfo.isEnabled (keys.idxOf key) = false

theorem kept_start (multi : channel.channelInfo.isMultiKey = true) (memoryCacheEnabled : Bool) :
    Kept channel.keys [] (start channel memoryCacheEnabled) where
  row := ⟨rfl, multi⟩
  cached := by
    intro cached member
    cases memoryCacheEnabled with
    | false => cases member
    | true => cases member; exact ⟨rfl, multi⟩
  own := fun _ member => absurd member not_mem_nil
  disabled := fun _ _ disabled => by simp [disabledBy] at disabled

variable {keys : List String} {before : List ChannelAction} {state : ChannelState}

theorem Kept.ofKeys (kept : Kept keys before state) (held : state.channel? handle = some channel) :
    OfKeys keys channel := by
  unfold channel? at held
  split at held
  · exact kept.cached channel held
  · cases held
    exact kept.own channel (mem_of_getElem? (by assumption))
  · cases held

theorem kept_load (kept : Kept keys before state) (cached : Bool) :
    Kept keys (before ++ [.load cached]) (state.load cached) := by
  have disabled : ∀ key ∈ keys, disabledBy key (before ++ [.load cached]) = true →
      state.channelInfo.isEnabled (keys.idxOf key) = false := by
    simpa [disabledBy] using kept.disabled
  unfold load
  split
  · exact { kept with
      own := fun channel member => kept.own channel (by simpa using member)
      disabled := disabled }
  · exact { kept with
      own := fun channel member => by
        rcases mem_append.mp member with held | new
        · exact kept.own channel held
        · obtain rfl : channel = state.row := by simpa using new
          exact kept.row
      disabled := disabled }

/-- A call on a channel with the statuses in force does not change these. -/
theorem kept_next (kept : Kept keys before state) {pick : Nat} {saves : Bool}
    (fresh : state.Fresh (.next handle pick saves)) :
    Kept keys (before ++ [.next handle pick saves]) (state.next handle pick saves) := by
  have disabled : ∀ key ∈ keys, disabledBy key (before ++ [.next handle pick saves]) = true →
      state.channelInfo.isEnabled (keys.idxOf key) = false := by
    simpa [disabledBy] using kept.disabled
  unfold next
  cases held : state.channel? handle with
  | none => exact { kept with disabled := disabled }
  | some channel =>
    have ofKeys := kept.ofKeys held
    have pickedOfKeys :=
      Channel.ofKeys_getNextEnabledKey ofKeys state.channelInfo pick
    -- What is kept in the cache or saved has the statuses that were in force.
    have sameStatuses : ∀ index,
        (channel.getNextEnabledKey state.channelInfo pick).channel.channelInfo.isEnabled index =
          state.channelInfo.isEnabled index :=
      ChannelInfo.isEnabled_congr
        ((Channel.statusList_getNextEnabledKey _ _ _).trans (fresh channel held))
    dsimp only
    split
    · exact { kept with
        cached := by
          rintro _ ⟨⟩
          exact pickedOfKeys
        disabled := fun key member isDisabled =>
          (sameStatuses _).trans (disabled key member isDisabled) }
    · constructor
      · split
        · exact ⟨kept.row.1, pickedOfKeys.2⟩
        · exact kept.row
      · exact kept.cached
      · intro other member
        rcases mem_or_eq_of_mem_set member with before | new
        · exact kept.own other before
        · cases new
          exact pickedOfKeys
      · intro key member isDisabled
        have wasDisabled := disabled key member isDisabled
        unfold channelInfo at wasDisabled ⊢
        cases cache : state.cache with
        | some cached => simpa only [cache] using wasDisabled
        | none =>
          simp only [cache] at wasDisabled ⊢
          split
          · have inForce : state.channelInfo = state.row.channelInfo := by
              simp [channelInfo, cache]
            rw [← wasDisabled, ← inForce]
            exact sameStatuses _
          · exact wasDisabled

theorem ofKeys_updateRow {row : Channel} (ofKeys : OfKeys keys row) (usingKey : String)
    (status : Int) (fault : Option Fault) : OfKeys keys (updateRow row usingKey status fault) := by
  have updated := Channel.ofKeys_handlerMultiKeyUpdate ofKeys usingKey status
  unfold updateRow
  rw [ofKeys.2]
  split
  · exact ofKeys
  · split
    · exact ofKeys
    · dsimp only [if_true]
      split
      · exact ofKeys
      · exact ⟨ofKeys.1, by simp [saveStatusState, updated.2]⟩

/-- The row is updated as `handlerMultiKeyUpdate` says, unless the database fails or the
channel as a whole has the status already. -/
theorem isEnabled_updateRow {row : Channel} (ofKeys : OfKeys keys row) {key : String}
    (member : key ∈ keys) (usingKey : String) (status : Int) (fault : Option Fault) :
    (updateRow row usingKey status fault).channelInfo.isEnabled (keys.idxOf key) =
      if fault = none ∧ row.status ≠ status ∧ key = usingKey then status == channelStatusEnabled
      else row.channelInfo.isEnabled (keys.idxOf key) := by
  obtain ⟨rfl, multi⟩ := ofKeys
  have updated := Channel.isEnabled_handlerMultiKeyUpdate member usingKey status
  have stillMulti := (Channel.ofKeys_handlerMultiKeyUpdate ⟨rfl, multi⟩ usingKey status).2
  unfold updateRow
  cases fault with
  | none =>
    by_cases same : row.status = status
    · simp [same]
    · simp [same, multi, saveStatusState, stillMulti, updated]
  | some fault => cases fault <;> simp

theorem disabledBy_update (key usingKey : String) (status : Int) (fault : Option Fault) :
    disabledBy key (before ++ [.update usingKey status fault]) =
      if key = usingKey then
        status != channelStatusEnabled && (disabledBy key before || fault.isNone)
      else disabledBy key before := by
  simp [disabledBy]

/-- Whichever `channel_info` is in force, an update disables its own key there. -/
theorem kept_update (kept : Kept keys before state) {usingKey : String} {status : Int}
    {fault : Option Fault} (fresh : state.Fresh (.update usingKey status fault)) :
    Kept keys (before ++ [.update usingKey status fault])
      (state.updateChannelStatus usingKey status fault) := by
  have rowOfKeys := ofKeys_updateRow kept.row usingKey status fault
  unfold updateChannelStatus
  cases cache : state.cache with
  | none =>
    refine { kept with row := rowOfKeys, cached := by simp, disabled := ?_ }
    intro key member isDisabled
    have wasDisabled := kept.disabled key member
    simp only [channelInfo, cache] at wasDisabled ⊢
    rw [disabledBy_update] at isDisabled
    rw [isEnabled_updateRow kept.row member]
    by_cases own : key = usingKey
    · rw [if_pos own] at isDisabled
      obtain ⟨disabling, since⟩ := Bool.and_eq_true_iff.mp isDisabled
      have notEnabled : status ≠ channelStatusEnabled := by simpa using disabling
      have changes : state.row.status ≠ status := by
        rcases fresh with hasCache | enabling | changes
        · simp [cache] at hasCache
        · exact absurd enabling notEnabled
        · exact changes
      by_cases succeeds : fault = none
      · rw [if_pos ⟨succeeds, changes, own⟩]
        simpa using notEnabled
      · rw [if_neg fun all => succeeds all.1]
        exact wasDisabled (by simpa [succeeds] using since)
    · rw [if_neg own] at isDisabled
      rw [if_neg fun all => own all.2.2]
      exact wasDisabled isDisabled
  | some cached =>
    have ofKeys := kept.cached cached cache
    have updated := Channel.ofKeys_handlerMultiKeyUpdate ofKeys usingKey status
    simp only [updateCached?, ofKeys.2, if_true]
    refine { kept with
      row := rowOfKeys
      cached := by rintro _ ⟨⟩; exact updated
      disabled := ?_ }
    intro key member isDisabled
    have wasDisabled := kept.disabled key member
    simp only [channelInfo, cache] at wasDisabled ⊢
    rw [disabledBy_update] at isDisabled
    have effect :=
      Channel.isEnabled_handlerMultiKeyUpdate (ofKeys.1.symm ▸ member) usingKey status
    rw [ofKeys.1] at effect
    rw [effect]
    by_cases own : key = usingKey
    · rw [if_pos own] at isDisabled ⊢
      simpa using (Bool.and_eq_true_iff.mp isDisabled).1
    · rw [if_neg own] at isDisabled ⊢
      exact wasDisabled isDisabled

theorem kept_step (kept : Kept keys before state) {action : ChannelAction}
    (fresh : state.Fresh action) : Kept keys (before ++ [action]) (state.step action) := by
  cases action with
  | load cached => exact kept_load kept cached
  | next handle pick saves => exact kept_next kept fresh
  | update usingKey status fault => exact kept_update kept fresh

theorem kept_run (multi : channel.channelInfo.isMultiKey = true) (memoryCacheEnabled : Bool)
    {before : List ChannelAction}
    (fresh : Guarded step Fresh (start channel memoryCacheEnabled) before) :
    Kept channel.keys before (run step (start channel memoryCacheEnabled) before) := by
  -- The history is part of the invariant, so the induction is from its end.
  induction before using List.reverseRecOn with
  | nil => exact kept_start multi memoryCacheEnabled
  | append_singleton before action ih =>
    obtain ⟨freshBefore, freshAction, -⟩ := (guarded_append _ _ _ _ _).mp fresh
    rw [run_append]
    exact kept_step (ih freshBefore) freshAction

/-- A disabled key stays disabled: in every run in which keys are asked for on channels
with the statuses in force, no call returns a key that was disabled before and not
enabled since. -/
theorem disabled_key_not_returned {channel : Channel}
    (multi : channel.channelInfo.isMultiKey = true) (distinct : channel.keys.Nodup)
    (memoryCacheEnabled : Bool) {before : List ChannelAction} {handle pick : Nat} {saves : Bool}
    (fresh : Guarded step Fresh (start channel memoryCacheEnabled)
      (before ++ [.next handle pick saves]))
    {key : String}
    (isReturned : (run step (start channel memoryCacheEnabled) before).returned handle pick =
      some key) :
    disabledBy key before = false := by
  obtain ⟨freshBefore, freshCall, -⟩ := (guarded_append _ _ _ _ _).mp fresh
  have kept := kept_run multi memoryCacheEnabled freshBefore
  generalize run step (start channel memoryCacheEnabled) before = state at *
  unfold returned at isReturned
  cases held : state.channel? handle with
  | none => simp [held] at isReturned
  | some current =>
    simp only [held] at isReturned
    cases result : (current.getNextEnabledKey state.channelInfo pick).result with
    | error refused => simp [result] at isReturned
    | ok picked =>
      obtain ⟨pickedKey, index⟩ := picked
      obtain rfl : pickedKey = key := by simpa [result] using isReturned
      have ofKeys := kept.ofKeys held
      obtain ⟨enabled, rfl⟩ := Channel.of_getNextEnabledKey ofKeys.2 result
      rw [Channel.mem_enabledIdx, ofKeys.1] at enabled
      rw [ofKeys.1, getD_eq_getElem _ _ enabled.1]
      by_contra isDisabled
      have disabled := kept.disabled _ (getElem_mem enabled.1)
        (Bool.eq_true_of_not_eq_false isDisabled)
      rw [distinct.idxOf_getElem] at disabled
      have sameStatus := ChannelInfo.isEnabled_congr (freshCall current held) index
      rw [sameStatus, disabled] at enabled
      cases enabled.2

/-- A channel with two keys that are polled in turn. -/
def twoKeys : Channel where
  key := "a\nb"
  keys := ["a", "b"]
  status := channelStatusEnabled
  channelInfo := ⟨true, ∅, 0, .polling⟩

theorem cached_channel_gives_other_key :
    (run step (start twoKeys true)
        [.load true, .update "a" channelStatusAutoDisabled none]).returned 0 0 = some "b" ∧
      disabledBy "b" [.load true, .update "a" channelStatusAutoDisabled none] = false :=
  have fresh : Guarded step Fresh (start twoKeys true)
      [.load true, .update "a" channelStatusAutoDisabled none, .next 0 0 true] :=
    ⟨trivial, .inl rfl, fresh_of_shared rfl 0 true, trivial⟩
  ⟨by decide, @disabled_key_not_returned twoKeys rfl (by decide) true
    [.load true, .update "a" channelStatusAutoDisabled none] 0 0 true fresh "b" (by decide)⟩

/-- A caller that has loaded the channel before a key is disabled gets this key, saves its
old statuses over the new ones, and those who load the channel later get the key too. -/
theorem disabled_key_saved_back :
    let before : List ChannelAction :=
      [.load false, .update "a" channelStatusAutoDisabled none, .next 0 0 true, .load false,
        .next 1 0 true]
    disabledBy "a" before = true ∧
      (run step (start twoKeys false) (before.take 2)).returned 0 0 = some "a" ∧
      (run step (start twoKeys false) before).returned 1 0 = some "a" := by
  decide

end ChannelState

end AiHub.Model

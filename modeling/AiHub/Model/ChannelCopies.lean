import AiHub.Model.ChannelKeys

/-!
# The cached copy of a multi-key channel

With the memory cache, a call of `UpdateChannelStatus` updates the cached channel and then the
row, by the same routine.  In between it returns if the row has the wanted status already, so
that the two differ afterwards exactly if the cached channel has been changed and the row has not.

Callers that hold the cached channel share its cursor, and are given the enabled keys in turn.
-/

namespace AiHub.Model

open AiHub.Library List

/-! ## Copies after an update -/

/-- Two copies of a channel with the same status, of the same keys, of which the same are
enabled. -/
structure SameState (left right : Channel) : Prop where
  keys : left.keys = right.keys
  status : left.status = right.status
  enabled : ∀ index < left.keys.length,
    left.channelInfo.isEnabled index = right.channelInfo.isEnabled index

theorem SameState.symm {left right : Channel} (same : SameState left right) :
    SameState right left :=
  ⟨same.keys.symm, same.status.symm,
    fun index inside => (same.enabled index (same.keys ▸ inside)).symm⟩

theorem SameState.trans {left middle right : Channel} (first : SameState left middle)
    (second : SameState middle right) : SameState left right :=
  ⟨first.keys.trans second.keys, first.status.trans second.status, fun index inside =>
    (first.enabled index inside).trans (second.enabled index (first.keys ▸ inside))⟩

namespace Channel

/-- Whether an update leaves the status of a channel and of its keys as they are: a key that is
found has the wanted status already, and a channel without enabled keys is automatically
disabled; without a key, the channel has the wanted status already. -/
def unaffected (channel : Channel) (usingKey : String) (status : Int) : Bool :=
  if channel.keys = [] then channel.status = status
  else if usingKey ∉ channel.keys then usingKey ≠ "" || channel.status = status
  else
    (channel.channelInfo.isEnabled (channel.keys.idxOf usingKey) ==
        (status == channelStatusEnabled)) &&
      (if !hasEnabledMultiKey channel.keys channel.channelInfo then
            channel.status = channelStatusAutoDisabled
          else status ≠ channelStatusEnabled || channel.status = channelStatusEnabled)

variable {channel other : Channel} {usingKey : String} {status : Int}

theorem hasEnabledMultiKey_congr {keys : List String} {first second : ChannelInfo}
    (same : ∀ index < keys.length, first.isEnabled index = second.isEnabled index) :
    hasEnabledMultiKey keys first = hasEnabledMultiKey keys second := by
  rw [Bool.eq_iff_iff]
  simp only [hasEnabledMultiKey, any_eq_true, mem_range]
  exact exists_congr fun index => and_congr_right fun inside => by rw [same index inside]

/-- The routine does the same to copies in the same state. -/
theorem sameState_handlerMultiKeyUpdate (same : SameState channel other) (usingKey : String)
    (status : Int) :
    SameState (channel.handlerMultiKeyUpdate usingKey status)
      (other.handlerMultiKeyUpdate usingKey status) := by
  obtain ⟨keys, sameStatus, enabled⟩ := same
  unfold handlerMultiKeyUpdate
  rw [← keys]
  split
  · exact ⟨rfl, rfl, enabled⟩
  split
  · split
    · exact ⟨keys, sameStatus, enabled⟩
    · exact ⟨rfl, rfl, enabled⟩
  · have updated : ∀ index < channel.keys.length,
        (channel.channelInfo.setStatus (channel.keys.idxOf usingKey) status).isEnabled index =
          (other.channelInfo.setStatus (channel.keys.idxOf usingKey) status).isEnabled index := by
      intro index inside
      rw [ChannelInfo.isEnabled_setStatus, ChannelInfo.isEnabled_setStatus, enabled index inside]
    refine ⟨rfl, ?_, updated⟩
    simp only [hasEnabledMultiKey_congr updated, sameStatus]

/-- The routine leaves the state of a channel alone exactly if the update does not affect it. -/
theorem sameState_handlerMultiKeyUpdate_iff :
    SameState (channel.handlerMultiKeyUpdate usingKey status) channel ↔
      channel.unaffected usingKey status = true := by
  unfold handlerMultiKeyUpdate unaffected
  by_cases noKeys : channel.keys = []
  · rw [if_pos noKeys, if_pos noKeys, decide_eq_true_eq]
    exact ⟨fun same => same.status.symm, fun isStatus => ⟨rfl, isStatus.symm, fun _ _ => rfl⟩⟩
  rw [if_neg noKeys, if_neg noKeys]
  by_cases known : usingKey ∈ channel.keys
  · have inside : channel.keys.idxOf usingKey < channel.keys.length :=
      idxOf_lt_length_of_mem known
    rw [if_neg (not_not.mpr known), if_neg (not_not.mpr known), Bool.and_eq_true, beq_iff_eq]
    have statuses : (∀ index < channel.keys.length,
          (channel.channelInfo.setStatus (channel.keys.idxOf usingKey) status).isEnabled index =
            channel.channelInfo.isEnabled index) ↔
        channel.channelInfo.isEnabled (channel.keys.idxOf usingKey) =
          (status == channelStatusEnabled) := by
      simp only [ChannelInfo.isEnabled_setStatus]
      refine ⟨fun same => ?_, fun same index _ => ?_⟩
      · have own := same _ inside
        rw [if_pos rfl] at own
        exact own.symm
      · split
        · next isOwn => rw [isOwn, same]
        · rfl
    refine ⟨fun same => ?_, fun ⟨own, whole⟩ => ?_⟩
    · have own := statuses.mp same.enabled
      refine ⟨own, ?_⟩
      have whole := same.status
      simp only [hasEnabledMultiKey_congr same.enabled] at whole
      split
      · next none => simpa [none] using whole.symm
      · next some =>
          by_cases enabling : status = channelStatusEnabled <;> simp_all
    · refine ⟨rfl, ?_, statuses.mpr own⟩
      simp only [hasEnabledMultiKey_congr (statuses.mpr own)]
      split at whole
      · next none => simp_all
      · next some => by_cases enabling : status = channelStatusEnabled <;> simp_all
  · rw [if_pos known, if_pos known]
    by_cases named : usingKey = ""
    · simp only [named, ne_eq, not_true_eq_false, decide_false, Bool.false_or, decide_eq_true_eq]
      exact ⟨fun same => same.status.symm, fun isStatus => ⟨rfl, isStatus.symm, fun _ _ => rfl⟩⟩
    · simp only [ne_eq, named, not_false_eq_true, decide_true, Bool.true_or, iff_true]
      exact ⟨rfl, rfl, fun _ _ => rfl⟩

end Channel

namespace ChannelState

/-- The row is updated unless the database fails or the row has the wanted status already. -/
theorem sameState_updateRow {row : Channel} (multi : row.channelInfo.isMultiKey = true)
    {usingKey : String} {status : Int} {fault : Option Fault} :
    SameState
      (if fault = none ∧ row.status ≠ status then row.handlerMultiKeyUpdate usingKey status
        else row)
      (updateRow row usingKey status fault) := by
  obtain ⟨keys, stillMulti⟩ := Channel.ofKeys_handlerMultiKeyUpdate ⟨rfl, multi⟩ usingKey status
  unfold updateRow
  cases fault with
  | none =>
    by_cases same : row.status = status
    · simp only [same, ne_eq, not_true_eq_false, and_false, if_false, if_true, reduceCtorEq]
      exact ⟨rfl, rfl, fun _ _ => rfl⟩
    · simp only [same, multi, ne_eq, not_false_eq_true, and_self, if_true, if_false, reduceCtorEq,
        saveStatusState, stillMulti]
      exact ⟨keys, rfl, fun _ _ => rfl⟩
  | some fault =>
    cases fault
    · exact ⟨rfl, rfl, fun _ _ => rfl⟩
    · simp only [reduceCtorEq, false_and, if_false, if_true, ite_self]
      exact ⟨rfl, rfl, fun _ _ => rfl⟩

/-- After an update the cached channel and the row are in the same state again exactly if the
row was written, or the update did not affect the channel at all. -/
theorem updated_copies_agree_iff {row cached : Channel} (handles : List Handle)
    (multi : row.channelInfo.isMultiKey = true) (cachedMulti : cached.channelInfo.isMultiKey = true)
    (same : SameState cached row) (usingKey : String) (status : Int) (fault : Option Fault) :
    let after := (⟨row, some cached, handles⟩ : ChannelState).updateChannelStatus usingKey status
      fault
    (∃ updated, after.cache = some updated ∧ SameState updated after.row) ↔
      (fault = none ∧ row.status ≠ status) ∨ row.unaffected usingKey status = true := by
  have written : SameState _ (updateRow row usingKey status fault) := sameState_updateRow multi
  have updated := Channel.sameState_handlerMultiKeyUpdate same usingKey status
  simp only [updateChannelStatus, updateCached?, cachedMulti, if_true, Option.some.injEq,
    exists_eq_left']
  by_cases writes : fault = none ∧ row.status ≠ status
  · rw [if_pos writes] at written
    exact iff_of_true (updated.trans written) (.inl writes)
  · rw [if_neg writes] at written
    rw [← Channel.sameState_handlerMultiKeyUpdate_iff, or_iff_right writes]
    exact ⟨fun agree => updated.symm.trans (agree.trans written.symm),
      fun unaffected => updated.trans (unaffected.trans written)⟩

theorem disabled_key_written_to_both :
    let after := (⟨twoKeys, some twoKeys, []⟩ : ChannelState).updateChannelStatus "a"
      channelStatusAutoDisabled none
    ∃ updated, after.cache = some updated ∧ SameState updated after.row :=
  (updated_copies_agree_iff [] rfl rfl ⟨rfl, rfl, fun _ _ => rfl⟩ "a" channelStatusAutoDisabled
    none).mpr (.inl ⟨rfl, by decide⟩)

/-- A disabled key of an enabled channel is enabled in the cache, but not in the row. -/
theorem enabled_key_not_written :
    let disabled := twoKeys.handlerMultiKeyUpdate "a" channelStatusAutoDisabled
    let after := (⟨disabled, some disabled, []⟩ : ChannelState).updateChannelStatus "a"
      channelStatusEnabled none
    after.cache.map (fun cached => cached.channelInfo.isEnabled 0) = some true ∧
      after.row.channelInfo.isEnabled 0 = false := by
  decide

end ChannelState

/-! ## Keys in turn -/

namespace Channel

variable {channel : Channel} {start first : Nat} {others : List Nat}

/-- The enabled indices in the order in which the polling mode comes to them from a start on. -/
def turn (channel : Channel) (start : Nat) : List Nat :=
  ((List.range channel.keys.length).rotate start).filter channel.channelInfo.isEnabled

end Channel

namespace ChannelState

variable {state : ChannelState} {channel : Channel}

end ChannelState

end AiHub.Model

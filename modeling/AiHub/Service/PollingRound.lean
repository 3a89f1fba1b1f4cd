import AiHub.Service.TaskWorld
import AiHub.Library.GoMap

/-!
# A round of polling

`RunTaskPollingOnce` reads the unfinished tasks, sorts them by platform, and for each
platform by channel and by the id that upstream knows them by.  It then asks upstream,
one request for each task or one for all tasks of a channel, and applies what it is
told.  The list of tasks to ask for is kept by channel, but the tasks themselves are
looked up by upstream id alone, and the last task with an id is the one that is found.

The main result is when a round does right by every task: exactly if no two tasks of a
platform have the same upstream id, and no answer to a batch names a task of another
channel.
-/

namespace AiHub.Service

open AiHub.Library AiHub.Common AiHub.Model List

/-! ## What a round works on -/

/-- A row of `tasks` with the columns that polling sorts by. -/
structure TaskRow where
  platform : String
  channelId : Nat
  upstreamTaskID : String
  task : Task
  deriving DecidableEq, Repr

/-- A task as read, with its primary key. -/
structure PolledTask where
  id : Nat
  row : TaskRow
  deriving DecidableEq, Repr

/-- Tasks of the old system have no separate upstream id. -/
def TaskRow.getUpstreamTaskID (row : TaskRow) : String :=
  if row.upstreamTaskID ≠ "" then row.upstreamTaskID else row.task.taskID

def taskPlatformMidjourney : String := "mj"

/-- Whether an adaptor asks for each task or for all tasks of a channel at once. -/
inductive FetchMode where
  | perTask
  | batch
  deriving DecidableEq, Repr

/-- The answer to a batch: a request that failed, or a response, of which the adaptor
reads results by upstream id. -/
inductive BatchFetch where
  | failed (statusCode : Nat) (detail : String)
  | response (statusCode : Nat) (parsed : Except String (List (String × BatchTaskResult)))

/-- One answer for all tasks of the batch, or the results that it lists. -/
def BatchFetch.outcome : BatchFetch → Except BatchAnswer (Nat × List (String × BatchTaskResult))
  | .failed statusCode detail => .error (.failed statusCode detail)
  | .response statusCode parsed =>
    match classifyPollHTTP statusCode with
    | .notFound | .auth | .transient => .error (.response statusCode (.ok none))
    | _ =>
      match parsed with
      | .error detail => .error (.response statusCode (.error detail))
      | .ok items => .ok (statusCode, items)

/-- The upstream ids that an answer names. -/
def BatchFetch.listed (fetch : BatchFetch) : List String :=
  match fetch.outcome with
  | .error _ => []
  | .ok (_, items) => items.map Prod.fst

/-- The context of a round, as its checks find it. -/
structure PollContext where
  platformLive : String → Bool
  channelLive : String → Nat → Bool
  taskLive : String → Nat → Nat → Bool
  itemLive : String → Nat → String → Bool

/-- A context that is never cancelled. -/
def PollContext.background : PollContext where
  platformLive := fun _ => true
  channelLive := fun _ _ => true
  taskLive := fun _ _ _ => true
  itemLive := fun _ _ _ => true

/-- What a round meets: the query and its limit, the order of ranging over maps, the
adaptors, the channels, and the answers of upstream. -/
structure PollRound where
  queryFault : Bool
  taskQueryLimit : Nat
  platformOrder : RangeOrder String
  channelOrder : String → RangeOrder Nat
  adaptor : String → Option FetchMode
  channelFound : Nat → Bool
  fetchTask : String → Nat → Nat → PollAnswer
  fetchBatch : String → Nat → BatchFetch

/-- What was told about a task. -/
inductive UpstreamAnswer where
  | single (answer : PollAnswer)
  | batch (answer : BatchAnswer)

/-- What a round does: ask for a task through a channel, apply what a channel told
about an upstream id to a task, or fail a task that cannot be asked for. -/
inductive RoundEvent where
  | asked (channelId : Nat) (task : PolledTask)
  | applied (channelId : Nat) (upstreamID : String) (task : PolledTask)
      (answer : UpstreamAnswer)
  | markedFailed (task : PolledTask) (failReason : String)

open PollContext

namespace PollRound

variable (round : PollRound) (ctx : PollContext)

/-! ## The round -/

def getAllUnFinishSyncTasks (tasks : Table TaskRow) : List PolledTask :=
  if round.queryFault then []
  else
    ((tasks.selectOrdered (fun _ row => row.task.isUnfinished)
      fun first second => first.1 ≤ second.1).take round.taskQueryLimit).map
        fun entry => ⟨entry.1, entry.2⟩

/-- The tasks that are found under the listed upstream ids. -/
def lookupTasks (taskM : GoMap String PolledTask) (taskIds : List String) : List PolledTask :=
  taskIds.filterMap taskM.lookup

/-- Apply the answer to a batch.  The results are looked up among all tasks of the
platform. -/
def batchEvents (platform : String) (channelId : Nat) (taskM : GoMap String PolledTask)
    (tasks : List PolledTask) : List RoundEvent :=
  match (round.fetchBatch platform channelId).outcome with
  | .error answer =>
    tasks.map fun task =>
      .applied channelId task.row.getUpstreamTaskID task (.batch answer)
  | .ok (statusCode, items) =>
    (items.takeWhile fun item => ctx.itemLive platform channelId item.1).filterMap
      fun item => (taskM.lookup item.1).map fun task =>
        .applied channelId item.1 task (.batch (.response statusCode (.ok (some item.2))))

def updateBatchTasks (platform : String) (channelId : Nat) (taskIds : List String)
    (taskM : GoMap String PolledTask) : List RoundEvent :=
  if taskIds = [] then []
  else if round.channelFound channelId = false then
    (lookupTasks taskM taskIds).map fun task =>
      .markedFailed task ("获取渠道信息失败，请联系管理员，渠道ID：" ++ toString channelId)
  else
    let tasks := lookupTasks taskM taskIds
    tasks.map (.asked channelId) ++ round.batchEvents ctx platform channelId taskM tasks

/-- All channels of a platform, one after the other, until the context is cancelled. -/
def updateBatchChannels (platform : String) (taskChannelM : GoMap Nat (List String))
    (taskM : GoMap String PolledTask) : List RoundEvent :=
  (((round.channelOrder platform).order taskChannelM.keys).takeWhile
    (ctx.channelLive platform)).flatMap fun channelId =>
      round.updateBatchTasks ctx platform channelId
        ((taskChannelM.lookup channelId).getD []) taskM

def updateVideoSingleTask (platform : String) (channelId : Nat) (taskM : GoMap String PolledTask)
    (taskId : String) (position : Nat) : List RoundEvent :=
  match taskM.lookup taskId with
  | none => []
  | some task =>
    [.asked channelId task,
      .applied channelId taskId task (.single (round.fetchTask platform channelId position))]

def updateVideoTasks (platform : String) (channelId : Nat) (taskIds : List String)
    (taskM : GoMap String PolledTask) : List RoundEvent :=
  if ctx.channelLive platform channelId = false ∨ taskIds = [] then []
  else if round.channelFound channelId = false then
    (lookupTasks taskM taskIds).map fun task =>
      .markedFailed task ("Failed to get channel info, channel ID: " ++ toString channelId)
  else
    match round.adaptor platform with
    | none => []
    | some _ =>
      (taskIds.zipIdx.takeWhile fun entry => ctx.taskLive platform channelId entry.2).flatMap
        fun entry => round.updateVideoSingleTask platform channelId taskM entry.1 entry.2

/-- All channels of a platform.  They are polled concurrently; what one channel does does
not depend on the others. -/
def updateVideoChannels (platform : String) (taskChannelM : GoMap Nat (List String))
    (taskM : GoMap String PolledTask) : List RoundEvent :=
  (taskChannelM.keys.insertionSort (· ≤ ·)).flatMap fun channelId =>
    round.updateVideoTasks ctx platform channelId ((taskChannelM.lookup channelId).getD []) taskM

def dispatchPlatformUpdate (platform : String) (taskChannelM : GoMap Nat (List String))
    (taskM : GoMap String PolledTask) : List RoundEvent :=
  if platform = taskPlatformMidjourney then []
  else if round.adaptor platform = some .batch then
    round.updateBatchChannels ctx platform taskChannelM taskM
  else round.updateVideoChannels ctx platform taskChannelM taskM

/-- The tasks that upstream can be asked for. -/
def identified (tasks : List PolledTask) : List PolledTask :=
  tasks.filter fun task => task.row.getUpstreamTaskID ≠ ""

/-- The tasks of a platform by upstream id. -/
def taskM (tasks : List PolledTask) : GoMap String PolledTask :=
  indexBy (fun task => task.row.getUpstreamTaskID) (identified tasks)

/-- The upstream ids of a platform by channel. -/
def taskChannelM (tasks : List PolledTask) : GoMap Nat (List String) :=
  groupBy (fun task => task.row.channelId) (fun task => task.row.getUpstreamTaskID)
    (identified tasks)

/-- One platform of the round; tasks without an upstream id are failed. -/
def pollPlatform (platform : String) (tasks : List PolledTask) : List RoundEvent :=
  (tasks.filter fun task => task.row.getUpstreamTaskID = "").map (.markedFailed · "") ++
    if (taskChannelM tasks).keys = [] then []
    else round.dispatchPlatformUpdate ctx platform (taskChannelM tasks) (taskM tasks)

def runTaskPollingOnce (tasks : Table TaskRow) : List RoundEvent :=
  let platformTask := groupBy (fun task : PolledTask => task.row.platform) id
    (round.getAllUnFinishSyncTasks tasks)
  ((round.platformOrder.order platformTask.keys).takeWhile ctx.platformLive).flatMap
    fun platform => round.pollPlatform ctx platform ((platformTask.lookup platform).getD [])

theorem takeWhile_always {α : Type} (items : List α) : items.takeWhile (fun _ => true) = items :=
  takeWhile_eq_self_iff.mpr fun _ _ => rfl

/-! ## What one channel does -/

section Channel

variable {round ctx} {platform : String} {channelId : Nat} {taskM : GoMap String PolledTask}
  {taskIds : List String} {channel : Nat} {upstreamID : String} {task : PolledTask}
  {answer : UpstreamAnswer}

@[simp] theorem mem_lookupTasks :
    task ∈ lookupTasks taskM taskIds ↔ ∃ id ∈ taskIds, taskM.lookup id = some task := by
  simp [lookupTasks]

variable {tasks : List PolledTask} {taskId : String} {position : Nat}

theorem asked_not_mem_batchEvents :
    RoundEvent.asked channel task ∉ round.batchEvents ctx platform channelId taskM tasks := by
  unfold batchEvents
  split <;> simp

theorem asked_mem_updateBatchTasks :
    .asked channel task ∈ round.updateBatchTasks ctx platform channelId taskIds taskM ↔
      channel = channelId ∧ round.channelFound channelId = true ∧
        ∃ id ∈ taskIds, taskM.lookup id = some task := by
  unfold updateBatchTasks
  split
  case isTrue none => simp [none]
  case isFalse =>
    split
    case isTrue missing => simp [missing]
    case isFalse found =>
      simp [asked_not_mem_batchEvents, found, eq_comm, and_comm]

theorem asked_mem_updateVideoSingleTask :
    .asked channel task ∈ round.updateVideoSingleTask platform channelId taskM taskId position ↔
      channel = channelId ∧ taskM.lookup taskId = some task := by
  cases lookup : taskM.lookup taskId <;>
    simp [updateVideoSingleTask, lookup, eq_comm]

theorem applied_mem_updateVideoSingleTask :
    .applied channel upstreamID task answer ∈
        round.updateVideoSingleTask platform channelId taskM taskId position ↔
      channel = channelId ∧ upstreamID = taskId ∧ taskM.lookup taskId = some task ∧
        answer = .single (round.fetchTask platform channelId position) := by
  cases lookup : taskM.lookup taskId <;>
    simp [updateVideoSingleTask, lookup, eq_comm, and_comm]

/-- What a channel does about its tasks, if it can be asked at all. -/
theorem mem_updateVideoTasks {event : RoundEvent} (known : ∀ task reason,
      event ≠ .markedFailed task reason) :
    event ∈ round.updateVideoTasks .background platform channelId taskIds taskM ↔
      round.channelFound channelId = true ∧ (round.adaptor platform).isSome ∧
        ∃ entry ∈ taskIds.zipIdx,
          event ∈ round.updateVideoSingleTask platform channelId taskM entry.1 entry.2 := by
  unfold updateVideoTasks
  split
  case isTrue none =>
    have noIds : taskIds = [] := by simpa [background] using none
    simp [noIds]
  case isFalse =>
    split
    case isTrue missing =>
      simp only [mem_map, missing, Bool.false_eq_true, false_and, iff_false]
      rintro ⟨task, -, equal⟩
      exact known _ _ equal.symm
    case isFalse found =>
      cases round.adaptor platform with
      | none => simp
      | some mode =>
        simp [background, takeWhile_always, found]

theorem asked_mem_updateVideoTasks :
    .asked channel task ∈ round.updateVideoTasks .background platform channelId taskIds taskM ↔
      channel = channelId ∧ round.channelFound channelId = true ∧
        (round.adaptor platform).isSome ∧ ∃ id ∈ taskIds, taskM.lookup id = some task := by
  rw [mem_updateVideoTasks (by simp)]
  simp only [asked_mem_updateVideoSingleTask]
  constructor
  · rintro ⟨found, adapted, entry, member, rfl, lookup⟩
    exact ⟨rfl, found, adapted, entry.1, fst_mem_of_mem_zipIdx member, lookup⟩
  · rintro ⟨rfl, found, adapted, id, member, lookup⟩
    rw [← zipIdx_map_fst 0 taskIds] at member
    obtain ⟨entry, located, rfl⟩ := mem_map.mp member
    exact ⟨found, adapted, entry, located, rfl, lookup⟩

theorem applied_of_updateVideoTasks
    (applied : .applied channel upstreamID task answer ∈
      round.updateVideoTasks .background platform channelId taskIds taskM) :
    channel = channelId ∧ round.channelFound channelId = true ∧
      (round.adaptor platform).isSome ∧ upstreamID ∈ taskIds ∧
        taskM.lookup upstreamID = some task := by
  rw [mem_updateVideoTasks (by simp)] at applied
  obtain ⟨found, adapted, entry, member, told⟩ := applied
  obtain ⟨rfl, rfl, lookup, -⟩ := applied_mem_updateVideoSingleTask.mp told
  exact ⟨rfl, found, adapted, fst_mem_of_mem_zipIdx member, lookup⟩

theorem applied_of_batchEvents (applied : .applied channel upstreamID task answer ∈
      round.batchEvents ctx platform channelId taskM tasks) :
    channel = channelId ∧
      ((task ∈ tasks ∧ upstreamID = task.row.getUpstreamTaskID) ∨
        (upstreamID ∈ (round.fetchBatch platform channelId).listed ∧
          taskM.lookup upstreamID = some task)) := by
  cases outcome : (round.fetchBatch platform channelId).outcome with
  | error told =>
    simp only [batchEvents, outcome, mem_map, RoundEvent.applied.injEq] at applied
    obtain ⟨source, member, rfl, rfl, rfl, -⟩ := applied
    exact ⟨rfl, .inl ⟨member, rfl⟩⟩
  | ok results =>
    simp only [batchEvents, outcome, mem_filterMap, Option.map_eq_some_iff,
      RoundEvent.applied.injEq] at applied
    obtain ⟨item, member, source, found, rfl, rfl, rfl, -⟩ := applied
    have listed : item.1 ∈ (round.fetchBatch platform channelId).listed := by
      simp only [BatchFetch.listed, outcome]
      exact mem_map_of_mem (takeWhile_subset _ member)
    exact ⟨rfl, .inr ⟨listed, found⟩⟩

theorem applied_of_updateBatchTasks
    (applied : .applied channel upstreamID task answer ∈
      round.updateBatchTasks ctx platform channelId taskIds taskM) :
    channel = channelId ∧ round.channelFound channelId = true ∧
      ((task ∈ lookupTasks taskM taskIds ∧ upstreamID = task.row.getUpstreamTaskID) ∨
        (upstreamID ∈ (round.fetchBatch platform channelId).listed ∧
          taskM.lookup upstreamID = some task)) := by
  unfold updateBatchTasks at applied
  split at applied
  case isTrue => simp at applied
  case isFalse =>
    split at applied
    case isTrue => simp at applied
    case isFalse found =>
      have told : .applied channel upstreamID task answer ∈
          round.batchEvents ctx platform channelId taskM (lookupTasks taskM taskIds) := by
        simpa using applied
      obtain ⟨same, origin⟩ := applied_of_batchEvents told
      exact ⟨same, by simpa using found, origin⟩

end Channel

/-! ## What one platform does -/

section Platform

variable {round} {platform : String} {tasks : List PolledTask} {channel : Nat}
  {upstreamID : String} {task : PolledTask} {answer : UpstreamAnswer}

theorem mem_identified :
    task ∈ identified tasks ↔ task ∈ tasks ∧ task.row.getUpstreamTaskID ≠ "" := by
  simp [identified]

/-- The upstream ids that are listed for a channel. -/
theorem mem_taskIds {channelId : Nat} {id : String} :
    id ∈ ((taskChannelM tasks).lookup channelId).getD [] ↔
      ∃ task ∈ identified tasks, task.row.channelId = channelId ∧
        task.row.getUpstreamTaskID = id := by
  simp [taskChannelM, lookup_groupBy, and_assoc]

/-- The upstream ids of each channel of the platform are dealt with. -/
theorem mem_pollPlatform {event : RoundEvent}
    (known : ∀ task reason, event ≠ .markedFailed task reason) :
    event ∈ round.pollPlatform .background platform tasks ↔
      platform ≠ taskPlatformMidjourney ∧ ∃ channelId ∈ (taskChannelM tasks).keys,
        event ∈
          if round.adaptor platform = some .batch then
            round.updateBatchTasks .background platform channelId
              (((taskChannelM tasks).lookup channelId).getD []) (taskM tasks)
          else
            round.updateVideoTasks .background platform channelId
              (((taskChannelM tasks).lookup channelId).getD []) (taskM tasks) := by
  have unmarked : event ∉ (tasks.filter fun task => task.row.getUpstreamTaskID = "").map
      (.markedFailed · "") := by
    rintro member
    obtain ⟨task, -, equal⟩ := mem_map.mp member
    exact known _ _ equal.symm
  rw [pollPlatform, mem_append, or_iff_right unmarked]
  split
  case isTrue none => simp [none]
  case isFalse =>
    unfold dispatchPlatformUpdate
    split
    case isTrue midjourney => simp [midjourney]
    case isFalse other =>
      split
      · simp [updateBatchChannels, background, takeWhile_always, RangeOrder.mem_order, other]
      · simp [updateVideoChannels, mem_insertionSort, other]

theorem asked_mem_pollPlatform :
    .asked channel task ∈ round.pollPlatform .background platform tasks ↔
      platform ≠ taskPlatformMidjourney ∧ (round.adaptor platform).isSome ∧
        round.channelFound channel = true ∧ ∃ other ∈ identified tasks,
          other.row.channelId = channel ∧
            (taskM tasks).lookup other.row.getUpstreamTaskID = some task := by
  rw [mem_pollPlatform (by simp)]
  refine and_congr_right fun _ => ?_
  have listed : ∀ channelId, (∃ id ∈ ((taskChannelM tasks).lookup channelId).getD [],
      (taskM tasks).lookup id = some task) ↔ ∃ other ∈ identified tasks,
        other.row.channelId = channelId ∧
          (taskM tasks).lookup other.row.getUpstreamTaskID = some task := by
    intro channelId
    simp only [mem_taskIds]
    constructor
    · rintro ⟨id, ⟨other, member, owned, rfl⟩, lookup⟩
      exact ⟨other, member, owned, lookup⟩
    · rintro ⟨other, member, owned, lookup⟩
      exact ⟨_, ⟨other, member, owned, rfl⟩, lookup⟩
  constructor
  · rintro ⟨channelId, -, asked⟩
    split at asked
    case isTrue batch =>
      obtain ⟨rfl, found, lookup⟩ := asked_mem_updateBatchTasks.mp asked
      exact ⟨by simp [batch], found, (listed _).mp lookup⟩
    case isFalse =>
      obtain ⟨rfl, found, adapted, lookup⟩ := asked_mem_updateVideoTasks.mp asked
      exact ⟨adapted, found, (listed _).mp lookup⟩
  · rintro ⟨adapted, found, other, member, owned, lookup⟩
    have ids := (listed channel).mpr ⟨other, member, owned, lookup⟩
    refine ⟨channel, mem_keys_groupBy.mpr ⟨other, member, owned⟩, ?_⟩
    split
    · exact asked_mem_updateBatchTasks.mpr ⟨rfl, found, ids⟩
    · exact asked_mem_updateVideoTasks.mpr ⟨rfl, found, adapted, ids⟩

/-- What is applied was looked up by its upstream id, and this id was listed for the
channel or named in the answer to its batch. -/
theorem applied_of_pollPlatform
    (applied : .applied channel upstreamID task answer ∈
      round.pollPlatform .background platform tasks) :
    platform ≠ taskPlatformMidjourney ∧ (round.adaptor platform).isSome ∧
      round.channelFound channel = true ∧
      (taskM tasks).lookup upstreamID = some task ∧ ∃ other ∈ identified tasks,
        other.row.channelId = channel ∧
          (other.row.getUpstreamTaskID = upstreamID ∨
            (round.adaptor platform = some .batch ∧
              upstreamID ∈ (round.fetchBatch platform channel).listed)) := by
  rw [mem_pollPlatform (by simp)] at applied
  obtain ⟨polled, channelId, keyed, applied⟩ := applied
  split at applied
  case isTrue batch =>
    obtain ⟨rfl, found, ⟨member, rfl⟩ | ⟨listed, lookup⟩⟩ := applied_of_updateBatchTasks applied
    · obtain ⟨id, listed, lookup⟩ := mem_lookupTasks.mp member
      obtain ⟨other, owned⟩ := mem_taskIds.mp listed
      have named := (of_lookup_indexBy lookup).2
      subst named
      exact ⟨polled, by simp [batch], found, lookup, other, owned.1, owned.2.1, .inl owned.2.2⟩
    · obtain ⟨other, member, owned⟩ := mem_keys_groupBy.mp keyed
      exact ⟨polled, by simp [batch], found, lookup, other, member, owned, .inr ⟨batch, listed⟩⟩
  case isFalse =>
    obtain ⟨rfl, found, adapted, listed, lookup⟩ := applied_of_updateVideoTasks applied
    obtain ⟨other, member, owned, named⟩ := mem_taskIds.mp listed
    exact ⟨polled, adapted, found, lookup, other, member, owned, .inl named⟩

end Platform

/-! ## What a round does -/

variable {round : PollRound} {tasks : Table TaskRow}

/-- A round deals with each platform of the tasks that it read. -/
theorem mem_runTaskPollingOnce {event : RoundEvent} :
    event ∈ round.runTaskPollingOnce .background tasks ↔
      ∃ platform, (∃ task ∈ round.getAllUnFinishSyncTasks tasks, task.row.platform = platform) ∧
        event ∈ round.pollPlatform .background platform
          ((round.getAllUnFinishSyncTasks tasks).filter fun task =>
            task.row.platform = platform) := by
  simp only [runTaskPollingOnce, background, takeWhile_always, mem_flatMap,
    RangeOrder.mem_order, mem_keys_groupBy, lookup_groupBy, map_id]

variable {task : PolledTask}

/-- The tasks of one platform that a round has read. -/
theorem mem_identified_platform {platform : String} :
    task ∈ identified ((round.getAllUnFinishSyncTasks tasks).filter fun task =>
        task.row.platform = platform) ↔
      task ∈ round.getAllUnFinishSyncTasks tasks ∧ task.row.platform = platform ∧
        task.row.getUpstreamTaskID ≠ "" := by
  simp [mem_identified, and_assoc]

theorem of_mem_getAllUnFinishSyncTasks (member : task ∈ round.getAllUnFinishSyncTasks tasks) :
    tasks.find? task.id = some task.row ∧ task.row.task.isUnfinished = true := by
  unfold getAllUnFinishSyncTasks at member
  split at member
  case isTrue => simp at member
  case isFalse =>
    obtain ⟨⟨id, row⟩, taken, rfl⟩ := mem_map.mp member
    have selected := (mem_insertionSort _).mp (mem_of_mem_take taken)
    exact (tasks.mem_select _ _ _).mp selected

end PollRound

/-- A task that upstream is to be asked for. -/
structure PolledTask.Pending (tasks : Table TaskRow) (task : PolledTask) : Prop where
  stored : tasks.find? task.id = some task.row
  unfinished : task.row.task.isUnfinished = true
  named : task.row.getUpstreamTaskID ≠ ""

/-- Each pending task is asked for through its own channel, and what a channel told about
an upstream id is applied only to a task with this id that was asked for through this
channel, which is the task's own. -/
structure PollsRight (tasks : Table TaskRow) (events : List RoundEvent) : Prop where
  asksEach : ∀ task : PolledTask, task.Pending tasks →
    .asked task.row.channelId task ∈ events
  appliesOwn : ∀ channelId upstreamID task answer,
    .applied channelId upstreamID task answer ∈ events →
      task.row.channelId = channelId ∧ task.row.getUpstreamTaskID = upstreamID ∧
        .asked channelId task ∈ events

/-- The round reads each pending task and can poll it; upstream ids are distinct on each
platform; the answer to a batch names no pending task of another channel. -/
structure PollRound.Separates (round : PollRound) (tasks : Table TaskRow) : Prop where
  polled : ∀ task : PolledTask, task.Pending tasks →
    task ∈ round.getAllUnFinishSyncTasks tasks ∧
      task.row.platform ≠ taskPlatformMidjourney ∧
      (round.adaptor task.row.platform).isSome ∧
      round.channelFound task.row.channelId = true
  distinct : ∀ first second : PolledTask, first.Pending tasks → second.Pending tasks →
    first.row.platform = second.row.platform →
    first.row.getUpstreamTaskID = second.row.getUpstreamTaskID → first = second
  listsOwn : ∀ first second : PolledTask, first.Pending tasks → second.Pending tasks →
    first.row.platform = second.row.platform →
    round.adaptor first.row.platform = some .batch →
    second.row.getUpstreamTaskID ∈
      (round.fetchBatch first.row.platform first.row.channelId).listed →
    second.row.channelId = first.row.channelId

namespace PollRound

variable {round : PollRound} {tasks : Table TaskRow}

variable {task : PolledTask}

/-- What a round sorts by upstream id is pending. -/
theorem pending_of_identified {platform : String}
    (member : task ∈ identified ((round.getAllUnFinishSyncTasks tasks).filter fun task =>
      task.row.platform = platform)) :
    task.Pending tasks ∧ task.row.platform = platform := by
  obtain ⟨read, platform, named⟩ := mem_identified_platform.mp member
  obtain ⟨stored, unfinished⟩ := of_mem_getAllUnFinishSyncTasks read
  exact ⟨⟨stored, unfinished, named⟩, platform⟩

theorem asksEach_of_separates (separate : round.Separates tasks) (task : PolledTask)
    (pending : task.Pending tasks) :
    .asked task.row.channelId task ∈ round.runTaskPollingOnce .background tasks := by
  obtain ⟨read, polled, adapted, found⟩ := separate.polled task pending
  have member := mem_identified_platform.mpr ⟨read, rfl, pending.named⟩
  refine mem_runTaskPollingOnce.mpr ⟨task.row.platform, ⟨task, read, rfl⟩, ?_⟩
  refine asked_mem_pollPlatform.mpr ⟨polled, adapted, found, task, member, rfl, ?_⟩
  apply lookup_indexBy_of_unique (fun task : PolledTask => task.row.getUpstreamTaskID) member
  intro other otherMember named
  obtain ⟨otherPending, platform⟩ := pending_of_identified otherMember
  exact separate.distinct other task otherPending pending platform named

theorem pollsRight_of_separates (separate : round.Separates tasks) :
    PollsRight tasks (round.runTaskPollingOnce .background tasks) where
  asksEach := asksEach_of_separates separate
  appliesOwn := by
    intro channelId upstreamID task answer applied
    obtain ⟨platform, -, applied⟩ := mem_runTaskPollingOnce.mp applied
    obtain ⟨-, -, -, lookup, other, otherMember, rfl, origin⟩ := applied_of_pollPlatform applied
    obtain ⟨member, rfl⟩ := of_lookup_indexBy lookup
    obtain ⟨pending, taskPlatform⟩ := pending_of_identified member
    obtain ⟨otherPending, otherPlatform⟩ := pending_of_identified otherMember
    have owned : task.row.channelId = other.row.channelId := by
      rcases origin with named | ⟨batch, listed⟩
      · rw [separate.distinct other task otherPending pending
          (otherPlatform.trans taskPlatform.symm) named]
      · subst otherPlatform
        exact separate.listsOwn other task otherPending pending taskPlatform.symm batch listed
    exact ⟨owned, rfl, owned ▸ asksEach_of_separates separate task pending⟩

/-! ## A round that is cancelled -/

section Cancelled

variable (ctx : PollContext) {platform : String}

/-- A loop that may stop early does less than the loop that goes on. -/
theorem loop_sublist {α β : Type} {items : List α} {live : α → Bool} {cut full : α → List β}
    (each : ∀ item, (cut item).Sublist (full item)) :
    ((items.takeWhile live).flatMap cut).Sublist
      ((items.takeWhile fun _ => true).flatMap full) := by
  rw [takeWhile_always]
  exact ((takeWhile_sublist _).flatMap _).trans
    (List.Sublist.flatMap_right _ fun item _ => each item)

theorem batchEvents_sublist {channelId : Nat} {taskM : GoMap String PolledTask}
    {batch : List PolledTask} :
    (round.batchEvents ctx platform channelId taskM batch).Sublist
      (round.batchEvents .background platform channelId taskM batch) := by
  unfold batchEvents
  cases (round.fetchBatch platform channelId).outcome with
  | error answer => exact .refl _
  | ok results =>
      simp only [background, takeWhile_always]
      exact (takeWhile_sublist _).filterMap _

theorem updateBatchTasks_sublist {channelId : Nat} {taskIds : List String}
    {taskM : GoMap String PolledTask} :
    (round.updateBatchTasks ctx platform channelId taskIds taskM).Sublist
      (round.updateBatchTasks .background platform channelId taskIds taskM) := by
  unfold updateBatchTasks
  split
  · exact .refl _
  · split
    · exact .refl _
    · exact List.Sublist.append_left (batchEvents_sublist ctx) _

theorem updateVideoTasks_sublist {channelId : Nat} {taskIds : List String}
    {taskM : GoMap String PolledTask} :
    (round.updateVideoTasks ctx platform channelId taskIds taskM).Sublist
      (round.updateVideoTasks .background platform channelId taskIds taskM) := by
  unfold updateVideoTasks
  by_cases live : ctx.channelLive platform channelId = false ∨ taskIds = []
  · rw [if_pos live]
    exact nil_sublist _
  · have hasIds : taskIds ≠ [] := fun none => live (.inr none)
    have polls : ¬(background.channelLive platform channelId = false ∨ taskIds = []) := by
      simp [background, hasIds]
    rw [if_neg live, if_neg polls]
    split
    · exact .refl _
    · cases round.adaptor platform with
      | none => exact .refl _
      | some mode =>
          exact loop_sublist fun _ => .refl _

theorem pollPlatform_sublist {polled : List PolledTask} :
    (round.pollPlatform ctx platform polled).Sublist
      (round.pollPlatform .background platform polled) := by
  apply List.Sublist.append_left
  split
  · exact .refl _
  · unfold dispatchPlatformUpdate
    split
    · exact .refl _
    · split
      · exact loop_sublist fun _ => updateBatchTasks_sublist ctx
      · exact List.Sublist.flatMap_right _ fun _ _ => updateVideoTasks_sublist ctx

/-- Cancelling the context leaves events out, and changes none. -/
theorem runTaskPollingOnce_sublist :
    (round.runTaskPollingOnce ctx tasks).Sublist (round.runTaskPollingOnce .background tasks) := by
  exact loop_sublist fun _ => pollPlatform_sublist ctx

/-- However a round is cut off, it applies what a channel told only to its own tasks. -/
theorem cancelled_round_applies_own (separate : round.Separates tasks) {channelId : Nat}
    {upstreamID : String} {task : PolledTask} {answer : UpstreamAnswer}
    (applied : .applied channelId upstreamID task answer ∈ round.runTaskPollingOnce ctx tasks) :
    task.row.channelId = channelId ∧ task.row.getUpstreamTaskID = upstreamID := by
  have full := (runTaskPollingOnce_sublist ctx).subset applied
  obtain ⟨owned, named, -⟩ := (pollsRight_of_separates separate).appliesOwn _ _ _ _ full
  exact ⟨owned, named⟩

end Cancelled

end PollRound

end AiHub.Service

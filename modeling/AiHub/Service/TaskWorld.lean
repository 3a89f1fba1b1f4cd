import AiHub.Service.TaskOutcome
import AiHub.Library.Run

/-!
# Workers on tasks

Any number of workers read tasks, handle their copies and bill them, in any order.
A worker is a job on one task: the copy it read, and the billing it has yet to do.
A round that reads many tasks is as many jobs.  What upstream answers, the clock and
the failing statements are part of the events.

The main result is that a task that is done stays as it is, as long as users who
fetch it are told the same, and no round polls a copy that it has seen done.
-/

namespace AiHub.Service

open AiHub.Library AiHub.Common AiHub.Model

inductive JobKind where
  | sweep
  | poll
  | fetch
  | finished
  deriving DecidableEq, Repr

/-- A worker on a task. -/
structure Job where
  kind : JobKind
  task : Nat
  copy : Task
  todo : List BillingAction
  deriving DecidableEq

/-- A charge that was made for a task. -/
structure LedgerEntry where
  task : Nat
  account : Account
  delta : Int
  deriving DecidableEq, Repr

/-- The stored tasks, the workers, the charges made so far, and the tasks that a
settlement by usage took over. -/
structure World where
  tasks : Table Task
  jobs : Table Job
  ledger : List LedgerEntry
  takenOver : List Nat

/-- How a worker comes to a task. -/
inductive TaskQuery where
  | timedOut (settings : TaskSettings)
  | unfinished
  | byUser

def TaskQuery.accepts (task : Task) : TaskQuery → Bool
  | .timedOut settings =>
    decide (0 < settings.timeoutMinutes) && task.isTimedOut settings.timeoutCutoff
  | .unfinished => task.isUnfinished
  | .byUser => true

def TaskQuery.kind : TaskQuery → JobKind
  | .timedOut _ => .sweep
  | .unfinished => .poll
  | .byUser => .fetch

/-- What a worker does with its copy. -/
inductive Handling where
  | sweep (settings : TaskSettings) (fault : Bool)
  | pollSingle (settings : TaskSettings) (fault : Bool) (facts : CompletionFacts)
      (answer : PollAnswer)
  | pollBatch (settings : TaskSettings) (fault : Bool) (facts : CompletionFacts)
      (answer : BatchAnswer)
  | markFailed (fault : Bool) (failReason : String)
  | fetch (settings : TaskSettings) (fault : Bool) (answer : Option TaskInfo)

def Handling.kind : Handling → JobKind
  | .sweep .. => .sweep
  | .pollSingle .. | .pollBatch .. | .markFailed .. => .poll
  | .fetch .. => .fetch

def Handling.handle (row copy : Task) : Handling → Handled
  | .sweep settings fault => sweepTimedOutTask settings fault row copy
  | .pollSingle settings fault facts answer =>
    updateVideoSingleTask settings fault facts answer row copy
  | .pollBatch settings fault facts answer =>
    updateBatchTask settings fault facts answer row copy
  | .markFailed fault failReason => markTaskFailedUsingCAS fault failReason row copy
  | .fetch settings fault answer => tryRealtimeFetch settings fault answer row copy

/-- The sweep reads only tasks that are not done. -/
theorem TaskQuery.running_of_sweep {query : TaskQuery} {row : Task}
    (accepted : query.accepts row = true) (sweep : query.kind = .sweep) :
    row.status.isTerminal = false := by
  cases query with
  | timedOut settings =>
    simp only [TaskQuery.accepts, Task.isTimedOut, Task.isUnfinished, Bool.and_eq_true,
      Bool.not_eq_true'] at accepted
    exact accepted.2.1.2
  | unfinished => cases sweep
  | byUser => cases sweep

inductive TaskEvent where
  | read (task : Nat) (query : TaskQuery)
  | handle (job : Nat) (handling : Handling)
  | bill (job : Nat)

/-! ## Steps -/

namespace World

def readTask (world : World) (task : Nat) (query : TaskQuery) : World :=
  match world.tasks.find? task with
  | none => world
  | some row =>
    if query.accepts row then
      { world with jobs := world.jobs.insert ⟨query.kind, task, row, []⟩ }
    else world

/-- Store what handling left behind.  A round may list one task twice, so it can poll the
same copy again; the other workers are through with theirs. -/
def store (world : World) (id : Nat) (job : Job) (handled : Handled) : World where
  tasks := world.tasks.set job.task handled.row
  jobs := world.jobs.set id
    { job with
      kind := if job.kind = .poll then .poll else .finished
      copy := handled.copy
      todo := handled.todo }
  ledger := world.ledger
  takenOver := if handled.settled then job.task :: world.takenOver else world.takenOver

/-- A worker handles its copy after its earlier billing is done. -/
def handleJob (world : World) (id : Nat) (handling : Handling) : World :=
  match world.jobs.find? id with
  | none => world
  | some job =>
    if job.kind = handling.kind ∧ job.todo = [] then
      match world.tasks.find? job.task with
      | none => world
      | some row => world.store id job (handling.handle row job.copy)
    else world

/-- A worker makes its next billing write. -/
def billJob (world : World) (id : Nat) : World :=
  match world.jobs.find? id with
  | none => world
  | some job =>
    match job.todo with
    | [] => world
    | .charge account delta :: rest =>
      { world with
        jobs := world.jobs.set id { job with todo := rest }
        ledger := world.ledger ++ [⟨job.task, account, delta⟩] }
    | .updateQuota quota :: rest =>
      { world with
        tasks := world.tasks.updateWhere (fun key _ => decide (key = job.task))
          fun row => { row with quota := quota }
        jobs := world.jobs.set id
          { job with copy := { job.copy with quota := quota }, todo := rest } }

def step (world : World) : TaskEvent → World
  | .read task query => world.readTask task query
  | .handle id handling => world.handleJob id handling
  | .bill id => world.billJob id

variable (world : World)

/-- A reading worker starts with the row as its copy. -/
theorem readTask_cases (task : Nat) (query : TaskQuery) :
    world.readTask task query = world ∨
      ∃ row, world.tasks.find? task = some row ∧ query.accepts row = true ∧
        world.readTask task query =
          { world with jobs := world.jobs.insert ⟨query.kind, task, row, []⟩ } := by
  unfold readTask
  grind

/-- Handling does nothing, or a worker of the right kind without pending billing
handles its copy. -/
theorem handleJob_cases (id : Nat) (handling : Handling) :
    world.handleJob id handling = world ∨
      ∃ job row, world.jobs.find? id = some job ∧ job.kind = handling.kind ∧ job.todo = [] ∧
        world.tasks.find? job.task = some row ∧
        world.handleJob id handling = world.store id job (handling.handle row job.copy) := by
  unfold handleJob
  grind

/-- Billing changes neither the status of a row nor the status of a copy. -/
theorem billJob_status (id key : Nat) :
    ((world.billJob id).tasks.find? key).map Task.status =
      (world.tasks.find? key).map Task.status := by
  unfold billJob
  split
  · rfl
  · split
    · rfl
    · rfl
    · rw [Table.find?_updateWhere, Option.map_map]
      split <;> rfl

/-! ## Sweeping workers hold copies that were not done -/

/-- The copy of every worker that has yet to sweep was not done. -/
def SweepsRunning (world : World) : Prop :=
  world.jobs.All fun _ job => job.kind = .sweep → job.copy.status.isTerminal = false

theorem sweepsRunning_bill {world : World} (id : Nat) (running : world.SweepsRunning) :
    (world.billJob id).SweepsRunning := by
  unfold billJob
  split
  · exact running
  · rename_i job found
    split
    · exact running
    · exact Table.All.set running (running id job found)
    · exact Table.All.set running (running id job found)

theorem sweepsRunning_step (event : TaskEvent) (running : world.SweepsRunning) :
    (world.step event).SweepsRunning := by
  cases event with
  | read task query =>
    rcases world.readTask_cases task query with unchanged | ⟨row, stored, accepted, read⟩
    · rwa [step, unchanged]
    · rw [step, read]
      exact Table.All.insert running (TaskQuery.running_of_sweep accepted)
  | handle id handling =>
    rcases world.handleJob_cases id handling with unchanged | ⟨job, row, -, -, -, -, handled⟩
    · rwa [step, unchanged]
    · rw [step, handled]
      refine Table.All.set running ?_
      split <;> simp
  | bill id => exact sweepsRunning_bill id running

end World

/-! ## Tasks that are done -/

/-- Handling that agrees with a task that is done: a poll works on a copy that was not
done, and the answer to a fetch of a finished task is the status that the copy
already has, or none. -/
def Handling.AgreesWithDone (copy : Task) : Handling → Prop
  | .pollSingle .. | .pollBatch .. => copy.status.isTerminal = false
  | .fetch _ _ answer =>
    copy.status.isTerminal = true →
      ∀ info ∈ answer, info.status = .empty ∨ info.status = copy.status
  | .sweep .. | .markFailed .. => True

variable {copy row : Task} {world : World} {task : Nat} {status : TaskStatus}

theorem fetchedStatus_of_agrees {settings : TaskSettings} {fault : Bool} {answer : Option TaskInfo}
    (agrees : (Handling.fetch settings fault answer).AgreesWithDone copy)
    (done : copy.status.isTerminal = true) : fetchedStatus answer copy = copy.status := by
  cases answer with
  | none => rfl
  | some info =>
    simp only [fetchedStatus]
    rcases agrees done info rfl with absent | same
    · simp [absent]
    · simp [same]

/-- A row that is done is out of reach of a copy that was not. -/
theorem Progressed.row_of_done {handled : Handled} (progressed : Progressed row copy handled)
    (running : copy.status.isTerminal = false) (done : row.status.isTerminal = true) :
    handled.row = row := by
  cases progressed with
  | kept stored => exact stored
  | advanced won =>
    rw [won, running] at done
    contradiction
  | finished won =>
    rw [won, running] at done
    contradiction

theorem Handling.handle_status_of_done {handling : Handling} (agrees : handling.AgreesWithDone copy)
    (sweeps : handling.kind = .sweep → copy.status.isTerminal = false)
    (done : row.status.isTerminal = true) :
    (handling.handle row copy).row.status = row.status := by
  cases handling with
  | sweep settings fault =>
    exact congrArg Task.status (sweepTimedOutTask_progressed.row_of_done (sweeps rfl) done)
  | pollSingle settings fault facts answer =>
    exact congrArg Task.status
      ((updateVideoSingleTask_progressed answer agrees).row_of_done agrees done)
  | pollBatch settings fault facts answer =>
    exact congrArg Task.status ((updateBatchTask_progressed answer agrees).row_of_done agrees done)
  | markFailed fault failReason =>
    rcases markTaskFailedUsingCAS_cases failReason with unchanged | ⟨won, running, -⟩
    · rw [Handling.handle, unchanged]
    · rw [won, running] at done
      contradiction
  | fetch settings fault answer =>
    obtain ⟨-, -, -, fetched, stored⟩ := tryRealtimeFetch_cases settings fault answer row copy
    rcases stored with unchanged | ⟨won, written⟩
    · exact congrArg Task.status unchanged
    · rw [Handling.handle, written, fetched, won]
      exact fetchedStatus_of_agrees agrees (won ▸ done)

def TaskEvent.AgreesWithDone (task : Nat) (world : World) : TaskEvent → Prop
  | .handle id handling =>
    ∀ job ∈ world.jobs.find? id, job.task = task → handling.AgreesWithDone job.copy
  | .read .. | .bill .. => True

/-- The row of a task is stored with the given status. -/
def World.HasStatus (world : World) (task : Nat) (status : TaskStatus) : Prop :=
  (world.tasks.find? task).map Task.status = some status

theorem World.HasStatus.eq (has : world.HasStatus task status)
    (stored : world.tasks.find? task = some row) :
    row.status = status := by
  simpa [World.HasStatus, stored] using has

theorem World.hasStatus_store {id : Nat} {job : Job} {handled : Handled}
    (stored : world.HasStatus task status) (kept : job.task = task → handled.row.status = status) :
    (world.store id job handled).HasStatus task status := by
  unfold World.HasStatus World.store at *
  simp only [Table.find?_set]
  split
  · rename_i same
    obtain ⟨row, found, -⟩ := Option.map_eq_some_iff.mp stored
    simp [found, kept same.symm]
  · exact stored

/-- One step keeps the status of a task that is done. -/
theorem World.hasStatus_step {event : TaskEvent} (done : status.isTerminal = true)
    (running : world.SweepsRunning) (stored : world.HasStatus task status)
    (agrees : event.AgreesWithDone task world) :
    (world.step event).HasStatus task status := by
  cases event with
  | read key query =>
    rcases world.readTask_cases key query with unchanged | ⟨row, -, -, read⟩
    · rwa [World.step, unchanged]
    · rw [World.step, read]
      exact stored
  | handle id handling =>
    rcases world.handleJob_cases id handling with
      unchanged | ⟨job, row, found, kind, -, rowFound, handled⟩
    · rwa [World.step, unchanged]
    · rw [World.step, handled]
      refine World.hasStatus_store stored fun same => ?_
      subst same
      have status := stored.eq rowFound
      rw [← status] at done ⊢
      exact Handling.handle_status_of_done (agrees job found rfl)
        (fun sweep => running id job found (kind.trans sweep)) done
  | bill id =>
    unfold World.HasStatus at *
    rw [World.step, World.billJob_status, stored]

/-- Once a task is done its status never changes, in every run from a state without
workers whose handling agrees with what is done. -/
theorem terminal_status_absorbing {world : World} {task : Nat} {status : TaskStatus}
    {first second : List TaskEvent} (idle : world.jobs.rows = [])
    (reached : (run World.step world first).HasStatus task status) (done : status.isTerminal = true)
    (agrees : Guarded World.step (fun state event => event.AgreesWithDone task state)
      (run World.step world first) second) :
    (run World.step world (first ++ second)).HasStatus task status := by
  have started : world.SweepsRunning := by
    apply Table.all_of_rows
    simp [idle]
  have running : (run World.step world first).SweepsRunning :=
    run_invariant_of_step World.sweepsRunning_step first started
  rw [run_append]
  have preserved : ∀ (state : World) (event : TaskEvent),
      state.SweepsRunning ∧ state.HasStatus task status →
      event.AgreesWithDone task state →
      (state.step event).SweepsRunning ∧ (state.step event).HasStatus task status :=
    fun state event holds guard =>
      ⟨World.sweepsRunning_step state event holds.1,
        World.hasStatus_step done holds.1 holds.2 guard⟩
  exact (run_invariant preserved second ⟨running, reached⟩ agrees).2

/-! ## A run on one task -/

/-- A task that was charged to a wallet and a token. -/
def chargedTask : Task where
  taskID := "task_a"
  userId := 7
  quota := 40
  status := .inProgress
  failReason := ""
  submitTime := 1800000000
  startTime := 0
  finishTime := 0
  progress := "30%"
  privateData := ⟨"", some .wallet, 0, 3, none, "", 0⟩
  data := ""

def oneTask : World where
  tasks := Table.empty.insert chargedTask
  jobs := Table.empty
  ledger := []
  takenOver := []

/-- The defaults, at a time when the task has timed out. -/
def pollSettings : TaskSettings where
  pollMaxFailures := 20
  timeoutMinutes := 1440
  serverAddress := ""
  now := 1800090000

/-- The sweep fails the task and gives it back. -/
def timeoutRun : List TaskEvent :=
  [.read 1 (.timedOut pollSettings), .handle 1 (.sweep pollSettings false), .bill 1, .bill 1,
    .bill 1]

/-- A user fetches the task, and upstream answers with the given status. -/
def fetchRun (status : TaskStatus) : List TaskEvent :=
  [.read 1 .byUser, .handle 2 (.fetch pollSettings false (some ⟨status, "", "video.mp4", "", ""⟩))]

theorem terminal_status_absorbing_fetch :
    (run World.step oneTask timeoutRun).HasStatus 1 .failure ∧
      (run World.step oneTask (timeoutRun ++ fetchRun .failure)).HasStatus 1 .failure := by
  have reached : (run World.step oneTask timeoutRun).HasStatus 1 .failure := rfl
  refine ⟨reached, terminal_status_absorbing rfl reached rfl ⟨trivial, ?_, trivial⟩⟩
  intro job found _ _ info answered
  cases answered
  cases found
  exact .inr rfl

/-- A task that the sweep failed and gave back is stored as a success when a user fetches
it late. -/
theorem refunded_task_fetched_as_success :
    let refunded := run World.step oneTask timeoutRun
    let fetched := run World.step oneTask (timeoutRun ++ fetchRun .success)
    refunded.HasStatus 1 .failure ∧
      refunded.ledger = [⟨1, .wallet 7, -40⟩, ⟨1, .token 3, -40⟩] ∧
      fetched.HasStatus 1 .success ∧
      (fetched.tasks.find? 1).map (·.privateData.resultURL) = some "video.mp4" := by
  refine ⟨rfl, by decide, rfl, by decide⟩

end AiHub.Service

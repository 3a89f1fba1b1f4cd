import AiHub.Service.TaskWorld

/-!
# Refunds of failed tasks

A task that was charged goes through three stages: it is waiting and nothing was
billed, one worker is giving it back, or it is over without a refund because it
succeeded or its settlement took over.  Every step keeps to these stages, provided
that nobody fails the task without billing it, and so a task that failed is given
back exactly once by the time all workers are through.
-/

namespace AiHub.Service

open AiHub.Library AiHub.Common AiHub.Model List Table.All Handling World

/-! ## Entries of a task -/

/-- The charges made for a task. -/
def World.entriesOf (world : World) (id : Nat) : List LedgerEntry :=
  world.ledger.filter fun entry => decide (entry.task = id)

def BillingAction.entry? (id : Nat) : BillingAction → Option LedgerEntry
  | .charge account delta => some ⟨id, account, delta⟩
  | .updateQuota _ => none

/-- The charges that a worker on the task has yet to make. -/
def pendingEntries (id : Nat) (todo : List BillingAction) : List LedgerEntry :=
  todo.filterMap (BillingAction.entry? id)

/-- Credit the quota of the task once to its funding and once to its token, if any. -/
def creditsOf (id : Nat) (task : Task) : List LedgerEntry :=
  ⟨id, fundingAccount task, -task.quota⟩ ::
    if task.privateData.tokenId = 0 then []
    else [⟨id, .token task.privateData.tokenId, -task.quota⟩]

theorem pendingEntries_refund (id : Nat) {task : Task} (positive : 0 < task.quota) :
    pendingEntries id (refundTaskQuota task) = creditsOf id task := by
  unfold pendingEntries refundTaskQuota taskAdjustFunding taskAdjustTokenQuota creditsOf
  rw [if_neg (not_le.mpr positive)]
  by_cases playground : task.privateData.tokenId = 0
  · simp [BillingAction.entry?, playground]
  · simp [BillingAction.entry?, playground, positive.ne']

theorem pendingEntries_filter (id task : Nat) (todo : List BillingAction) :
    (pendingEntries task todo).filter (fun entry => decide (entry.task = id)) =
      if task = id then pendingEntries id todo else [] := by
  have owner : ∀ entry ∈ pendingEntries task todo, entry.task = task := by
    intro entry member
    obtain ⟨action, -, entered⟩ := mem_filterMap.mp member
    cases action with
    | charge account delta =>
      cases entered
      rfl
    | updateQuota quota => cases entered
  split
  · rename_i same
    subst same
    exact filter_eq_self.mpr fun entry member => decide_eq_true (owner entry member)
  · rename_i different
    refine filter_eq_nil_iff.mpr fun entry member => ?_
    simpa [owner entry member] using different

/-! ## What a handling accounts for -/

/-- The task is charged like the original one, and is not a legacy task. -/
structure ChargedAs (origin task : Task) : Prop where
  bill : taskBill task = taskBill origin
  modern : isLegacy task = false

theorem ChargedAs.of_sameBill {origin before after : Task} (charged : ChargedAs origin before)
    (same : SameBill before after) : ChargedAs origin after :=
  ⟨same.1.trans charged.bill, same.2.trans charged.modern⟩

/-- Handling that does not fail a task behind the back of its billing: a bulk update and
the answer to a fetch do not fail it, and a batch does not make it a legacy task. -/
def Handling.KeepsRefund (row copy : Task) : Handling → Prop
  | .pollBatch _ _ _ answer => answer.KeepsLegacy
  | .markFailed .. => row.status = copy.status → copy.status.isTerminal = true
  | .fetch _ _ answer =>
    row.status = copy.status → copy.status.isTerminal = false →
      ∀ info ∈ answer, info.status ≠ .failure
  | .sweep .. | .pollSingle .. => True

/-- Handling either bills nothing and does not fail a task, or it finishes one. -/
inductive BilledOutcome (row copy : Task) (handled : Handled) : Prop where
  | quiet (idle : handled.todo = []) (stored : handled.row = row ∨ handled.row = handled.copy)
      (calm : row.status.isTerminal = false → handled.row.status ≠ .failure)
  | finished (won : row.status = copy.status) (running : copy.status.isTerminal = false)
      (stored : handled.row = handled.copy) (done : handled.copy.status.isTerminal = true)
      (billed : handled.copy.status = .failure →
        handled.settled = true ∨
          handled.settled = false ∧ handled.todo = refundTaskQuota handled.copy)

theorem ne_failure_of_running {status : TaskStatus} (running : status.isTerminal = false) :
    status ≠ .failure := by
  rintro rfl
  contradiction

theorem Progressed.billedOutcome {row copy : Task} {handled : Handled}
    (progressed : Progressed row copy handled) (running : copy.status.isTerminal = false) :
    BilledOutcome row copy handled := by
  cases progressed with
  | kept stored _ idle =>
    exact .quiet idle (.inl stored) fun rowRunning => stored ▸ ne_failure_of_running rowRunning
  | advanced _ stored still _ idle =>
    exact .quiet idle (.inr stored) fun _ => stored ▸ ne_failure_of_running still
  | finished won stored done billed => exact .finished won running stored done billed

theorem fetchedStatus_ne_failure {answer : Option TaskInfo} {copy : Task}
    (running : copy.status.isTerminal = false)
    (calm : ∀ info ∈ answer, info.status ≠ .failure) : fetchedStatus answer copy ≠ .failure := by
  cases answer with
  | none => exact ne_failure_of_running running
  | some info =>
    simp only [fetchedStatus]
    split
    · exact calm info rfl
    · exact ne_failure_of_running running

section Handling

variable {handling : Handling} {row copy origin : Task}

theorem Handling.handle_billedOutcome (agrees : handling.AgreesWithDone copy)
    (keeps : handling.KeepsRefund row copy)
    (sweeps : handling.kind = .sweep → copy.status.isTerminal = false) :
    BilledOutcome row copy (handling.handle row copy) := by
  cases handling with
  | sweep settings fault => exact sweepTimedOutTask_progressed.billedOutcome (sweeps rfl)
  | pollSingle settings fault facts answer =>
    exact (updateVideoSingleTask_progressed answer agrees).billedOutcome agrees
  | pollBatch settings fault facts answer =>
    exact (updateBatchTask_progressed answer agrees).billedOutcome agrees
  | markFailed fault failReason =>
    rcases markTaskFailedUsingCAS_cases failReason with unchanged | ⟨won, running, -⟩
    · rw [handle, unchanged]
      exact .quiet rfl (.inl rfl) ne_failure_of_running
    · rw [keeps won] at running
      contradiction
  | fetch settings fault answer =>
    obtain ⟨-, idle, -, fetched, stored⟩ := tryRealtimeFetch_cases settings fault answer row copy
    rcases stored with unchanged | ⟨won, written⟩
    · exact .quiet idle (.inl unchanged)
        fun running => (congrArg Task.status unchanged).trans_ne (ne_failure_of_running running)
    · refine .quiet idle (.inr written) fun running => ?_
      rw [won] at running
      rw [handle, written, fetched]
      exact fetchedStatus_ne_failure running (keeps won running)

theorem Handling.handle_charged (keeps : handling.KeepsRefund row copy)
    (charged : ChargedAs origin copy) : ChargedAs origin (handling.handle row copy).copy := by
  cases handling with
  | sweep settings fault => exact charged.of_sameBill (sweepTimedOutTask_bill charged.modern)
  | pollSingle settings fault facts answer =>
    exact charged.of_sameBill (updateVideoSingleTask_bill answer)
  | pollBatch settings fault facts answer =>
    exact charged.of_sameBill (updateBatchTask_bill keeps charged.modern)
  | markFailed fault failReason =>
    rcases markTaskFailedUsingCAS_cases failReason with unchanged | ⟨-, -, same⟩
    · rw [handle, unchanged]
      exact charged
    · rw [handle, same]
      exact charged
  | fetch settings fault answer =>
    exact charged.of_sameBill (tryRealtimeFetch_cases settings fault answer row copy).2.2.1

theorem Handling.handle_done (agrees : handling.AgreesWithDone copy)
    (sweeps : handling.kind = .sweep → copy.status.isTerminal = false)
    (done : copy.status.isTerminal = true) :
    (handling.handle row copy).copy.status.isTerminal = true := by
  cases handling with
  | sweep settings fault =>
    rw [sweeps rfl] at done
    contradiction
  | pollSingle settings fault facts answer =>
    rw [show copy.status.isTerminal = false from agrees] at done
    contradiction
  | pollBatch settings fault facts answer =>
    rw [show copy.status.isTerminal = false from agrees] at done
    contradiction
  | markFailed fault failReason =>
    rcases markTaskFailedUsingCAS_cases failReason with unchanged | ⟨-, -, same⟩
    · rwa [handle, unchanged]
    · rwa [handle, same]
  | fetch settings fault answer =>
    obtain ⟨-, -, -, fetched, -⟩ := tryRealtimeFetch_cases settings fault answer row copy
    rwa [handle, fetched, fetchedStatus_of_agrees agrees done]

end Handling

/-! ## Stages of a task -/

/-- Where a charged task is. -/
inductive Stage (id : Nat) (origin : Task) (world : World) : Prop where
  | waiting {row : Task} (stored : world.tasks.find? id = some row)
      (running : row.status.isTerminal = false) (charged : ChargedAs origin row)
      (untouched : world.entriesOf id = [])
      (idle : world.jobs.All fun _ job => job.task = id → job.todo = [])
  | refunding {worker : Nat} {job : Job} (failed : world.HasStatus id .failure)
      (found : world.jobs.find? worker = some job) (owner : job.task = id)
      (paid : world.entriesOf id ++ pendingEntries id job.todo = creditsOf id origin)
      (others : world.jobs.All fun key other =>
        other.task = id → key ≠ worker → other.todo = [])
  | closed {status : TaskStatus} (stored : world.HasStatus id status)
      (done : status.isTerminal = true)
      (settled : status = .success ∨ id ∈ world.takenOver)

/-- A worker on the task: its copy is charged unless it is done, and it bills only what is
done. -/
structure WorksOn (id : Nat) (origin : Task) (job : Job) : Prop where
  charged : job.task = id → job.copy.status.isTerminal = false → ChargedAs origin job.copy
  billing : job.task = id → job.todo ≠ [] → job.copy.status.isTerminal = true

/-- The invariant of all runs. -/
structure Followed (id : Nat) (origin : Task) (world : World) : Prop where
  sweeps : world.SweepsRunning
  workers : world.jobs.All fun _ job => WorksOn id origin job
  stage : Stage id origin world

section Stages

variable {id worker : Nat} {origin row : Task} {world : World} {job : Job} {handled : Handled}

theorem Stage.charged_of_running (stage : Stage id origin world)
    (stored : world.tasks.find? id = some row) (running : row.status.isTerminal = false) :
    ChargedAs origin row := by
  cases stage with
  | waiting found _ charged =>
    cases found.symm.trans stored
    exact charged
  | refunding failed =>
    rw [failed.eq stored] at running
    contradiction
  | closed found done =>
    rw [found.eq stored, done] at running
    contradiction

theorem World.hasStatus_of_find? (stored : world.tasks.find? id = some row) :
    world.HasStatus id row.status := by
  simp [World.HasStatus, stored]

theorem World.find?_store (stored : world.tasks.find? job.task = some row) :
    (world.store worker job handled).tasks.find? job.task = some handled.row :=
  Table.find?_set_self handled.row stored

theorem World.takenOver_store (settled : id ∈ world.takenOver) :
    id ∈ (world.store worker job handled).takenOver := by
  simp only [store]
  split
  · exact mem_cons_of_mem _ settled
  · exact settled

/-- A stage survives a change that the task does not see: its row keeps its status, or is
the same row while it is waiting, and the workers on it are the same. -/
theorem Stage.of_frame {after : World} (stage : Stage id origin world)
    (tasks : after.tasks.find? id = world.tasks.find? id)
    (entries : after.entriesOf id = world.entriesOf id)
    (takenOver : id ∈ world.takenOver → id ∈ after.takenOver)
    (kept : ∀ key job, world.jobs.find? key = some job → job.task = id →
      after.jobs.find? key = some job)
    (only : after.jobs.All fun key job =>
      job.task = id → job.todo = [] ∨ world.jobs.find? key = some job) :
    Stage id origin after := by
  cases stage with
  | waiting stored running charged untouched idle =>
    refine .waiting (tasks.trans stored) running charged (entries.trans untouched) ?_
    intro key job found owner
    rcases only key job found owner with none | before
    · exact none
    · exact idle key job before owner
  | refunding failed found owner paid others =>
    refine .refunding ?_ (kept _ _ found owner) owner (by rw [entries, paid]) ?_
    · rwa [World.HasStatus, tasks]
    · intro key job found owner other
      rcases only key job found owner with none | before
      · exact none
      · exact others key job before owner other
  | closed stored done settled =>
    refine .closed ?_ done (settled.imp_right takenOver)
    rwa [World.HasStatus, tasks]

theorem stage_read (query : TaskQuery) (task : Nat) (row : Task) (stage : Stage id origin world) :
    Stage id origin { world with jobs := world.jobs.insert ⟨query.kind, task, row, []⟩ } := by
  refine stage.of_frame rfl rfl (fun settled => settled) ?_ ?_
  · intro key job found _
    have old : key ≠ world.jobs.next := (Table.key_lt_next found).ne
    rw [Table.find?_insert, if_neg old, found]
  · refine insert ?_ fun _ => .inl rfl
    exact fun key job found _ => .inr found

/-- What another task's worker does is not seen. -/
theorem stage_of_other {after : World} {next : Job} (stage : Stage id origin world)
    (found : world.jobs.find? worker = some job) (foreign : job.task ≠ id)
    (jobs : after.jobs = world.jobs.set worker next) (same : next.task = job.task)
    (tasks : after.tasks.find? id = world.tasks.find? id)
    (entries : after.entriesOf id = world.entriesOf id)
    (takenOver : id ∈ world.takenOver → id ∈ after.takenOver) : Stage id origin after := by
  refine stage.of_frame tasks entries takenOver ?_ ?_
  · intro key other stored owner
    have different : key ≠ worker := by
      rintro rfl
      cases found.symm.trans stored
      exact foreign owner
    rw [jobs, Table.find?_set_of_ne _ _ different, stored]
  · rw [jobs]
    refine set ?_ fun owner => absurd (same ▸ owner) foreign
    exact fun key other stored _ => .inr stored

/-- Handling a waiting task. -/
theorem stage_store_waiting (positive : 0 < origin.quota)
    (found : world.jobs.find? worker = some job)
    (stored : world.tasks.find? job.task = some row) (running : row.status.isTerminal = false)
    (charged : ChargedAs origin row) (untouched : world.entriesOf job.task = [])
    (idle : world.jobs.All fun _ other => other.task = job.task → other.todo = [])
    (copied : job.copy.status.isTerminal = false → ChargedAs origin handled.copy)
    (still : handled.copy.status.isTerminal = false → job.copy.status.isTerminal = false)
    (accounted : BilledOutcome row job.copy handled) :
    Stage job.task origin (world.store worker job handled) := by
  have after : (world.store worker job handled).tasks.find? job.task = some handled.row :=
    find?_store stored
  cases accounted with
  | quiet none written calm =>
    cases done : handled.row.status.isTerminal with
    | false =>
      refine .waiting after done ?_ untouched (set idle fun _ => none)
      rcases written with unchanged | copy
      · rwa [unchanged]
      · rw [copy] at done ⊢
        exact copied (still done)
    | true =>
      have succeeded := (TaskStatus.eq_of_isTerminal done).resolve_left (calm running)
      exact .closed (hasStatus_of_find? after) done (.inl succeeded)
  | finished _ copyRunning written done billed =>
    have charged := copied copyRunning
    have status := hasStatus_of_find? after
    rw [written] at status
    rcases TaskStatus.eq_of_isTerminal done with failed | succeeded
    · rcases billed failed with settled | ⟨-, todo⟩
      · refine .closed status done (.inr ?_)
        simp [store, settled]
      · rw [failed] at status
        refine .refunding status (Table.find?_set_self _ found) rfl ?_ ?_
        · have entries : (world.store worker job handled).entriesOf job.task = [] := untouched
          have same := pendingEntries_refund job.task positive
          rw [entries, nil_append, todo, refundTaskQuota_congr charged.bill, same]
        · refine set ?_ fun _ other => absurd rfl other
          exact fun key other stored owner _ => idle key other stored owner
    · exact .closed status done (.inl succeeded)

/-- Handling by a worker on the task, whatever its stage. -/
theorem stage_store (positive : 0 < origin.quota) (stage : Stage job.task origin world)
    (found : world.jobs.find? worker = some job) (free : job.todo = [])
    (stored : world.tasks.find? job.task = some row)
    (copied : job.copy.status.isTerminal = false → ChargedAs origin handled.copy)
    (still : handled.copy.status.isTerminal = false → job.copy.status.isTerminal = false)
    (kept : row.status.isTerminal = true → handled.row.status = row.status)
    (accounted : BilledOutcome row job.copy handled) :
    Stage job.task origin (world.store worker job handled) := by
  cases stage with
  | waiting found' running charged untouched idle =>
    cases found'.symm.trans stored
    exact stage_store_waiting positive found stored running charged untouched idle copied still
      accounted
  | @refunding payer payment failed paying owner paid others =>
    have status := failed.eq stored
    have done : row.status.isTerminal = true := by rw [status]; rfl
    have failed : (world.store worker job handled).HasStatus job.task .failure :=
      hasStatus_store failed fun _ => (kept done).trans status
    cases accounted with
    | finished won running =>
      rw [won, running] at done
      contradiction
    | quiet none =>
      by_cases same : payer = worker
      · subst same
        cases paying.symm.trans found
        refine .refunding failed (Table.find?_set_self _ found) rfl ?_
          (set others fun _ other => absurd rfl other)
        rw [none, ← free]
        exact paid
      · refine .refunding failed ((Table.find?_set_of_ne _ _ same).trans paying) owner paid ?_
        exact set others fun _ _ => none
  | closed before done settled =>
    have status := before.eq stored
    refine .closed (hasStatus_store before fun _ => ?_) done (settled.imp_right takenOver_store)
    rw [kept (status ▸ done), status]

/-! ## Billing -/

/-- A worker makes its next write: it is entered if it is a charge, and what is left to do
is the rest. -/
theorem World.billJob_cases (world : World) (worker : Nat) :
    world.billJob worker = world ∨
      ∃ job action rest copy, world.jobs.find? worker = some job ∧ job.todo = action :: rest ∧
        copy.status = job.copy.status ∧
        (world.billJob worker).jobs =
          world.jobs.set worker { job with copy := copy, todo := rest } ∧
        (world.billJob worker).ledger = world.ledger ++ pendingEntries job.task [action] ∧
        (world.billJob worker).takenOver = world.takenOver ∧
        ∀ key, key ≠ job.task → (world.billJob worker).tasks.find? key = world.tasks.find? key := by
  unfold billJob
  cases found : world.jobs.find? worker with
  | none => exact .inl rfl
  | some job =>
    simp only
    cases todo : job.todo with
    | nil => exact .inl rfl
    | cons action rest =>
      right
      cases action with
      | charge account delta =>
        exact ⟨job, _, rest, job.copy, rfl, todo, rfl, rfl, rfl, rfl, fun _ _ => rfl⟩
      | updateQuota quota =>
        refine ⟨job, _, rest, { job.copy with quota := quota }, rfl, todo, rfl, rfl,
          (append_nil _).symm, rfl, ?_⟩
        intro key different
        rw [Table.find?_updateWhere]
        simp [different]

theorem stage_bill (worker : Nat) (stage : Stage id origin world) :
    Stage id origin (world.billJob worker) := by
  rcases world.billJob_cases worker with
    unchanged | ⟨job, action, rest, copy, found, todo, -, jobs, ledger, takenOver, tasks⟩
  · rwa [unchanged]
  have entries : (world.billJob worker).entriesOf id =
      world.entriesOf id ++ if job.task = id then pendingEntries id [action] else [] := by
    rw [entriesOf, ledger, filter_append, pendingEntries_filter]
    rfl
  by_cases owner : job.task = id
  · have status : ∀ {last}, world.HasStatus id last → (world.billJob worker).HasStatus id last :=
      fun has => (world.billJob_status worker id).trans has
    have busy : job.todo ≠ [] := by simp [todo]
    rw [if_pos owner] at entries
    cases stage with
    | waiting _ _ _ _ idle => exact absurd (idle worker job found owner) busy
    | @refunding payer payment failed paying _ paid others =>
      have same : worker = payer := by
        by_contra different
        exact busy (others worker job found owner different)
      subst same
      cases paying.symm.trans found
      have paying : (world.billJob worker).jobs.find? worker =
          some { job with copy := copy, todo := rest } := by
        rw [jobs]
        exact Table.find?_set_self _ found
      refine .refunding (status failed) paying owner ?_ ?_
      · rw [entries, ← paid, todo, append_assoc, pendingEntries, pendingEntries,
          pendingEntries, ← filterMap_append, singleton_append]
      · rw [jobs]
        exact set others fun _ other => absurd rfl other
    | closed stored done settled => exact .closed (status stored) done (takenOver ▸ settled)
  · rw [if_neg owner, append_nil] at entries
    have different : id ≠ job.task := Ne.symm owner
    exact stage_of_other stage found owner jobs rfl (tasks id different) entries
      (takenOver ▸ fun settled => settled)

/-! ## Runs -/

/-- A handling of the task agrees with what is done and does not fail it behind the back
of its billing. -/
def TaskEvent.KeepsRefund (id : Nat) (world : World) : TaskEvent → Prop
  | .handle worker handling =>
    ∀ job ∈ world.jobs.find? worker, job.task = id →
      handling.AgreesWithDone job.copy ∧
        ∀ row ∈ world.tasks.find? id, handling.KeepsRefund row job.copy
  | .read .. | .bill .. => True

theorem followed_read (followed : Followed id origin world) (task : Nat) (query : TaskQuery) :
    Followed id origin (world.readTask task query) := by
  have sweeps := sweepsRunning_step world (.read task query) followed.sweeps
  refine ⟨sweeps, ?_, ?_⟩
  all_goals rcases world.readTask_cases task query with unchanged | ⟨row, stored, -, read⟩
  · rw [unchanged]
    exact followed.workers
  · rw [read]
    refine insert followed.workers ⟨?_, fun _ busy => absurd rfl busy⟩
    rintro rfl running
    exact followed.stage.charged_of_running stored running
  · rw [unchanged]
    exact followed.stage
  · rw [read]
    exact stage_read query task row followed.stage

theorem followed_bill (followed : Followed id origin world) (worker : Nat) :
    Followed id origin (world.billJob worker) := by
  refine ⟨sweepsRunning_bill worker followed.sweeps, ?_, stage_bill worker followed.stage⟩
  rcases world.billJob_cases worker with
    unchanged | ⟨job, action, rest, copy, found, todo, status, jobs, -⟩
  · rw [unchanged]
    exact followed.workers
  · have busy : job.todo ≠ [] := by simp [todo]
    have done : job.task = id → copy.status.isTerminal = true := fun owner =>
      status ▸ (followed.workers worker job found).billing owner busy
    rw [jobs]
    refine set followed.workers ⟨?_, fun owner _ => done owner⟩
    intro owner running
    rw [done owner] at running
    contradiction

theorem followed_handle (positive : 0 < origin.quota) (followed : Followed id origin world)
    (worker : Nat) (handling : Handling)
    (keeps : (TaskEvent.handle worker handling).KeepsRefund id world) :
    Followed id origin (world.handleJob worker handling) := by
  have sweeps := sweepsRunning_step world (.handle worker handling) followed.sweeps
  rw [step] at sweeps
  rcases world.handleJob_cases worker handling with
    unchanged | ⟨job, row, found, kind, free, stored, handled⟩
  · rwa [unchanged]
  rw [handled] at sweeps ⊢
  by_cases owner : job.task = id
  · subst owner
    obtain ⟨agrees, keeps⟩ := keeps job found rfl
    have keeps := keeps row stored
    have swept : handling.kind = .sweep → job.copy.status.isTerminal = false :=
      fun sweep => followed.sweeps worker job found (kind.trans sweep)
    have accounted := handle_billedOutcome agrees keeps swept
    have copied : job.copy.status.isTerminal = false →
        ChargedAs origin (handling.handle row job.copy).copy := fun running =>
      handle_charged keeps ((followed.workers worker job found).charged rfl running)
    have still : (handling.handle row job.copy).copy.status.isTerminal = false →
        job.copy.status.isTerminal = false := by
      intro running
      by_contra done
      rw [handle_done agrees swept (Bool.eq_true_of_not_eq_false done)] at running
      contradiction
    refine ⟨sweeps, set followed.workers ⟨fun _ running => copied (still running), ?_⟩,
      stage_store positive followed.stage found free stored copied still
        (handle_status_of_done agrees swept) accounted⟩
    intro _ busy
    cases accounted with
    | quiet idle => exact absurd idle busy
    | finished _ _ _ done => exact done
  · refine ⟨sweeps, set followed.workers ?_, ?_⟩
    · exact ⟨fun same => absurd same owner, fun same => absurd same owner⟩
    · exact stage_of_other followed.stage found owner rfl rfl
        (Table.find?_set_of_ne _ _ (Ne.symm owner)) rfl takenOver_store

theorem followed_step (positive : 0 < origin.quota) (state : World) (event : TaskEvent)
    (followed : Followed id origin state) (keeps : event.KeepsRefund id state) :
    Followed id origin (state.step event) := by
  cases event with
  | read task query => exact followed_read followed task query
  | handle worker handling => exact followed_handle positive followed worker handling keeps
  | bill worker => exact followed_bill followed worker

end Stages

/-- No worker has billing to do. -/
def World.Quiescent (world : World) : Prop := world.jobs.All fun _ job => job.todo = []

/-- A charged task that failed, and that no settlement took over, has been given back
exactly once when all workers are through. -/
theorem failed_task_refunded_once {world : World} {id : Nat} {task : Task}
    {events : List TaskEvent} (idle : world.jobs.rows = [])
    (stored : world.tasks.find? id = some task) (running : task.status.isTerminal = false)
    (positive : 0 < task.quota) (modern : isLegacy task = false)
    (untouched : world.entriesOf id = [])
    (keeps : Guarded World.step (fun state event => event.KeepsRefund id state) world events)
    (quiescent : (run World.step world events).Quiescent)
    (failed : (run World.step world events).HasStatus id .failure)
    (declined : id ∉ (run World.step world events).takenOver) :
    (run World.step world events).entriesOf id = creditsOf id task := by
  have none : ∀ {property : Nat → Job → Prop}, world.jobs.All property := by
    intro property
    apply Table.all_of_rows
    simp [idle]
  have started : Followed id task world :=
    ⟨none, none, .waiting stored running ⟨rfl, modern⟩ untouched none⟩
  have followed := run_invariant (followed_step positive) events started keeps
  cases followed.stage with
  | waiting found still =>
    rw [failed.eq found] at still
    contradiction
  | refunding _ found _ paid =>
    rw [quiescent _ _ found] at paid
    simpa [pendingEntries] using paid
  | closed has done settled =>
    have same : some TaskStatus.failure = some _ := failed.symm.trans has
    cases same
    rcases settled with succeeded | takenOver
    · contradiction
    · exact absurd takenOver declined

theorem timedOut_task_refunded_once :
    (run World.step oneTask timeoutRun).entriesOf 1 =
      [⟨1, .wallet 7, -40⟩, ⟨1, .token 3, -40⟩] := by
  have quiescent : (run World.step oneTask timeoutRun).Quiescent :=
    Table.all_of_rows (by decide)
  have keeps : Guarded World.step (fun state event => event.KeepsRefund 1 state) oneTask
      timeoutRun :=
    ⟨trivial, fun _ _ _ => ⟨trivial, fun _ _ => trivial⟩, trivial, trivial, trivial, trivial⟩
  exact failed_task_refunded_once rfl rfl rfl (by decide) (by decide) rfl keeps quiescent rfl
    (by decide)

/-- The channel of the task cannot be found. -/
def channelLostRun : List TaskEvent :=
  [.read 1 .unfinished, .handle 1 (.markFailed false "Failed to get channel info, channel ID: 5")]

/-- Upstream reports that the task failed. -/
def pollFailure (worker : Nat) : TaskEvent :=
  .handle worker (.pollSingle pollSettings false .none
    (.response 200 none (.ok ⟨.failure, "rejected", "", "", ""⟩) "" ""))

/-- A round that lists the task twice reads it, the sweep gives it back, and the round then
polls its copy twice: the first poll loses its update and the second bills. -/
def listedTwiceRun : List TaskEvent :=
  [.read 1 .unfinished, .read 1 (.timedOut pollSettings), .handle 2 (.sweep pollSettings false),
    .bill 2, .bill 2, .bill 2, pollFailure 1, pollFailure 1, .bill 1, .bill 1, .bill 1]

/-- A task whose channel is lost fails and is never given back, and one that a round lists
twice is given back twice. -/
theorem failed_task_refunded_never_or_twice :
    let lost := run World.step oneTask channelLostRun
    let twice := run World.step oneTask listedTwiceRun
    (lost.Quiescent ∧ lost.HasStatus 1 .failure ∧ lost.takenOver = [] ∧ lost.entriesOf 1 = []) ∧
      (twice.Quiescent ∧ twice.HasStatus 1 .failure ∧ twice.takenOver = [] ∧
        twice.entriesOf 1 = creditsOf 1 chargedTask ++ creditsOf 1 chargedTask) := by
  refine ⟨⟨Table.all_of_rows (by decide), rfl, rfl, rfl⟩,
    ⟨Table.all_of_rows (by decide), rfl, rfl, by decide⟩⟩

end AiHub.Service

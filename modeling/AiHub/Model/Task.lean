import AiHub.Common.GoError
import AiHub.Library.Table

/-!
# Asynchronous tasks

The rows of `tasks` as far as polling and billing read and write them, and the
conditional updates that guard a change of status.  A worker reads a row into
memory, works on the copy, and writes all columns of the copy back where the row
still has the status that the copy was read with.
-/

namespace AiHub.Model

open AiHub.Library AiHub.Common

/-- The status of a task.  Upstream answers are stored as they come, so any other text
is possible. -/
inductive TaskStatus where
  | notStart
  | submitted
  | queued
  | inProgress
  | failure
  | success
  | unknown
  | other (text : String)
  deriving DecidableEq, Repr

/-- The absent status of an answer. -/
def TaskStatus.empty : TaskStatus := .other ""

def TaskStatus.isTerminal : TaskStatus → Bool
  | .failure | .success => true
  | _ => false

theorem TaskStatus.eq_of_isTerminal {status : TaskStatus} (done : status.isTerminal = true) :
    status = .failure ∨ status = .success := by
  cases status <;> simp_all [TaskStatus.isTerminal]

/-- How the task was billed when it was submitted. -/
structure TaskBillingContext where
  perCallBilling : Bool
  tieredSnapshot : Bool
  deriving DecidableEq, Repr

structure TaskPrivateData where
  resultURL : String
  billingSource : Option BillingSource
  subscriptionId : Nat
  tokenId : Nat
  billingContext : Option TaskBillingContext
  pluginState : String
  pollFailures : Int
  deriving DecidableEq, Repr

/-- A row of `tasks`. -/
structure Task where
  taskID : String
  userId : Nat
  quota : Int
  status : TaskStatus
  failReason : String
  submitTime : Int
  startTime : Int
  finishTime : Int
  progress : String
  privateData : TaskPrivateData
  data : String
  deriving DecidableEq, Repr

/-- Tasks that were submitted before this time are failed without a refund. -/
def taskRefundLegacyCutoff : Int := 1771718400

/-- The columns whose change is worth an update. -/
structure TaskSnapshot where
  status : TaskStatus
  progress : String
  startTime : Int
  finishTime : Int
  failReason : String
  resultURL : String
  data : String
  pluginState : String
  pollFailures : Int
  deriving DecidableEq, Repr

def Task.snapshot (task : Task) : TaskSnapshot where
  status := task.status
  progress := task.progress
  startTime := task.startTime
  finishTime := task.finishTime
  failReason := task.failReason
  resultURL := task.privateData.resultURL
  data := task.data
  pluginState := task.privateData.pluginState
  pollFailures := task.privateData.pollFailures

/-- `UPDATE tasks SET … WHERE id = ? AND status = fromStatus`: the answer is whether the
row was written.  A failing statement writes nothing. -/
def Task.updateWithStatus (fault : Bool) (fromStatus : TaskStatus) (row copy : Task) :
    Bool × Task :=
  if fault = false ∧ row.status = fromStatus then (true, copy) else (false, row)

/-- The row of one task after the bulk update that fails tasks of a given status. -/
def markTaskFailedWithStatus (fault : Bool) (fromStatus : TaskStatus) (failReason : String)
    (row : Task) : Task :=
  if fault = false ∧ row.status = fromStatus then
    { row with failReason := failReason, status := .failure, progress := "100%" }
  else row

/-- The query for tasks that may still be polled. -/
def Task.isUnfinished (task : Task) : Bool :=
  decide (task.progress ≠ "100%") && !task.status.isTerminal

/-- The query for tasks that were submitted too long ago. -/
def Task.isTimedOut (task : Task) (cutoff : Int) : Bool :=
  task.isUnfinished && decide (task.submitTime < cutoff)

/-- An update that was won started from the stored status; one that was not left the row
alone. -/
theorem Task.updateWithStatus_cases (fault : Bool) (fromStatus : TaskStatus) (row copy : Task) :
    (row.status = fromStatus ∧ Task.updateWithStatus fault fromStatus row copy = (true, copy)) ∨
      Task.updateWithStatus fault fromStatus row copy = (false, row) := by
  unfold Task.updateWithStatus
  split
  · rename_i won
    exact .inl ⟨won.2, rfl⟩
  · exact .inr rfl

end AiHub.Model

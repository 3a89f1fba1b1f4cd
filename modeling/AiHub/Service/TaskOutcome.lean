import AiHub.Service.TaskPolling

/-!
# What handling a task can do

Every function that polls or sweeps a task has one of three outcomes, as long as the
copy it works on was not done.  The invariants of whole runs are derived from these
outcomes alone, and not from the texts of the functions.
-/

namespace AiHub.Service

open AiHub.Library AiHub.Common AiHub.Model

/-- The outcomes of handling a copy that was not done: the row was left alone, it was
written and is still not done, or it was written and is done.  A task that failed is
then taken over by its settlement or given back. -/
inductive Progressed (row copy : Task) (handled : Handled) : Prop where
  | kept (stored : handled.row = row) (declined : handled.settled = false)
      (idle : handled.todo = [])
  | advanced (won : row.status = copy.status) (stored : handled.row = handled.copy)
      (running : handled.copy.status.isTerminal = false) (declined : handled.settled = false)
      (idle : handled.todo = [])
  | finished (won : row.status = copy.status) (stored : handled.row = handled.copy)
      (done : handled.copy.status.isTerminal = true)
      (billed : handled.copy.status = .failure →
        handled.settled = true ∨
          handled.settled = false ∧ handled.todo = refundTaskQuota handled.copy)

section Outcomes

variable {settings : TaskSettings} {fault : Bool} {facts : CompletionFacts} {row copy : Task}
  (fromStatus : TaskStatus)

@[simp] theorem updateAndBill_copy (answered : Task) :
    (updateAndBill fault facts fromStatus row answered).copy = answered := by
  unfold updateAndBill
  split <;> rfl

@[simp] theorem updateOnly_copy (answered : Task) :
    (updateOnly fault fromStatus row answered).copy = answered := rfl

theorem updateAndBill_progressed {answered : Task} (done : answered.status.isTerminal = true) :
    Progressed row copy (updateAndBill fault facts copy.status row answered) := by
  unfold updateAndBill
  rcases Task.updateWithStatus_cases fault copy.status row answered with ⟨won, written⟩ | lost
  · rw [written]
    refine .finished won rfl done ?_
    intro failed
    rcases finalizeTaskBilling_failure facts failed with takenOver | givenBack
    · exact .inl takenOver
    · exact .inr ⟨congrArg Prod.fst givenBack, congrArg Prod.snd givenBack⟩
  · rw [lost]
    exact .kept rfl rfl rfl

theorem updateOnly_progressed {answered : Task} (running : answered.status.isTerminal = false) :
    Progressed row copy (updateOnly fault copy.status row answered) := by
  rcases Task.updateWithStatus_cases fault copy.status row answered with ⟨won, written⟩ | lost
  · exact .advanced won (congrArg Prod.snd written) running rfl rfl
  · exact .kept (congrArg Prod.snd lost) rfl rfl

/-! ## Failing a task -/

theorem failTaskFromPoll_progressed (reason : String) (current : Task) :
    Progressed row copy (failTaskFromPoll settings fault facts copy.status reason row current) :=
  updateAndBill_progressed rfl

theorem recordPollFailure_progressed {current : Task} (pollClass : PollClass)
    (statusCode : Nat) (detail : String) (running : current.status.isTerminal = false) :
    Progressed row copy
      (recordPollFailure settings fault facts copy.status pollClass statusCode detail row
        current) := by
  unfold recordPollFailure
  simp only
  split
  · exact failTaskFromPoll_progressed _ _
  · exact updateOnly_progressed running

/-- What a poll never touches: what the task was charged with and whether it is a legacy
task. -/
def SameBill (before after : Task) : Prop :=
  taskBill after = taskBill before ∧ isLegacy after = isLegacy before

theorem failTaskFromPoll_bill (reason : String) (current : Task) :
    SameBill current
      (failTaskFromPoll settings fault facts fromStatus reason row current).copy := by
  rw [failTaskFromPoll, updateAndBill_copy]
  exact ⟨rfl, rfl⟩

theorem recordPollFailure_bill (pollClass : PollClass)
    (statusCode : Nat) (detail : String) (current : Task) :
    SameBill current
      (recordPollFailure settings fault facts fromStatus pollClass statusCode detail row
        current).copy := by
  unfold recordPollFailure
  simp only
  split
  · exact failTaskFromPoll_bill _ _ _
  · exact ⟨rfl, rfl⟩

/-! ## A single poll -/

theorem applyTaskResult_bill (info : TaskInfo) (body : String) (current : Task) :
    SameBill current (applyTaskResult settings info body current) := by
  unfold applyTaskResult
  cases info.status <;> exact ⟨rfl, rfl⟩

theorem writeTaskResult_copy (before : TaskSnapshot) (answered : Task) :
    (writeTaskResult fault facts fromStatus before row answered).copy = answered := by
  unfold writeTaskResult
  grind [updateAndBill_copy, updateOnly_copy]

theorem writeTaskResult_progressed {answered : Task} (before : TaskSnapshot)
    (running : copy.status.isTerminal = false) :
    Progressed row copy (writeTaskResult fault facts copy.status before row answered) := by
  unfold writeTaskResult
  cases done : answered.status.isTerminal with
  | true =>
    -- a terminal status is new to a copy that was not done
    have moved : copy.status ≠ answered.status := by
      intro same
      rw [same, done] at running
      contradiction
    rw [if_pos ⟨rfl, moved⟩]
    exact updateAndBill_progressed done
  | false =>
    simp only [Bool.false_eq_true, false_and, if_false]
    split
    · exact updateOnly_progressed done
    · exact .kept rfl rfl rfl

theorem readTaskResult_ok {gateway : Option (TaskInfo × String)}
    {parsed : Except String TaskInfo} {info : TaskInfo} {usage : CompletionFacts} {current : Task}
    (read : readTaskResult facts gateway parsed copy = .ok (info, usage, current)) :
    ∃ data, current = { copy with data := data } := by
  unfold readTaskResult at read
  cases gateway with
  | some found =>
    simp only [Except.ok.injEq, Prod.mk.injEq] at read
    exact ⟨found.2, read.2.2.symm⟩
  | none =>
    cases parsed with
    | error detail => cases read
    | ok result =>
      simp only [Except.map, Except.ok.injEq, Prod.mk.injEq] at read
      exact ⟨copy.data, read.2.2.symm⟩

/-- A single poll fails the task, counts a failure, or writes a recognised answer.  Only
the data of the copy may have changed before. -/
theorem updateVideoSingleTask_rule (property : Handled → Prop) (answer : PollAnswer)
    (failed : ∀ reason,
      property (failTaskFromPoll settings fault facts copy.status reason row copy))
    (counted : ∀ pollClass statusCode detail data,
      property (recordPollFailure settings fault facts copy.status pollClass statusCode detail
        row { copy with data := data }))
    (written : ∀ info usage body data,
      property (writeTaskResult fault usage copy.status copy.snapshot row
        (applyTaskResult settings info body { copy with data := data }))) :
    property (updateVideoSingleTask settings fault facts answer row copy) := by
  unfold updateVideoSingleTask
  cases answer with
  | failed statusCode detail => exact counted _ _ _ copy.data
  | response statusCode gateway parsed body bodyExcerpt =>
    simp only
    split
    · exact failed _
    · exact counted _ _ _ copy.data
    · exact counted _ _ _ copy.data
    · split
      · exact counted _ _ _ copy.data
      · rename_i info usage current read
        obtain ⟨data, rfl⟩ := readTaskResult_ok read
        split
        · exact counted _ _ _ data
        · exact written info usage body data

/-- A single poll of a task that was not done. -/
theorem updateVideoSingleTask_progressed (answer : PollAnswer)
    (running : copy.status.isTerminal = false) :
    Progressed row copy (updateVideoSingleTask settings fault facts answer row copy) :=
  updateVideoSingleTask_rule (Progressed row copy) answer
    (fun _ => failTaskFromPoll_progressed _ _)
    (fun _ _ _ _ => recordPollFailure_progressed _ _ _ running)
    (fun _ _ _ _ => writeTaskResult_progressed _ running)

theorem updateVideoSingleTask_bill (answer : PollAnswer) :
    SameBill copy (updateVideoSingleTask settings fault facts answer row copy).copy := by
  apply updateVideoSingleTask_rule fun handled => SameBill copy handled.copy
  · exact fun _ => failTaskFromPoll_bill _ _ _
  · exact fun _ _ _ data => recordPollFailure_bill _ _ _ _ { copy with data := data }
  · intro info usage body data
    rw [writeTaskResult_copy]
    exact applyTaskResult_bill info body { copy with data := data }

/-! ## A batch -/

/-- The time of submission that an answer brings along, if any, is not one of a legacy
task. -/
def BatchAnswer.KeepsLegacy : BatchAnswer → Prop
  | .response _ (.ok (some item)) =>
    0 < item.submitTime → taskRefundLegacyCutoff ≤ item.submitTime
  | _ => True

theorem applyBatchResult_legacy {item : BatchTaskResult}
    (keeps : 0 < item.submitTime → taskRefundLegacyCutoff ≤ item.submitTime)
    (modern : isLegacy copy = false) : isLegacy (applyBatchResult item copy) = false := by
  unfold isLegacy at modern ⊢
  simp only [applyBatchResult]
  split
  · simp only [Bool.and_eq_false_iff, decide_eq_false_iff_not]
    by_cases positive : 0 < item.submitTime
    · exact .inr (not_lt.mpr (keeps positive))
    · exact .inl positive
  · exact modern

/-- One task of a batch fails, counts a failure, is not listed, or takes its part of the
answer, which is billed if it moved to a terminal status. -/
theorem updateBatchTask_rule (property : Handled → Prop) (answer : BatchAnswer)
    (failed : ∀ reason,
      property (failTaskFromPoll settings fault facts copy.status reason row copy))
    (counted : ∀ pollClass statusCode detail,
      property (recordPollFailure settings fault facts copy.status pollClass statusCode detail
        row copy))
    (unlisted : property ⟨row, copy, false, []⟩)
    (moved : ∀ statusCode item, answer = .response statusCode (.ok (some item)) →
      (applyBatchResult item copy).status.isTerminal = true →
      property (updateAndBill fault facts copy.status row (applyBatchResult item copy)))
    (unmoved : ∀ statusCode item, answer = .response statusCode (.ok (some item)) →
      ((applyBatchResult item copy).status.isTerminal = true →
        copy.status = (applyBatchResult item copy).status) →
      property (updateOnly fault copy.status row (applyBatchResult item copy))) :
    property (updateBatchTask settings fault facts answer row copy) := by
  unfold updateBatchTask
  cases answer with
  | failed statusCode detail => exact counted _ _ _
  | response statusCode parsed =>
    simp only
    split
    · exact failed _
    · exact counted _ _ _
    · exact counted _ _ _
    · split
      · exact counted _ _ _
      · exact unlisted
      · rename_i item
        split
        · exact counted _ _ _
        · split
          · rename_i changed
            exact moved statusCode item rfl changed.1
          · rename_i unchanged
            refine unmoved statusCode item rfl fun done => ?_
            by_contra different
            exact unchanged ⟨done, different⟩

/-- One task of a batch that was not done. -/
theorem updateBatchTask_progressed (answer : BatchAnswer)
    (running : copy.status.isTerminal = false) :
    Progressed row copy (updateBatchTask settings fault facts answer row copy) := by
  apply updateBatchTask_rule (Progressed row copy)
  · exact fun _ => failTaskFromPoll_progressed _ _
  · exact fun _ _ _ => recordPollFailure_progressed _ _ _ running
  · exact .kept rfl rfl rfl
  · exact fun _ _ _ done => updateAndBill_progressed done
  · intro statusCode item _ same
    refine updateOnly_progressed ?_
    by_contra done
    have done := Bool.eq_true_of_not_eq_false done
    rw [same done, done] at running
    contradiction

/-- What a batch leaves of a task that is not a legacy task. -/
theorem updateBatchTask_bill {answer : BatchAnswer} (keeps : answer.KeepsLegacy)
    (modern : isLegacy copy = false) :
    SameBill copy (updateBatchTask settings fault facts answer row copy).copy := by
  have kept : ∀ statusCode item, answer = .response statusCode (.ok (some item)) →
      SameBill copy (applyBatchResult item copy) := by
    rintro statusCode item rfl
    exact ⟨rfl, (applyBatchResult_legacy keeps modern).trans modern.symm⟩
  apply updateBatchTask_rule fun handled => SameBill copy handled.copy
  · exact fun _ => failTaskFromPoll_bill _ _ _
  · exact fun _ _ _ => recordPollFailure_bill _ _ _ _ _
  · exact ⟨rfl, rfl⟩
  · intro statusCode item listed _
    rw [updateAndBill_copy]
    exact kept statusCode item listed
  · intro statusCode item listed _
    exact kept statusCode item listed

/-! ## The sweep, the bulk update and the fetch -/

theorem sweepTimedOutTask_progressed :
    Progressed row copy (sweepTimedOutTask settings fault row copy) := by
  unfold sweepTimedOutTask
  simp only
  split
  · rename_i stored written
    rcases Task.updateWithStatus_cases fault copy.status row _ with ⟨won, update⟩ | lost
    · rw [update] at written
      refine .finished won (congrArg Prod.snd written).symm rfl fun _ => .inr ⟨rfl, ?_⟩
      -- the quota of a legacy task was cleared, so there is nothing to give back
      cases legacy : isLegacy copy <;> simp [refundTaskQuota]
    · rw [lost] at written
      cases written
  · rename_i stored written
    rcases Task.updateWithStatus_cases fault copy.status row _ with ⟨won, update⟩ | lost
    · rw [update] at written
      cases written
    · rw [lost] at written
      exact .kept (congrArg Prod.snd written).symm rfl rfl

theorem sweepTimedOutTask_bill (modern : isLegacy copy = false) :
    SameBill copy (sweepTimedOutTask settings fault row copy).copy := by
  unfold sweepTimedOutTask
  simp only [modern]
  split <;> exact ⟨rfl, rfl⟩

/-- The bulk update fails a row of the status that the copy was read with, and bills
nothing. -/
theorem markTaskFailedUsingCAS_cases (failReason : String) :
    markTaskFailedUsingCAS fault failReason row copy = ⟨row, copy, false, []⟩ ∨
      row.status = copy.status ∧ copy.status.isTerminal = false ∧
        (markTaskFailedUsingCAS fault failReason row copy).copy = copy := by
  unfold markTaskFailedUsingCAS markTaskFailedWithStatus
  grind

def fetchedStatus (answer : Option TaskInfo) (copy : Task) : TaskStatus :=
  match answer with
  | none => copy.status
  | some info => if info.status ≠ .empty then info.status else copy.status

/-- A fetch bills nothing, and writes the status of its answer over the one that it
read. -/
theorem tryRealtimeFetch_cases (settings : TaskSettings) (fault : Bool)
    (answer : Option TaskInfo) (row copy : Task) :
    let handled := tryRealtimeFetch settings fault answer row copy
    handled.settled = false ∧ handled.todo = [] ∧ SameBill copy handled.copy ∧
      handled.copy.status = fetchedStatus answer copy ∧
      (handled.row = row ∨ row.status = copy.status ∧ handled.row = handled.copy) := by
  unfold tryRealtimeFetch
  cases answer with
  | none => exact ⟨rfl, rfl, ⟨rfl, rfl⟩, rfl, .inl rfl⟩
  | some info =>
    have bill : SameBill copy (applyFetchResult settings info copy) := ⟨rfl, rfl⟩
    simp only
    split
    · refine ⟨rfl, rfl, bill, rfl, ?_⟩
      rcases Task.updateWithStatus_cases fault copy.status row
        (applyFetchResult settings info copy) with ⟨won, written⟩ | lost
      · exact .inr ⟨won, congrArg Prod.snd written⟩
      · exact .inl (congrArg Prod.snd lost)
    · exact ⟨rfl, rfl, bill, rfl, .inl rfl⟩

end Outcomes

end AiHub.Service

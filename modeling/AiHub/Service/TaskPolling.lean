import AiHub.Service.TaskBilling

/-!
# Handling a task

The functions of `service/task_polling.go` that write the status of a task, and
`tryRealtimeFetch` of the relay.  Each works on a copy of the row that was read
earlier, asks upstream, and then makes one conditional update.  Its result is the
row as stored, the copy in memory, and the billing that the worker still has to do.
-/

namespace AiHub.Service

open AiHub.Library AiHub.Common AiHub.Model

/-! ## Answers of upstream -/

/-- What an adaptor reads from an answer; absent texts are empty. -/
structure TaskInfo where
  status : TaskStatus
  reason : String
  url : String
  progress : String
  pluginState : String
  deriving DecidableEq, Repr

inductive PollClass where
  | ok
  | otherClient
  | notFound
  | auth
  | transient
  | unrecognized
  | hookError
  | transport
  deriving DecidableEq, Repr

def PollClass.name : PollClass → String
  | .ok => "ok"
  | .otherClient => "other_client"
  | .notFound => "not_found"
  | .auth => "auth"
  | .transient => "transient"
  | .unrecognized => "unrecognized"
  | .hookError => "hook_error"
  | .transport => "transport_error"

def classifyPollHTTP (statusCode : Nat) : PollClass :=
  if 200 ≤ statusCode ∧ statusCode < 300 then .ok
  else if statusCode = 404 ∨ statusCode = 410 then .notFound
  else if statusCode = 401 ∨ statusCode = 403 then .auth
  else if statusCode = 429 ∨ 500 ≤ statusCode then .transient
  else if 400 ≤ statusCode ∧ statusCode < 500 then .otherClient
  else .transient

def knownPollStatus : TaskStatus → Bool
  | .notStart | .submitted | .queued | .inProgress | .success | .failure => true
  | _ => false

def isNonTerminalPollStatus : TaskStatus → Bool
  | .notStart | .submitted | .queued | .inProgress => true
  | _ => false

def pollFailureReason (pollClass : PollClass) (statusCode : Nat) (detail : String) : String :=
  let reason :=
    if 0 < statusCode then
      "poll failed: " ++ pollClass.name ++ " (HTTP " ++ toString statusCode ++ ")"
    else "poll failed: " ++ pollClass.name
  if detail ≠ "" then reason ++ ": " ++ detail else reason

/-- The reason of a plugin with an excerpt of the redacted body. -/
def unrecognizedPollDetail (reason bodyExcerpt : String) : String :=
  if trimSpace reason = "" then "body=" ++ bodyExcerpt else reason ++ "; body=" ++ bodyExcerpt

def isDataURL (url : String) : Bool := "data:".toList.isPrefixOf url.toList

/-! ## Handling -/

/-- The configuration and the clock. -/
structure TaskSettings where
  pollMaxFailures : Int
  timeoutMinutes : Int
  serverAddress : String
  now : Int

/-- Where the content of a task can be had from the relay itself. -/
def TaskSettings.buildProxyURL (settings : TaskSettings) (taskID : String) : String :=
  settings.serverAddress ++ "/v1/videos/" ++ taskID ++ "/content"

/-- Tasks that were submitted before this time have timed out. -/
def TaskSettings.timeoutCutoff (settings : TaskSettings) : Int :=
  settings.now - settings.timeoutMinutes * 60

/-- What handling a copy leaves behind.  `settled` is set when the settlement by usage
took over. -/
structure Handled where
  row : Task
  copy : Task
  settled : Bool
  todo : List BillingAction

section Handling

variable (settings : TaskSettings) (fault : Bool) (facts : CompletionFacts)

/-- Write the copy, and bill it only if the update was won. -/
def updateAndBill (fromStatus : TaskStatus) (row copy : Task) : Handled :=
  match Task.updateWithStatus fault fromStatus row copy with
  | (true, stored) =>
    let (settled, todo) := finalizeTaskBilling facts copy
    ⟨stored, copy, settled, todo⟩
  | (false, stored) => ⟨stored, copy, false, []⟩

/-- Write the copy without billing. -/
def updateOnly (fromStatus : TaskStatus) (row copy : Task) : Handled :=
  ⟨(Task.updateWithStatus fault fromStatus row copy).2, copy, false, []⟩

def failTaskFromPoll (fromStatus : TaskStatus) (reason : String) (row copy : Task) : Handled :=
  updateAndBill fault facts.withoutTokens fromStatus row
    { copy with
      status := .failure
      progress := "100%"
      finishTime := if copy.finishTime = 0 then settings.now else copy.finishTime
      failReason := reason }

/-- Count a failed poll, and give the task up after too many. -/
def recordPollFailure (fromStatus : TaskStatus) (pollClass : PollClass) (statusCode : Nat)
    (detail : String) (row copy : Task) : Handled :=
  let counted :=
    { copy with
      privateData := { copy.privateData with
        pollFailures := copy.privateData.pollFailures + 1 } }
  if 0 < settings.pollMaxFailures ∧
      settings.pollMaxFailures ≤ counted.privateData.pollFailures then
    failTaskFromPoll settings fault facts fromStatus
      (pollFailureReason pollClass statusCode detail) row counted
  else updateOnly fault fromStatus row counted

/-- The answer to a single poll: a request that failed, or a response.  A response may
be in the gateway's own format, with the data of the task; the adaptor's reading of
it may fail.  `body` is what is kept of the body, `bodyExcerpt` what is shown of it. -/
inductive PollAnswer where
  | failed (statusCode : Nat) (detail : String)
  | response (statusCode : Nat) (gateway : Option (TaskInfo × String))
      (parsed : Except String TaskInfo) (body bodyExcerpt : String)

/-- The copy with a recognised answer, before it is written. -/
def applyTaskResult (info : TaskInfo) (body : String) (copy : Task) : Task :=
  let copy :=
    { copy with
      data := body
      status := info.status
      privateData := { copy.privateData with
        pluginState :=
          if info.pluginState ≠ "" then info.pluginState else copy.privateData.pluginState
        pollFailures :=
          if isNonTerminalPollStatus info.status then 0 else copy.privateData.pollFailures } }
  let finishTime := if copy.finishTime = 0 then settings.now else copy.finishTime
  let answered :=
    match info.status with
    | .submitted => { copy with progress := "10%" }
    | .queued => { copy with progress := "20%" }
    | .inProgress =>
      { copy with
        progress := "30%"
        startTime := if copy.startTime = 0 then settings.now else copy.startTime }
    | .success =>
      { copy with
        progress := "100%"
        finishTime := finishTime
        privateData := { copy.privateData with
          resultURL :=
            if isDataURL info.url = false ∧ info.url ≠ "" then info.url
            else settings.buildProxyURL copy.taskID } }
    | .failure =>
      { copy with progress := "100%", finishTime := finishTime, failReason := info.reason }
    | _ => copy
  let progress := if info.status = .failure then "100%" else info.progress
  { answered with progress := if progress ≠ "" then progress else answered.progress }

/-- Handle a recognised answer.  A terminal status that the copy did not have before is
written and billed; a terminal status that it already had is billed without winning
an update. -/
def writeTaskResult (fromStatus : TaskStatus) (before : TaskSnapshot) (row answered : Task) :
    Handled :=
  if answered.status.isTerminal = true ∧ fromStatus ≠ answered.status then
    updateAndBill fault facts fromStatus row answered
  else
    let written :=
      if before ≠ answered.snapshot then updateOnly fault fromStatus row answered
      else ⟨row, answered, false, []⟩
    if answered.status.isTerminal then
      let (settled, todo) := finalizeTaskBilling facts answered
      { written with settled := settled, todo := todo }
    else written

/-- Read a response.  The gateway's own format comes first; it carries the data of the
task and tells nothing about its usage. -/
def readTaskResult (gateway : Option (TaskInfo × String)) (parsed : Except String TaskInfo)
    (copy : Task) : Except String (TaskInfo × CompletionFacts × Task) :=
  match gateway with
  | some (info, data) => .ok (info, facts.withoutTokens, { copy with data := data })
  | none => parsed.map fun info => (info, facts, copy)

def updateVideoSingleTask (answer : PollAnswer) (row copy : Task) : Handled :=
  let recordFailure := fun pollClass statusCode detail current =>
    recordPollFailure settings fault facts copy.status pollClass statusCode detail row current
  match answer with
  | .failed statusCode detail => recordFailure .transport statusCode detail copy
  | .response statusCode gateway parsed body bodyExcerpt =>
    match classifyPollHTTP statusCode with
    | .notFound =>
      failTaskFromPoll settings fault facts copy.status
        ("upstream task not found (HTTP " ++ toString statusCode ++ ")") row copy
    | .auth => recordFailure .auth statusCode "" copy
    | .transient => recordFailure .transient statusCode "" copy
    | httpClass =>
      match readTaskResult facts gateway parsed copy with
      | .error detail => recordFailure .hookError statusCode detail copy
      | .ok (info, usage, current) =>
        if !knownPollStatus info.status ||
            (decide (httpClass = .otherClient) && isNonTerminalPollStatus info.status) then
          recordFailure .unrecognized statusCode
            (unrecognizedPollDetail info.reason bodyExcerpt) current
        else
          writeTaskResult fault usage copy.status copy.snapshot row
            (applyTaskResult settings info body current)

structure BatchTaskResult where
  info : TaskInfo
  submitTime : Int
  startTime : Int
  finishTime : Int
  data : Option String

/-- The answer to a batch as it concerns one task, which the response may not list. -/
inductive BatchAnswer where
  | failed (statusCode : Nat) (detail : String)
  | response (statusCode : Nat) (parsed : Except String (Option BatchTaskResult))

/-- The copy with its part of a batch.  A reason means failure, whatever the status. -/
def applyBatchResult (item : BatchTaskResult) (copy : Task) : Task :=
  let failed := item.info.reason ≠ "" ∨ item.info.status = .failure
  { copy with
    status := if failed then .failure else item.info.status
    failReason := if item.info.reason ≠ "" then item.info.reason else copy.failReason
    submitTime := if item.submitTime ≠ 0 then item.submitTime else copy.submitTime
    startTime := if item.startTime ≠ 0 then item.startTime else copy.startTime
    finishTime := if item.finishTime ≠ 0 then item.finishTime else copy.finishTime
    progress :=
      if failed ∨ item.info.status = .success then "100%"
      else if item.info.progress ≠ "" then item.info.progress
      else copy.progress
    data := item.data.getD copy.data
    privateData := { copy.privateData with
      pollFailures :=
        if isNonTerminalPollStatus item.info.status then 0 else copy.privateData.pollFailures
      pluginState :=
        if item.info.pluginState ≠ "" then item.info.pluginState
        else copy.privateData.pluginState
      resultURL :=
        if item.info.url ≠ "" then item.info.url else copy.privateData.resultURL } }

def updateBatchTask (answer : BatchAnswer) (row copy : Task) : Handled :=
  let recordFailure := fun pollClass statusCode detail =>
    recordPollFailure settings fault facts copy.status pollClass statusCode detail row copy
  match answer with
  | .failed statusCode detail => recordFailure .transport statusCode detail
  | .response statusCode parsed =>
    match classifyPollHTTP statusCode with
    | .notFound =>
      failTaskFromPoll settings fault facts copy.status
        ("upstream task not found (HTTP " ++ toString statusCode ++ ")") row copy
    | .auth => recordFailure .auth statusCode ""
    | .transient => recordFailure .transient statusCode ""
    | httpClass =>
      match parsed with
      | .error detail => recordFailure .hookError statusCode detail
      | .ok none => ⟨row, copy, false, []⟩
      | .ok (some item) =>
        if !knownPollStatus item.info.status ||
            (decide (httpClass = .otherClient) &&
              isNonTerminalPollStatus item.info.status) then
          recordFailure .unrecognized statusCode item.info.reason
        else
          let answered := applyBatchResult item copy
          if answered.status.isTerminal = true ∧ copy.status ≠ answered.status then
            updateAndBill fault facts copy.status row answered
          else updateOnly fault copy.status row answered

/-- A task of the system before refunds were introduced. -/
def isLegacy (task : Task) : Bool :=
  decide (0 < task.submitTime) && decide (task.submitTime < taskRefundLegacyCutoff)

/-- One task of the sweep: fail it, and give it back unless it is a legacy task. -/
def sweepTimedOutTask (row copy : Task) : Handled :=
  let failed :=
    { copy with
      status := .failure
      progress := "100%"
      finishTime := settings.now
      quota := if isLegacy copy then 0 else copy.quota
      failReason :=
        if isLegacy copy then "任务超时（旧系统遗留任务，不进行退款，请联系管理员）"
        else "任务超时（" ++ toString settings.timeoutMinutes ++ "分钟）" }
  match Task.updateWithStatus fault copy.status row failed with
  | (true, stored) =>
    ⟨stored, failed, false, if isLegacy copy then [] else refundTaskQuota failed⟩
  | (false, stored) => ⟨stored, failed, false, []⟩

/-- One task of the bulk update for tasks that cannot be polled.  Nothing is given
back. -/
def markTaskFailedUsingCAS (failReason : String) (row copy : Task) : Handled :=
  if copy.status.isTerminal then ⟨row, copy, false, []⟩
  else ⟨markTaskFailedWithStatus fault copy.status failReason row, copy, false, []⟩

/-- The copy with the answer to a fetch. -/
def applyFetchResult (info : TaskInfo) (copy : Task) : Task :=
  let status := if info.status ≠ .empty then info.status else copy.status
  { copy with
    status := status
    progress := if info.progress ≠ "" then info.progress else copy.progress
    privateData := { copy.privateData with
      resultURL :=
        if isDataURL info.url then copy.privateData.resultURL
        else if info.url ≠ "" then info.url
        else if status = .success then settings.buildProxyURL copy.taskID
        else copy.privateData.resultURL } }

/-- A user asks for a task, and the answer of upstream is stored on the way.  Nothing is
billed, and a terminal copy is written like any other. -/
def tryRealtimeFetch (answer : Option TaskInfo) (row copy : Task) : Handled :=
  match answer with
  | none => ⟨row, copy, false, []⟩
  | some info =>
    let answered := applyFetchResult settings info copy
    if copy.snapshot ≠ answered.snapshot then updateOnly fault copy.status row answered
    else ⟨row, answered, false, []⟩

end Handling

end AiHub.Service

import AiHub.Billingexpr.Snapshot
import AiHub.Library.GoStrconv
import AiHub.Service.TaskPolling
import AiHub.Types.PriceData

/-!
# Pricing a task

One attempt of a task submission, from the names of its model to its price.  All attempts of a
submission share the relay information: each attempt overwrites parts of it, and what an earlier
attempt or the resolution of an origin task wrote stays in the others.

A plugin's hooks are functions of what they are shown; they belong to the attempt, since what
they return may depend on the channel.  So does the end of the channel's chain of model mappings.
-/

namespace AiHub.Relay

open AiHub.Library AiHub.Common AiHub.Types AiHub.Billingexpr
open AiHub.Service (TaskInfo)

def taskActionRemix : String := "remix"

/-! ## The relay information -/

/-- The configuration that prices are read from. -/
structure TaskPriceSettings where
  quotaPerUnit : ℚ
  formatMatchingModelName : String → String
  modelPriceMap : String → Option ℚ
  defaultModelPriceMap : String → Option ℚ
  modelRatioMap : String → Option ℚ
  selfUseModeEnabled : Bool
  enableFreeModelPreConsume : Bool
  taskPricePatches : List String
  /-- The ratio of a user's group in the group that is used, for a model. -/
  resolveGroupRatio : String → String → String → GroupRatioInfo
  isTieredExpr : String → Bool
  billingExpr : String → Option String
  /-- The cost of an expression for some facts and the tier that matched. -/
  runExpr : String → Option String → Except String (ℚ × String)

structure RelayUser where
  userGroup : String
  acceptUnsetRatioModel : Bool
  isAdmin : Bool

/-- What a plugin's hooks are shown of the relay information. -/
structure SubmitNames where
  action : String
  originTaskID : String
  publicTaskID : String
  originModelName : String
  upstreamModelName : String
  /-- The request that was decoded or validated, as JSON. -/
  taskRequest : Option String
  deriving DecidableEq, Repr

/-- The relay information that the attempts of a submission share. -/
structure TaskRelayInfo where
  names : SubmitNames
  isModelMapped : Bool
  usingGroup : String
  channelId : Nat
  lockedChannel : Option Nat
  priceData : PriceData
  tieredBillingSnapshot : Option BillingSnapshot
  quotaClamp : Option QuotaClamp
  /-- A session was opened. -/
  billing : Bool
  deriving DecidableEq

structure TaskError where
  code : String
  message : String
  statusCode : Nat
  localError : Bool
  deriving DecidableEq, Repr

def taskErrorWrapperLocal (message code : String) (statusCode : Nat) : TaskError :=
  ⟨code, message, statusCode, true⟩

/-- A stage of an attempt: what it wrote to the relay information stays there when it fails. -/
abbrev SubmitM := EStateM TaskError TaskRelayInfo

def taskErrorWrapper (message code : String) (statusCode : Nat) : TaskError :=
  ⟨code, message, statusCode, false⟩

/-! ## The origin of a remix -/

/-- The price of the origin, as far as a remix reads it. -/
structure OriginBillingContext where
  otherRatios : Option OtherRatios

structure OriginTask where
  originModelName : String
  upstreamModelName : String
  channelId : Nat
  billingContext : Option OriginBillingContext
  /-- The strings at the top level of the stored data. -/
  data : String → Option String

structure OriginChannel where
  enabled : Bool
  /-- The next key, or the error that there is none. -/
  nextKey : Except (String × Nat) String

structure OriginTables where
  task : String → Except String (Option OriginTask)
  channel : Nat → Except String OriginChannel

/-- The integer of `strconv.Atoi` where the error is ignored. -/
def atoiIgnoringError (text : String) : Int :=
  match atoi text with
  | .ok value => value
  | .error (.invalidSyntax _) => 0
  | .error (.outOfRange _) => if text.startsWith "-" then -2 ^ 63 else maxInt64

def maxTaskDurationSeconds : Int := 3600

/-- The ratios of an origin that was stored without its price. -/
def ratiosFromData (data : String → Option String) (price : PriceData) : PriceData :=
  let seconds := atoiIgnoringError ((data "seconds").getD "")
  let seconds := if seconds ≤ 0 then 4 else seconds
  let seconds := if maxTaskDurationSeconds < seconds then maxTaskDurationSeconds else seconds
  let size := (data "size").getD ""
  let price := (price.addOtherRatio "seconds" seconds).addOtherRatio "size" 1
  if size = "1792x1024" ∨ size = "1024x1792" then price.addOtherRatio "size" (1666667 / 1000000)
  else price

/-- The model of a submission that names none. -/
def originModelName (origin : OriginTask) : String :=
  if origin.originModelName ≠ "" then origin.originModelName
  else if origin.upstreamModelName ≠ "" then origin.upstreamModelName
  else (origin.data "model").getD ""

/-- The ratios of the origin are put into the price data. -/
def originPriceData (origin : OriginTask) (price : PriceData) : PriceData :=
  match origin.billingContext with
  | some context =>
    match context.otherRatios with
    | some ratios => { price with otherRatios := price.otherRatios.addAll ratios.map }
    | none => price
  | none => ratiosFromData origin.data price

/-- The submission takes over the model of its origin if it names none. -/
def withOriginModel (origin : OriginTask) (info : TaskRelayInfo) : TaskRelayInfo :=
  if info.names.originModelName = "" then
    { info with names := { info.names with originModelName := originModelName origin } }
  else info

/-- A submission on the path of a remix, or with its action, is one of the video it names. -/
def detectRemix (remixPath : Bool) (videoID : String) : SubmitM Unit := fun info =>
  let action := if remixPath then taskActionRemix else info.names.action
  let info := { info with names := { info.names with action := action } }
  if action = taskActionRemix then
    if trimSpace videoID = "" then
      .error (taskErrorWrapperLocal "video_id is required" "invalid_request" 400) info
    else .ok () { info with names := { info.names with originTaskID := videoID } }
  else .ok () info

def findOriginTask (tables : OriginTables) : SubmitM OriginTask := fun info =>
  match tables.task info.names.originTaskID with
  | .error text => .error (taskErrorWrapper text "get_origin_task_failed" 500) info
  | .ok none => .error (taskErrorWrapperLocal "task_origin_not_exist" "task_not_exist" 400) info
  | .ok (some origin) => .ok origin (withOriginModel origin info)

def lockOriginChannel (tables : OriginTables) (origin : OriginTask) : SubmitM Unit := fun info =>
  match tables.channel origin.channelId with
  | .error text => .error (taskErrorWrapperLocal text "channel_not_found" 400) info
  | .ok channel =>
    if channel.enabled = false then
      .error (taskErrorWrapperLocal "the channel of the origin task is disabled"
        "task_channel_disable" 400) info
    else
      let locked := { info with lockedChannel := some origin.channelId }
      if origin.channelId = locked.channelId then .ok () locked
      else
        match channel.nextKey with
        | .error (text, status) =>
          .error (taskErrorWrapper text "channel_no_available_key" status) locked
        | .ok _ => .ok () { locked with channelId := origin.channelId }

/-- A remix takes over the ratios of its origin. -/
def takeOverRatios (origin : OriginTask) : SubmitM Unit := fun info =>
  if info.names.action = taskActionRemix then
    .ok () { info with priceData := originPriceData origin info.priceData }
  else .ok () info

/-- Look up the origin of a remix or of a continuation, lock the submission to its channel and
take over its model name and its ratios. -/
def resolveOriginTask (tables : OriginTables) (remixPath : Bool) (videoID : String) :
    SubmitM Unit := do
  detectRemix remixPath videoID
  if (← get).names.originTaskID = "" then
    return
  let origin ← findOriginTask tables
  lockOriginChannel tables origin
  takeOverRatios origin

/-! ## What an attempt is given -/

/-- What the upstream accepted. -/
structure ParsedSubmit where
  upstreamTaskID : String
  taskData : String
  immediate : Option TaskInfo
  pluginState : String
  deriving DecidableEq, Repr

structure TaskSubmitResult where
  parsed : ParsedSubmit
  quota : Int
  deriving DecidableEq, Repr

/-- What a plugin returns for the request to the upstream, as far as it is kept. -/
structure RequestDescriptor where
  action : String
  model : String
  rewriteModel : String
  deriving DecidableEq, Repr

/-- What the decoder of a pinned endpoint returns. -/
structure DecodedRequest where
  requestBody : Option String
  action : Option String
  deriving DecidableEq, Repr

/-- A plugin on the channel of an attempt. -/
structure TaskAdaptor where
  /-- The decoder of the pinned endpoint, if the request came to one of this plugin. -/
  decodeRequest : Option (Except String DecodedRequest)
  /-- The model that a pinned endpoint was resolved to. -/
  resolvedTaskModel : Option String
  validateBasicTaskRequest : Except TaskError String
  validateResolvedUsageRequest : String → Except String Unit
  buildSubmitRequest : SubmitNames → Except String RequestDescriptor
  extractUsageFacts : SubmitNames → Except String (Option String)
  estimateBilling : SubmitNames → Except String (GoMap String ℚ)
  /-- The request body, the request and the parsed answer. -/
  exchange : SubmitNames → Except TaskError ParsedSubmit
  adjustBillingOnSubmit : SubmitNames → String → GoMap String ℚ

structure TaskAttempt where
  originalModel : String
  platform : String
  /-- The plugin of the platform; without one an error says why. -/
  adaptor : Except (String × String) TaskAdaptor
  newTaskID : String
  /-- The end of the chain of the channel's model mapping, if it maps the name. -/
  modelMapping : String → Except String (Option String)
  autoGroup : Option String
  /-- Opening a session for a quota. -/
  openSession : Int → Except TaskError Unit

section Attempt

variable (settings : TaskPriceSettings) (user : RelayUser) (attempt : TaskAttempt)

/-! ## The names of an attempt -/

def setNames (change : SubmitNames → SubmitNames) : SubmitM Unit := fun info =>
  .ok () { info with names := change info.names }

def initChannelMeta : SubmitM Unit := fun info =>
  .ok () { info with
      isModelMapped := false
      names := { info.names with upstreamModelName := attempt.originalModel } }

def modelMappedHelper : SubmitM Unit := fun info =>
  match attempt.modelMapping info.names.originModelName with
  | .error text => .error (taskErrorWrapperLocal text "model_mapping_failed" 400) info
  | .ok none => .ok () info
  | .ok (some mapped) =>
    .ok () { info with
        isModelMapped := true
        names := { info.names with upstreamModelName := mapped } }

/-- A name that a plugin leaves empty is not changed. -/
def orKept (given kept : String) : String := if given = "" then kept else given

/-- On a pinned endpoint the plugin may only name the model that it was resolved to. -/
def submitModelAllowed (adaptor : TaskAdaptor) (model : String) : Bool :=
  match adaptor.resolvedTaskModel with
  | none => true
  | some resolved => model = "" ∨ (resolved ≠ "" ∧ model = resolved)

/-- The plugin's request for the upstream may set the action and both model names. -/
def buildSubmit (adaptor : TaskAdaptor) : SubmitM Unit := fun info =>
  match adaptor.buildSubmitRequest info.names with
  | .error text => .error (taskErrorWrapperLocal text "plugin_request_invalid" 400) info
  | .ok descriptor =>
    let names := { info.names with action := orKept descriptor.action info.names.action }
    if submitModelAllowed adaptor descriptor.model = false then
      .error (taskErrorWrapperLocal
        "plugin submit model does not match the pinned endpoint model"
        "plugin_request_invalid" 400) { info with names := names }
    else
      .ok () { info with
          names :=
            { names with
              originModelName := orKept descriptor.model names.originModelName
              upstreamModelName := orKept descriptor.rewriteModel names.upstreamModelName } }

/-- A request that was stored by an earlier attempt is not read again. -/
def storeTaskRequest (adaptor : TaskAdaptor) : SubmitM Unit := fun info =>
  match info.names.taskRequest with
  | some _ => .ok () info
  | none =>
    match adaptor.validateBasicTaskRequest with
    | .error err => .error err info
    | .ok request =>
      .ok () { info with
          names :=
            { info.names with action := "image_to_video", taskRequest := some request } }

/-- What the decoder of a pinned endpoint returned replaces the request and the action. -/
def decodePinnedRequest (adaptor : TaskAdaptor) : SubmitM Unit := fun info =>
  match adaptor.decodeRequest with
  | none => .ok () info
  | some (.error text) => .error (taskErrorWrapperLocal text "plugin_request_invalid" 400) info
  | some (.ok decoded) =>
    let action := decoded.action.getD ""
    .ok () { info with
        names :=
          { info.names with
            taskRequest := decoded.requestBody.or info.names.taskRequest
            action := if trimSpace action = "" then info.names.action else action } }

def checkUsageRequest (adaptor : TaskAdaptor) : SubmitM Unit := fun info =>
  match info.names.taskRequest.map adaptor.validateResolvedUsageRequest with
  | some (.error text) => .error (taskErrorWrapperLocal text "plugin_usage_invalid" 400) info
  | _ => .ok () info

def validateRequestAndSetAction (adaptor : TaskAdaptor) : SubmitM Unit := do
  decodePinnedRequest adaptor
  storeTaskRequest adaptor
  checkUsageRequest adaptor
  buildSubmit adaptor

/-- The name of a model that neither the request nor the plugin names. -/
def coverTaskActionToModelName (platform action : String) : String :=
  platform.toLower ++ "_" ++ action.toLower

def mapModel (modelName : String) : SubmitM Unit := do
  setNames fun names =>
    { names with originModelName := modelName, upstreamModelName := modelName }
  modelMappedHelper attempt

/-- The name of a model that the request gives is mapped before the plugin sees it; says whether
it was. -/
def mapBeforeValidate : SubmitM Bool := fun info =>
  if info.names.originModelName = "" then .ok false info
  else (mapModel attempt info.names.originModelName >>= fun _ => pure true) info

def mapAfterValidate (mappedBeforeValidate : Bool) (modelName : String) : SubmitM Unit :=
  if mappedBeforeValidate then pure () else mapModel attempt modelName

def billedModel : SubmitM String := fun info =>
  .ok (orKept info.names.originModelName
    (coverTaskActionToModelName attempt.platform info.names.action)) info

/-- Map the name of the model, validate the request, and settle which model is billed. -/
def resolveNames (adaptor : TaskAdaptor) : SubmitM String := do
  let mappedBeforeValidate ← mapBeforeValidate attempt
  validateRequestAndSetAction adaptor
  let modelName ← billedModel attempt
  mapAfterValidate attempt mappedBeforeValidate modelName
  setNames fun names => { names with originModelName := modelName }
  return modelName

/-! ## The price of an attempt -/

/-- The group that the selection of the channel chose, if it chose one. -/
def usedGroup (info : TaskRelayInfo) : String := attempt.autoGroup.getD info.usingGroup

def handleGroupRatio : SubmitM GroupRatioInfo := fun info =>
  let group := usedGroup attempt info
  .ok (settings.resolveGroupRatio user.userGroup group info.names.originModelName)
    { info with usingGroup := group }

def getModelRatio (name : String) : ℚ × Bool × String :=
  let name := settings.formatMatchingModelName name
  match settings.modelRatioMap name with
  | some ratio => (ratio, true, name)
  | none => (75 / 2, settings.selfUseModeEnabled, name)

def modelPriceNotConfiguredError (modelName : String) (isAdmin : Bool) : String :=
  if isAdmin then
    "模型 " ++ modelName ++ " 的价格未配置。请前往「系统设置 → 运营设置」开启自用模式，或在「系统设置 → " ++
      "分组与模型定价设置」中为该模型配置价格；Model " ++ modelName ++ " price not configured. " ++
      "Go to System Settings → Operation Settings to enable self-use mode, or configure the " ++
      "model price in System Settings → Group & Model Pricing."
  else
    "模型 " ++ modelName ++ " 的价格尚未由管理员配置，暂时无法使用，请联系站点管理员开启该模型；Model " ++
      modelName ++ " has not been priced by the administrator yet. Please contact the site " ++
      "administrator to enable this model."

/-- The price of a free model is zero, unless free models are pre-consumed as well. -/
def perCallPriceData (group : GroupRatioInfo) (modelPrice modelRatio : ℚ) (usePrice : Bool)
    (quota : Int) : PriceData :=
  let zero := if usePrice then modelPrice = 0 else modelRatio = 0
  let free := !settings.enableFreeModelPreConsume && decide (group.groupRatio = 0 ∨ zero)
  { freeModel := free
    modelPrice := if usePrice then modelPrice else -1
    modelRatio := modelRatio
    usePrice := usePrice
    quota := if free then 0 else quota
    groupRatioInfo := group }

/-- The base price of a model in a group. -/
def modelPriceHelperPerCall (modelName : String) (group : GroupRatioInfo) :
    Except String PriceData :=
  match (settings.modelPriceMap (settings.formatMatchingModelName modelName)).or
      (settings.defaultModelPriceMap modelName) with
  | some modelPrice =>
    match quotaFromFloatStrict (modelPrice * settings.quotaPerUnit * group.groupRatio) with
    | .error clamp => .error clamp.message
    | .ok quota => .ok (perCallPriceData settings group modelPrice 0 true quota)
  | none =>
    let (modelRatio, success, matchName) := getModelRatio settings modelName
    if success = false ∧ user.acceptUnsetRatioModel = false then
      .error (modelPriceNotConfiguredError matchName user.isAdmin)
    else
      match quotaFromFloatStrict (modelRatio / 2 * settings.quotaPerUnit * group.groupRatio) with
      | .error clamp => .error clamp.message
      | .ok quota => .ok (perCallPriceData settings group (-1) modelRatio false quota)

/-- The first clamp is kept. -/
def noteTaskQuotaClamp (info : TaskRelayInfo) (clamp : Option QuotaClamp) : TaskRelayInfo :=
  { info with quotaClamp := info.quotaClamp.or clamp }

/-- The expression that an attempt is priced by, if it is priced by one: that of the model, or
that of the model it is mapped to. -/
def tieredExprOf (modelName : String) (info : TaskRelayInfo) : Option (Option String) :=
  if settings.isTieredExpr modelName then some (settings.billingExpr modelName)
  else if info.isModelMapped ∧ settings.isTieredExpr info.names.upstreamModelName then
    match settings.billingExpr info.names.upstreamModelName with
    | some tail => if trimSpace tail ≠ "" then some (some tail) else none
    | none => none
  else none

/-- What an expression costs for the facts that the plugin finds in the request. -/
def exprCost (adaptor : TaskAdaptor) (exprStr : String) (names : SubmitNames) :
    Except TaskError (Option String × ℚ × String) :=
  match adaptor.extractUsageFacts names with
  | .error text => .error (taskErrorWrapperLocal text "plugin_usage_invalid" 400)
  | .ok facts =>
    match settings.runExpr exprStr facts with
    | .error text => .error (taskErrorWrapper text "model_price_error" 400)
    | .ok (cost, tier) =>
      if cost < 0 then
        .error (taskErrorWrapper "negative task expression result" "model_price_error" 400)
      else .ok (facts, cost, tier)

def taskSnapshot (modelName exprStr : String) (facts : Option String) (cost : ℚ) (tier : String)
    (groupRatio : ℚ) : BillingSnapshot where
  billingMode := "tiered_expr"
  modelName := modelName
  exprString := exprStr
  groupRatio := groupRatio
  estimatedPromptTokens := 0
  estimatedCompletionTokens := 0
  estimatedQuotaBeforeGroup := cost * settings.quotaPerUnit
  estimatedQuotaAfterGroup := quotaRound (cost * settings.quotaPerUnit * groupRatio)
  estimatedTier := tier
  quotaPerUnit := settings.quotaPerUnit
  exprVersion := (parseExprVersion exprStr).1
  taskUsageBilling := true
  usageFacts := facts

def priceByExpr (adaptor : TaskAdaptor) (modelName exprStr : String) : SubmitM PriceData :=
  fun info =>
    match exprCost settings adaptor exprStr info.names with
    | .error err => .error err info
    | .ok (facts, cost, tier) =>
      let group := usedGroup attempt info
      let ratio :=
        settings.resolveGroupRatio user.userGroup group info.names.originModelName
      let rounded := quotaRoundChecked (cost * settings.quotaPerUnit * ratio.groupRatio)
      .ok { quota := rounded.1, quotaToPreConsume := rounded.1, groupRatioInfo := ratio }
        { noteTaskQuotaClamp info rounded.2 with
          usingGroup := group
          tieredBillingSnapshot :=
            some (taskSnapshot settings modelName exprStr facts cost tier ratio.groupRatio) }

def priceByRatios : SubmitM PriceData := do
  let group ← handleGroupRatio settings user attempt
  fun info =>
    match modelPriceHelperPerCall settings user info.names.originModelName group with
    | .error text => .error (taskErrorWrapper text "model_price_error" 400) info
    | .ok price => .ok price info

/-- The price without further ratios: by an expression, or by the price or the ratio of the
model. -/
def basePrice (adaptor : TaskAdaptor) (modelName : String) : SubmitM PriceData := fun info =>
  match tieredExprOf settings modelName info with
  | some (some exprStr) => priceByExpr settings user attempt adaptor modelName exprStr info
  | some none =>
    .error (taskErrorWrapper ("task model " ++ modelName ++ " has no usage expression or meter")
      "model_price_error" 400) info
  | none => priceByRatios settings user attempt info

/-- The ratios that the plugin reads from the request. -/
def estimateRatios (adaptor : TaskAdaptor) : SubmitM Unit := fun info =>
  if info.tieredBillingSnapshot = none then
    match adaptor.estimateBilling info.names with
    | .error text => .error (taskErrorWrapperLocal text "plugin_usage_invalid" 400) info
    | .ok estimated =>
      .ok () { info with
          priceData :=
            { info.priceData with
              otherRatios := info.priceData.otherRatios.addAll estimated } }
  else .ok () info

def applyRatios (modelName : String) : SubmitM Unit := fun info =>
  if info.tieredBillingSnapshot = none ∧ modelName ∉ settings.taskPricePatches then
    let converted :=
      quotaFromFloatChecked (info.priceData.applyOtherRatiosToFloat info.priceData.quota)
    .ok () { noteTaskQuotaClamp info converted.2 with
        priceData := { info.priceData with quota := converted.1 } }
  else .ok () info

def setPriceData (price : PriceData) : SubmitM Unit := fun info =>
  .ok () { info with priceData := price }

/-- Price the submission; the result is the model that is billed. -/
def priceSubmission (adaptor : TaskAdaptor) : SubmitM String := do
  let modelName ← resolveNames attempt adaptor
  let price ← basePrice settings user attempt adaptor modelName
  setPriceData price
  estimateRatios adaptor
  applyRatios settings modelName
  return modelName

/-! ## The attempt -/

/-- Pre-consume, if no earlier attempt did. -/
def preConsumeSubmission : SubmitM Unit := fun info =>
  if info.billing = false ∧ info.priceData.freeModel = false then
    match info.quotaClamp with
    | some clamp => .error (taskErrorWrapper clamp.message "model_price_error" 400) info
    | none =>
      if info.priceData.quota < 0 then
        .error (taskErrorWrapper ("pre-consume quota cannot be negative: " ++
          toString info.priceData.quota) "model_price_error" 400) info
      else
        match attempt.openSession info.priceData.quota with
        | .error err => .error err info
        | .ok () => .ok () { info with billing := true }
  else .ok () info

/-- The quota with other ratios than those it was computed with; none if no ratio is valid. -/
def recalcQuotaFromRatios (price : PriceData) (ratios : GoMap String ℚ) :
    Option (Int × Option QuotaClamp) :=
  let baseQuota := price.removeOtherRatiosFromFloat price.quota
  let (replaced, usable) := price.replaceOtherRatios ratios
  if usable then some (quotaFromFloatChecked (replaced.applyOtherRatiosToFloat baseQuota))
  else none

/-- The ratios that the upstream reported replace the estimated ones. -/
def adjustRatios (adaptor : TaskAdaptor) (taskData : String) : SubmitM Unit := fun info =>
  if info.tieredBillingSnapshot = none then
    let adjusted := adaptor.adjustBillingOnSubmit info.names taskData
    match recalcQuotaFromRatios info.priceData adjusted with
    | none => .ok () info
    | some (quota, clamp) =>
      .ok () { noteTaskQuotaClamp info clamp with
          priceData := { (info.priceData.replaceOtherRatios adjusted).1 with quota := quota } }
  else .ok () info

/-- Send the request and parse what the upstream answers. -/
def exchange (adaptor : TaskAdaptor) : SubmitM ParsedSubmit := fun info =>
  match adaptor.exchange info.names with
  | .error err => .error err info
  | .ok parsed => .ok parsed info

def requestAdaptor : SubmitM TaskAdaptor := fun info =>
  match attempt.adaptor with
  | .error (code, message) => .error (taskErrorWrapperLocal message code 400) info
  | .ok adaptor => .ok adaptor info

/-- The attempt up to its price: the plugin, and the model that is billed. -/
def priceAttempt : SubmitM (TaskAdaptor × String) := do
  initChannelMeta attempt
  let adaptor ← requestAdaptor attempt
  setNames fun names =>
    { names with publicTaskID := orKept names.publicTaskID attempt.newTaskID }
  let modelName ← priceSubmission settings user attempt adaptor
  return (adaptor, modelName)

def relayTaskSubmit : SubmitM TaskSubmitResult := do
  let (adaptor, _) ← priceAttempt settings user attempt
  preConsumeSubmission attempt
  let parsed ← exchange adaptor
  adjustRatios adaptor parsed.taskData
  return ⟨parsed, (← get).priceData.quota⟩

end Attempt

end AiHub.Relay

import AiHub.Billingexpr.Snapshot
import AiHub.Service.Opening
import AiHub.Types.PriceData

/-!
# Tiered billing across groups

A request that is billed by an expression is estimated once, before any group ratio.  Its retries
may select other groups, and before each attempt the estimate is scaled by the ratio of the group
and the session reserves what is missing.  A request whose first group is free has no session
until a group that is not free is selected.

The session of the code points to the relay information of its request; here the request keeps the
relay information and passes it to its session.
-/

namespace AiHub.Service

open AiHub.Library AiHub.Common AiHub.Model AiHub.Types AiHub.Billingexpr

structure TieredRequest where
  info : RelayInfo
  billing : Option BillingSession
  tieredBillingSnapshot : Option BillingSnapshot
  priceData : Types.PriceData
  quotaClamp : Option QuotaClamp

/-- Why a request ends before it is sent: with a price error and status 400, with the error of
opening its session, or with the error of a reservation.  None is retried. -/
inductive TieredError where
  | price (message : String)
  | opening (halt : OpenHalt)
  | reserve (err : GoError)
  deriving DecidableEq

namespace TieredRequest

/-- Put a session on the request, with what it wrote into the relay information. -/
def withSession (request : TieredRequest) (session : BillingSession) : TieredRequest :=
  { request with info := session.relayInfo, billing := some session }

end TieredRequest

/-! ## The estimate -/

def billingModeTieredExpr : String := "tiered_expr"

/-- The completion tokens that a request without a limit is estimated with. -/
def defaultTieredPreConsumeMaxTokens : Int := 8192

/-- What an estimate is made of.  `runExpr` evaluates an expression for the incoming request, and
returns its value and the tier that it matched. -/
structure TieredPricing where
  modelName : String
  billingExpr : Option String
  promptTokens : Int
  maxTokens : Int
  quotaPerUnit : ℚ
  enableFreeModelPreConsume : Bool
  requestInputError : Option String
  runExpr : String → TokenParams → Except String (ℚ × String)

/-- Estimate a request, and freeze what its settlement needs. -/
def modelPriceHelperTiered (pricing : TieredPricing) (groupRatioInfo : GroupRatioInfo)
    (info : RelayInfo) : Except TieredError TieredRequest :=
  match pricing.billingExpr with
  | none => .error (.price ("model " ++ pricing.modelName ++
      " is configured as tiered_expr but has no billing expression"))
  | some exprStr =>
    let estimatedCompletionTokens :=
      if pricing.maxTokens = 0 ∧ groupRatioInfo.groupRatio ≠ 0 then
        defaultTieredPreConsumeMaxTokens
      else pricing.maxTokens
    match pricing.requestInputError with
    | some message => .error (.price message)
    | none =>
      match pricing.runExpr exprStr
          ⟨pricing.promptTokens, estimatedCompletionTokens, pricing.promptTokens,
            0, 0, 0, 0, 0, 0, 0⟩ with
      | .error message => .error (.price ("model " ++ pricing.modelName ++
          " tiered expr run failed: " ++ message))
      | .ok (rawCost, matchedTier) =>
        let quotaBeforeGroup := rawCost / 1000000 * pricing.quotaPerUnit
        match quotaRoundStrict (quotaBeforeGroup * groupRatioInfo.groupRatio) with
        | .error clamp => .error (.price clamp.message)
        | .ok rounded =>
          let freeModel :=
            decide (pricing.enableFreeModelPreConsume = false ∧
              groupRatioInfo.groupRatio = 0)
          let preConsumedQuota := if freeModel then 0 else rounded
          .ok
            { info
              billing := none
              tieredBillingSnapshot := some
                { billingMode := billingModeTieredExpr
                  modelName := pricing.modelName
                  exprString := exprStr
                  groupRatio := groupRatioInfo.groupRatio
                  estimatedPromptTokens := pricing.promptTokens
                  estimatedCompletionTokens
                  estimatedQuotaBeforeGroup := quotaBeforeGroup
                  estimatedQuotaAfterGroup := preConsumedQuota
                  estimatedTier := matchedTier
                  quotaPerUnit := pricing.quotaPerUnit
                  exprVersion := (parseExprVersion exprStr).1
                  taskUsageBilling := false
                  usageFacts := none }
              priceData :=
                { freeModel, groupRatioInfo, quotaToPreConsume := preConsumedQuota }
              quotaClamp := none }

/-! ## Sessions -/

/-- The settings of billing, the failures and the tables that an attempt meets.  Other requests
may have changed the tables since the attempt before. -/
structure BillingMoment where
  settings : BillingSettings
  openFaults : SessionFaults
  reserveFaults : BillingSession.ReserveFaults
  env : Env
  db : Database

/-- Open a session for a quota, and put it on the request. -/
def preConsumeBilling (moment : BillingMoment) (preConsumedQuota : Int)
    (request : TieredRequest) : Option TieredError × TieredRequest × Database :=
  match request.quotaClamp with
  | some clamp => (some (.price clamp.message), request, moment.db)
  | none =>
    if preConsumedQuota < 0 then
      (some (.price ("pre-consume quota cannot be negative: " ++ toString preConsumedQuota)),
        request, moment.db)
    else
      match newBillingSession moment.settings moment.openFaults moment.env request.info
          preConsumedQuota moment.db with
      | (.error halt, next) => (some (.opening halt), request, next)
      | (.ok session, next) => (none, request.withSession session, next)

/-- Scale the estimate by the ratio of the selected group. -/
def refreshTieredBillingGroup (request : TieredRequest) :
    Except QuotaClamp (Option BillingSnapshot × TieredRequest) :=
  match request.tieredBillingSnapshot with
  | none => .ok (none, request)
  | some snap =>
    if snap.billingMode ≠ billingModeTieredExpr then .ok (none, request)
    else
      let groupRatio := request.priceData.groupRatioInfo.groupRatio
      if snap.groupRatio = groupRatio then .ok (some snap, request)
      else
        match quotaRoundStrict (snap.estimatedQuotaBeforeGroup * groupRatio) with
        | .error clamp => .error clamp
        | .ok estimatedQuota =>
          let snap := { snap with groupRatio, estimatedQuotaAfterGroup := estimatedQuota }
          .ok (some snap, { request with tieredBillingSnapshot := some snap })

/-- Raise the reservation of a session to an estimate. -/
def reserveForGroup (moment : BillingMoment) (targetQuota : Int) (session : BillingSession)
    (request : TieredRequest) : Option TieredError × TieredRequest × Database :=
  match { session with relayInfo := request.info }.reserve moment.settings moment.reserveFaults
      targetQuota moment.db with
  | (some err, session, next) => (some (.reserve err), request.withSession session, next)
  | (none, session, next) =>
    (none,
      request.withSession
        { session with
          relayInfo :=
            { session.relayInfo with finalPreConsumedQuota := session.preConsumedQuota } },
      next)

/-- Before an attempt is sent: refresh the estimate, and reserve it. -/
def prepareTieredBillingForSelectedGroup (moment : BillingMoment) (request : TieredRequest) :
    Option TieredError × TieredRequest × Database :=
  match refreshTieredBillingGroup request with
  | .error clamp => (some (.price clamp.message), request, moment.db)
  | .ok (none, request) => (none, request, moment.db)
  | .ok (some snap, request) =>
    -- A session that exists keeps what it has reserved, and settles to zero.
    if snap.groupRatio = 0 then (none, request, moment.db)
    else
      let request :=
        { request with priceData := { request.priceData with freeModel := false } }
      match request.billing with
      | none => preConsumeBilling moment snap.estimatedQuotaAfterGroup request
      | some session => reserveForGroup moment snap.estimatedQuotaAfterGroup session request

/-! ## Settlement -/

structure TieredResult where
  actualQuotaBeforeGroup : ℚ
  actualQuotaAfterGroup : Int
  matchedTier : String
  requestRules : List RequestRuleTrace
  crossedTier : Bool
  clamp : Option QuotaClamp

def quotaConversion (exprOutput : ℚ) (snap : BillingSnapshot) : ℚ :=
  if snap.taskUsageBilling then exprOutput * snap.quotaPerUnit
  else exprOutput / 1000000 * snap.quotaPerUnit

/-- The result of the expression on what was really used. -/
def computeTieredQuota (snap : BillingSnapshot) (ran : Except String (ℚ × TraceResult)) :
    Except String TieredResult :=
  match ran with
  | .error message => .error message
  | .ok (cost, trace) =>
    let quotaBeforeGroup := quotaConversion cost snap
    let rounded := quotaRoundChecked (quotaBeforeGroup * snap.groupRatio)
    .ok
      { actualQuotaBeforeGroup := quotaBeforeGroup
        actualQuotaAfterGroup := rounded.1
        matchedTier := trace.matchedTier
        requestRules := trace.requestRules
        crossedTier := decide (trace.matchedTier ≠ snap.estimatedTier)
        clamp := rounded.2 }

/-- The quota that a request is settled with, if it is billed by tiers.  Where the expression
fails, what was reserved is charged. -/
def tryTieredSettle (request : TieredRequest) (ran : Except String (ℚ × TraceResult)) :
    Option (Int × Option TieredResult) :=
  match request.tieredBillingSnapshot with
  | none => none
  | some snap =>
    if snap.billingMode ≠ billingModeTieredExpr then none
    else
      match computeTieredQuota snap ran with
      | .error _ =>
        some (if request.info.finalPreConsumedQuota ≤ 0 then snap.estimatedQuotaAfterGroup
          else request.info.finalPreConsumedQuota, none)
      | .ok result => some (result.actualQuotaAfterGroup, some result)

/-! ## The attempts of a request -/

/-- Estimate a request, and open its session unless it is free. -/
def startRelay (pricing : TieredPricing) (groupRatioInfo : GroupRatioInfo) (info : RelayInfo)
    (moment : BillingMoment) : Option TieredRequest :=
  match modelPriceHelperTiered pricing groupRatioInfo info with
  | .error _ => none
  | .ok request =>
    if request.priceData.freeModel then some request
    else
      match preConsumeBilling moment request.priceData.quotaToPreConsume request with
      | (none, request, _) => some request
      | (some _, _, _) => none

/-- One attempt: a retry selects a channel, and with it a group. -/
structure RelayAttempt where
  groupRatioInfo : Option GroupRatioInfo
  moment : BillingMoment

def selectGroup (attempt : RelayAttempt) (request : TieredRequest) : TieredRequest :=
  match attempt.groupRatioInfo with
  | none => request
  | some groupRatioInfo =>
    { request with priceData := { request.priceData with groupRatioInfo } }

/-- The request as it is sent in the last of some attempts; the first attempt whose billing fails
ends the request. -/
def relayAttempts (request : TieredRequest) : List RelayAttempt → Option TieredRequest
  | [] => some request
  | attempt :: rest =>
    match prepareTieredBillingForSelectedGroup attempt.moment (selectGroup attempt request) with
    | (none, request, _) => relayAttempts request rest
    | (some _, _, _) => none

def lastGroup (first : GroupRatioInfo) (attempts : List RelayAttempt) : GroupRatioInfo :=
  attempts.foldl (fun current attempt => attempt.groupRatioInfo.getD current) first

/-! ## What a session covers -/

/-- An open session that has reserved a quota, unless it is trusted. -/
structure Covers (quota : Int) (session : BillingSession) : Prop where
  unsettled : session.settled = false
  unrefunded : session.refunded = false
  synced : session.relayInfo.finalPreConsumedQuota = session.preConsumedQuota
  nonneg : 0 ≤ session.preConsumedQuota
  enough : session.trusted = false → quota ≤ session.preConsumedQuota

theorem finalPreConsumedQuota_syncRelayInfo (session : BillingSession) :
    session.syncRelayInfo.relayInfo.finalPreConsumedQuota = session.preConsumedQuota := by
  cases funding : session.funding <;> simp only [BillingSession.syncRelayInfo, funding]

section Opening

variable {settings : BillingSettings} {env : Env} {info : RelayInfo} {quota : Int}
  {db next : Database} {session : BillingSession}

variable {faults : OpenFaults}

/-- A new session covers what it asked for, if it is not trusted. -/
theorem preConsume_covers {funding : FundingSource} (nonneg : 0 ≤ quota)
    (done : (BillingSession.new info funding).preConsume settings faults env quota db =
      (.ok session, next)) : Covers quota session := by
  obtain ⟨funded, -, rfl⟩ := preConsume_ok done
  refine ⟨rfl, rfl, finalPreConsumedQuota_syncRelayInfo _, effectiveQuota_nonneg settings nonneg _,
    fun untrusted => ?_⟩
  exact (if_neg (Bool.not_eq_true _ ▸ untrusted)).ge

theorem tryWallet_covers (nonneg : 0 ≤ quota)
    (done : tryWallet settings faults env info quota db = (.ok session, next)) :
    Covers quota session := by
  unfold tryWallet at done
  split at done
  · cases done
  split at done
  · cases done
  · split at done
    · cases done
    · exact preConsume_covers nonneg done

/-- A subscription is asked for one unit at least. -/
theorem trySubscription_covers
    (done : trySubscription settings faults env info quota db = (.ok session, next)) :
    Covers quota session := by
  have atLeast : quota ≤ (if quota ≤ 0 then 1 else quota) := by split <;> omega
  have nonneg : 0 ≤ (if quota ≤ 0 then 1 else quota) := by split <;> omega
  have covers := preConsume_covers nonneg done
  exact { covers with enough := fun untrusted => atLeast.trans (covers.enough untrusted) }

theorem newBillingSession_covers {faults : SessionFaults} (nonneg : 0 ≤ quota)
    (done : newBillingSession settings faults env info quota db = (.ok session, next)) :
    Covers quota session := by
  unfold newBillingSession at done
  simp only at done
  split at done
  · exact trySubscription_covers done
  · exact tryWallet_covers nonneg done
  · split at done
    · split at done
      · exact trySubscription_covers done
      · cases done
    · exact tryWallet_covers nonneg done
  · split at done
    · cases done
    · exact tryWallet_covers nonneg done
    · split at done
      · split at done
        · split at done
          · cases done
          · exact tryWallet_covers nonneg done
          · cases done
        · cases done
      · exact trySubscription_covers done

end Opening

theorem reserve_covers {settings : BillingSettings} {faults : BillingSession.ReserveFaults}
    {quota targetQuota : Int} {session after : BillingSession} {db next : Database}
    (covers : Covers quota session)
    (done : session.reserve settings faults targetQuota db = (none, after, next)) :
    Covers targetQuota after := by
  unfold BillingSession.reserve at done
  split at done
  · rename_i early
    cases done
    simp only [covers.unsettled, covers.unrefunded, Bool.false_or, Bool.or_eq_true,
      decide_eq_true_eq] at early
    refine { covers with enough := fun untrusted => ?_ }
    exact early.resolve_left (by rw [untrusted]; exact Bool.false_ne_true)
  · rename_i missing
    simp only [Bool.or_eq_true, decide_eq_true_eq, not_or, Bool.not_eq_true] at missing
    have nonneg := covers.nonneg
    simp only at done
    split at done
    · cases done
    split at done
    · cases done
    cases done
    refine ⟨covers.unsettled, covers.unrefunded, finalPreConsumedQuota_syncRelayInfo _, ?_,
      fun _ => ?_⟩
    · simp only [BillingSession.syncRelayInfo]
      omega
    · simp only [BillingSession.syncRelayInfo]
      omega

/-! ## What holds before an attempt is sent -/

/-- The snapshot of a request is the original one, scaled to some group, and its session covers
the scaled estimate.  There is no session only as long as every group was free. -/
structure Priced (original : BillingSnapshot) (request : TieredRequest) (snap : BillingSnapshot) :
    Prop where
  snapshot : request.tieredBillingSnapshot = some snap
  scaled : snap =
    { original with
      groupRatio := snap.groupRatio
      estimatedQuotaAfterGroup := snap.estimatedQuotaAfterGroup }
  estimate : quotaRoundStrict (original.estimatedQuotaBeforeGroup * snap.groupRatio) =
    .ok snap.estimatedQuotaAfterGroup
  session : ∀ session, request.billing = some session →
    request.info = session.relayInfo ∧ Covers snap.estimatedQuotaAfterGroup session
  unopened : request.billing = none →
    snap.groupRatio = 0 ∧ request.info.finalPreConsumedQuota = 0

section Attempts

variable {original snap : BillingSnapshot} {request after : TieredRequest} {moment : BillingMoment}
  {next : Database}

/-- The refreshed snapshot is scaled to the selected group. -/
theorem refresh_ok (tiered : original.billingMode = billingModeTieredExpr)
    (priced : Priced original request snap) {found : Option BillingSnapshot}
    (done : refreshTieredBillingGroup request = .ok (found, after)) :
    ∃ fresh, found = some fresh ∧ after = { request with tieredBillingSnapshot := some fresh } ∧
      fresh.groupRatio = request.priceData.groupRatioInfo.groupRatio ∧
      fresh = { original with
        groupRatio := fresh.groupRatio
        estimatedQuotaAfterGroup := fresh.estimatedQuotaAfterGroup } ∧
      quotaRoundStrict (original.estimatedQuotaBeforeGroup * fresh.groupRatio) =
        .ok fresh.estimatedQuotaAfterGroup := by
  have mode : snap.billingMode = billingModeTieredExpr := by
    rw [priced.scaled]
    exact tiered
  have before : snap.estimatedQuotaBeforeGroup = original.estimatedQuotaBeforeGroup := by
    rw [priced.scaled]
  unfold refreshTieredBillingGroup at done
  rw [priced.snapshot] at done
  simp only at done
  rw [if_neg (not_not.mpr mode)] at done
  split at done
  · rename_i same
    cases done
    refine ⟨snap, rfl, ?_, same, priced.scaled, priced.estimate⟩
    rw [← priced.snapshot]
  · split at done
    · cases done
    · rename_i estimated rounded
      cases done
      rw [before] at rounded
      refine ⟨_, rfl, rfl, rfl, ?_, rounded⟩
      rw [priced.scaled]

variable {quota : Int}

theorem preConsumeBilling_ok (done : preConsumeBilling moment quota request = (none, after, next)) :
    ∃ session, after = request.withSession session ∧ Covers quota session := by
  unfold preConsumeBilling at done
  split at done
  · cases done
  split at done
  · cases done
  rename_i negative
  split at done
  · cases done
  · rename_i session _ opened
    cases done
    exact ⟨session, rfl, newBillingSession_covers (not_lt.mp negative) opened⟩

theorem reserveForGroup_ok {targetQuota : Int} {session : BillingSession}
    (same : request.info = session.relayInfo) (covers : Covers quota session)
    (done : reserveForGroup moment targetQuota session request = (none, after, next)) :
    ∃ raised, after = request.withSession raised ∧ Covers targetQuota raised := by
  unfold reserveForGroup at done
  rw [same] at done
  split at done
  · cases done
  rename_i raised _ reserved
  cases done
  have raisedCovers := reserve_covers covers reserved
  exact ⟨_, rfl, raisedCovers.unsettled, raisedCovers.unrefunded, rfl, raisedCovers.nonneg,
    raisedCovers.enough⟩

theorem quotaRoundStrict_zero : quotaRoundStrict 0 = .ok 0 := by decide +kernel

/-- Preparing an attempt scales the snapshot to the selected group and covers its estimate. -/
theorem prepare_priced (tiered : original.billingMode = billingModeTieredExpr)
    (priced : Priced original request snap)
    (done : prepareTieredBillingForSelectedGroup moment request = (none, after, next)) :
    ∃ fresh, Priced original after fresh ∧
      after.priceData.groupRatioInfo = request.priceData.groupRatioInfo ∧
      fresh.groupRatio = request.priceData.groupRatioInfo.groupRatio := by
  unfold prepareTieredBillingForSelectedGroup at done
  split at done
  · cases done
  · rename_i refreshed
    obtain ⟨_, absent, -⟩ := refresh_ok tiered priced refreshed
    cases absent
  · rename_i fresh _ refreshed
    obtain ⟨_, same, rfl, ratio, scaled, estimate⟩ := refresh_ok tiered priced refreshed
    cases same
    refine ⟨fresh, ?_⟩
    split at done
    · -- The group is free, so nothing has to be reserved for it.
      rename_i free
      cases done
      have nothing : fresh.estimatedQuotaAfterGroup = 0 := by
        rw [free, mul_zero, quotaRoundStrict_zero] at estimate
        exact (Except.ok.inj estimate).symm
      refine ⟨⟨rfl, scaled, estimate, fun session opened => ?_, fun unopened => ?_⟩, rfl, ratio⟩
      · obtain ⟨sameInfo, covers⟩ := priced.session session opened
        exact ⟨sameInfo, { covers with enough := fun _ => nothing ▸ covers.nonneg }⟩
      · exact ⟨free, (priced.unopened unopened).2⟩
    · simp only at done
      have covered : ∀ session, Covers fresh.estimatedQuotaAfterGroup session →
          Priced original (TieredRequest.withSession
            { request with
              tieredBillingSnapshot := some fresh
              priceData := { request.priceData with freeModel := false } } session) fresh := by
        intro session covers
        refine ⟨rfl, scaled, estimate, fun other same => ?_, fun unopened => by cases unopened⟩
        cases same
        exact ⟨rfl, covers⟩
      split at done
      · obtain ⟨session, rfl, covers⟩ := preConsumeBilling_ok done
        exact ⟨covered session covers, rfl, ratio⟩
      · rename_i session opened
        obtain ⟨sameInfo, covers⟩ := priced.session session opened
        obtain ⟨raised, rfl, raisedCovers⟩ := reserveForGroup_ok (by exact sameInfo) covers done
        exact ⟨covered raised raisedCovers, rfl, ratio⟩

theorem Priced.selectGroup (priced : Priced original request snap) (attempt : RelayAttempt) :
    Priced original (selectGroup attempt request) snap := by
  unfold Service.selectGroup
  split <;> exact ⟨priced.snapshot, priced.scaled, priced.estimate, priced.session, priced.unopened⟩

theorem groupRatioInfo_selectGroup (attempt : RelayAttempt) (request : TieredRequest) :
    (selectGroup attempt request).priceData.groupRatioInfo =
      attempt.groupRatioInfo.getD request.priceData.groupRatioInfo := by
  unfold selectGroup
  split
  · rename_i kept
    rw [kept, Option.getD_none]
  · rename_i selected
    rw [selected, Option.getD_some]

/-- After every attempt the snapshot is scaled to the group that was selected last. -/
theorem attempts_priced (tiered : original.billingMode = billingModeTieredExpr)
    (attempts : List RelayAttempt) (priced : Priced original request snap)
    (ratio : snap.groupRatio = request.priceData.groupRatioInfo.groupRatio)
    (done : relayAttempts request attempts = some after) :
    ∃ fresh, Priced original after fresh ∧
      fresh.groupRatio = (lastGroup request.priceData.groupRatioInfo attempts).groupRatio := by
  induction attempts generalizing request snap with
  | nil =>
    cases done
    exact ⟨snap, priced, ratio⟩
  | cons attempt rest ih =>
    unfold relayAttempts at done
    split at done
    · rename_i prepared
      obtain ⟨fresh, pricedNext, sameGroup, freshRatio⟩ :=
        prepare_priced tiered (priced.selectGroup attempt) prepared
      obtain ⟨last, pricedLast, lastRatio⟩ :=
        ih pricedNext (freshRatio.trans (congrArg _ sameGroup.symm)) done
      refine ⟨last, pricedLast, ?_⟩
      rw [lastRatio, sameGroup, groupRatioInfo_selectGroup]
      rfl
    · cases done

end Attempts

variable {pricing : TieredPricing} {groupRatioInfo : GroupRatioInfo} {info : RelayInfo}
  {request : TieredRequest}

/-- The estimate of a request is scaled to its first group. -/
theorem modelPriceHelperTiered_ok
    (done : modelPriceHelperTiered pricing groupRatioInfo info = .ok request) :
    ∃ snap, request.tieredBillingSnapshot = some snap ∧
      snap.billingMode = billingModeTieredExpr ∧
      snap.groupRatio = groupRatioInfo.groupRatio ∧
      quotaRoundStrict (snap.estimatedQuotaBeforeGroup * snap.groupRatio) =
        .ok snap.estimatedQuotaAfterGroup ∧
      request.info = info ∧ request.billing = none ∧
      request.priceData.groupRatioInfo = groupRatioInfo ∧
      request.priceData.quotaToPreConsume = snap.estimatedQuotaAfterGroup ∧
      (request.priceData.freeModel = true → groupRatioInfo.groupRatio = 0) := by
  unfold modelPriceHelperTiered at done
  split at done
  · cases done
  simp only at done
  split at done
  · cases done
  split at done
  · cases done
  split at done
  · cases done
  rename_i rounded estimate
  cases done
  refine ⟨_, rfl, rfl, rfl, ?_, rfl, rfl, rfl, rfl, fun free => ?_⟩
  · simp only
    split
    · -- A free group rounds to nothing.
      rename_i free
      rw [(of_decide_eq_true free).2, mul_zero]
      exact quotaRoundStrict_zero
    · exact estimate
  · exact (of_decide_eq_true free).2

/-- A request starts with its estimate covered, or free. -/
theorem startRelay_priced {moment : BillingMoment} (unreserved : info.finalPreConsumedQuota = 0)
    (started : startRelay pricing groupRatioInfo info moment = some request) :
    ∃ snap, snap.billingMode = billingModeTieredExpr ∧ Priced snap request snap ∧
      snap.groupRatio = groupRatioInfo.groupRatio ∧
      request.priceData.groupRatioInfo = groupRatioInfo := by
  unfold startRelay at started
  split at started
  · cases started
  rename_i estimated priced
  obtain ⟨snap, snapshot, tiered, ratio, estimate, sameInfo, unopened, group, quota, free⟩ :=
    modelPriceHelperTiered_ok priced
  refine ⟨snap, tiered, ?_, ratio, ?_⟩
  all_goals split at started
  · rename_i freeModel
    cases started
    refine ⟨snapshot, rfl, estimate, fun session opened => ?_, fun _ => ?_⟩
    · rw [unopened] at opened
      cases opened
    · exact ⟨ratio.trans (free freeModel), by rw [sameInfo, unreserved]⟩
  · split at started
    · rename_i opened
      cases started
      obtain ⟨session, rfl, covers⟩ := preConsumeBilling_ok opened
      rw [quota] at covers
      refine ⟨snapshot, rfl, estimate, fun other same => ?_, fun absent => by cases absent⟩
      cases same
      exact ⟨rfl, covers⟩
    · cases started
  · cases started
    exact group
  · split at started
    · rename_i opened
      cases started
      obtain ⟨session, rfl, -⟩ := preConsumeBilling_ok opened
      exact group
    · cases started

/-! ## Group switches -/

/-- Whatever groups the retries of a request select, before each attempt is sent its session has
reserved the estimate under the ratio of the group, unless it is trusted, and it is settled with
this ratio.  There is no session only if the group is free. -/
theorem groupSwitches_covered {pricing : TieredPricing} {groupRatioInfo : GroupRatioInfo}
    {info : RelayInfo} {moment : BillingMoment} {start request : TieredRequest}
    (unreserved : info.finalPreConsumedQuota = 0)
    (started : startRelay pricing groupRatioInfo info moment = some start)
    (attempts : List RelayAttempt) (sent : relayAttempts start attempts = some request) :
    ∃ original snap, start.tieredBillingSnapshot = some original ∧
      request.tieredBillingSnapshot = some snap ∧
      snap = { original with
        groupRatio := (lastGroup groupRatioInfo attempts).groupRatio
        estimatedQuotaAfterGroup := snap.estimatedQuotaAfterGroup } ∧
      quotaRoundStrict (original.estimatedQuotaBeforeGroup *
        (lastGroup groupRatioInfo attempts).groupRatio) = .ok snap.estimatedQuotaAfterGroup ∧
      (∀ session, request.billing = some session → session.trusted = false →
        snap.estimatedQuotaAfterGroup ≤ session.preConsumedQuota) ∧
      (request.billing = none → (lastGroup groupRatioInfo attempts).groupRatio = 0) ∧
      request.info.finalPreConsumedQuota =
        (request.billing.map BillingSession.preConsumedQuota).getD 0 ∧
      ∀ cost trace, (tryTieredSettle request (.ok (cost, trace))).map Prod.fst =
        some (quotaRound (quotaConversion cost original *
          (lastGroup groupRatioInfo attempts).groupRatio)) := by
  obtain ⟨original, tiered, priced, ratio, group⟩ := startRelay_priced unreserved started
  obtain ⟨snap, covered, last⟩ :=
    attempts_priced tiered attempts priced (by rw [ratio, group]) sent
  rw [group] at last
  refine ⟨original, snap, priced.snapshot, covered.snapshot, ?_, ?_, ?_, ?_, ?_, ?_⟩
  · rw [← last]
    exact covered.scaled
  · rw [← last]
    exact covered.estimate
  · exact fun session opened untrusted => (covered.session session opened).2.enough untrusted
  · exact fun unopened => last ▸ (covered.unopened unopened).1
  · cases opened : request.billing with
    | none => exact (covered.unopened opened).2
    | some session =>
      obtain ⟨sameInfo, covers⟩ := covered.session session opened
      rw [sameInfo, covers.synced]
      rfl
  · intro cost trace
    have mode : snap.billingMode = billingModeTieredExpr := by
      rw [covered.scaled]
      exact tiered
    have conversion : quotaConversion cost snap = quotaConversion cost original := by
      rw [covered.scaled]
      rfl
    simp only [tryTieredSettle, covered.snapshot, computeTieredQuota]
    rw [if_neg (not_not.mpr mode), conversion, last]
    rfl

def twentyUnits : TieredPricing where
  modelName := "tiered"
  billingExpr := some "tier(\"base\", p)"
  promptTokens := 20
  maxTokens := 0
  quotaPerUnit := 1000000
  enableFreeModelPreConsume := false
  requestInputError := none
  runExpr _ _ := .ok (20, "base")

def groupOfRatio (ratio : ℚ) : GroupRatioInfo := ⟨ratio, -1, false, 0, false⟩

def walletMoment : BillingMoment where
  settings := plainSettings
  openFaults := ⟨noOpenFaults, noOpenFaults, false, false⟩
  reserveFaults := ⟨false, false, false⟩
  env := emptyEnv
  db := walletTables

/-- From a free group to one that is paid, and on to a dearer one. -/
def dearerGroups : List RelayAttempt :=
  [⟨none, walletMoment⟩, ⟨some (groupOfRatio 1), walletMoment⟩,
    ⟨some (groupOfRatio 2), walletMoment⟩]

theorem dearerGroups_covered :
    ∃ start request,
      startRelay twentyUnits (groupOfRatio 0) walletRequest walletMoment = some start ∧
      relayAttempts start dearerGroups = some request ∧
      request.info.finalPreConsumedQuota = 40 := by
  have billed : ((startRelay twentyUnits (groupOfRatio 0) walletRequest walletMoment).bind
      fun start => (relayAttempts start dearerGroups).map fun request =>
        request.billing.map BillingSession.preConsumedQuota) = some (some 40) := by
    decide +kernel
  obtain ⟨start, started, attempted⟩ := Option.bind_eq_some_iff.mp billed
  obtain ⟨request, sent, reserved⟩ := Option.map_eq_some_iff.mp attempted
  obtain ⟨_, _, -, -, -, -, -, -, final, -⟩ :=
    groupSwitches_covered rfl started dearerGroups sent
  exact ⟨start, request, started, sent, by rw [final, reserved]; rfl⟩

end AiHub.Service

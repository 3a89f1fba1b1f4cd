import AiHub.Service.FundingSource

/-!
# Billing sessions

A billing session accompanies one request: it pre-consumes an estimate from the
token and from a funding source, may reserve more before the request is sent, and
finally settles the actual consumption or refunds everything.

Calls return the new session together with the tables, also when they fail: a
failing call has undone what it did only if the code undoes it.
-/

namespace AiHub.Service

open AiHub.Library AiHub.Common AiHub.Model

/-- The codes of the errors that opening a session reports. -/
inductive ErrorCode where
  | insufficientUserQuota
  | preConsumeTokenQuotaFailed
  | queryDataError
  | updateDataError
  deriving DecidableEq, Repr

structure AIGatewayError where
  code : ErrorCode
  statusCode : Nat
  err : GoError
  deriving DecidableEq, Repr

/-- How opening a session ends without a session. -/
inductive OpenHalt where
  | error (err : AIGatewayError)
  | diverges
  deriving DecidableEq, Repr

/-- What billing reads from the configuration. -/
structure BillingSettings where
  trustQuota : Int
  formatQuota : Int → String

/-- The part of the relay information that billing reads and writes.  `tokenQuota`
is the quota of the token that authentication left in the request context. -/
structure RelayInfo where
  userId : Nat
  tokenId : Nat
  requestId : String
  tokenUnlimited : Bool
  tokenQuota : Int
  isPlayground : Bool
  forcePreConsume : Bool
  billingPreference : String
  userQuota : Int
  finalPreConsumedQuota : Int
  billingSource : Option BillingSource
  subscriptionId : Nat
  subscriptionPreConsumed : Int
  subscriptionPostDelta : Int
  subscriptionAmountTotal : Int
  subscriptionAmountUsedAfterPreConsume : Int
  deriving DecidableEq, Repr

structure BillingSession where
  relayInfo : RelayInfo
  funding : FundingSource
  preConsumedQuota : Int
  tokenConsumed : Int
  extraReserved : Int
  trusted : Bool
  fundingSettled : Bool
  settled : Bool
  refunded : Bool
  deriving DecidableEq, Repr

namespace BillingSession

/-- A session before its pre-consume. -/
def new (info : RelayInfo) (funding : FundingSource) : BillingSession :=
  ⟨info, funding, 0, 0, 0, false, false, false, false⟩

/-- Copy the state of the session into the relay information. -/
def syncRelayInfo (session : BillingSession) : BillingSession :=
  let info :=
    { session.relayInfo with
      finalPreConsumedQuota := session.preConsumedQuota
      billingSource := some session.funding.source }
  { session with
    relayInfo :=
      match session.funding with
      | .subscription sub =>
        { info with
          subscriptionId := sub.subscriptionId
          subscriptionPreConsumed := sub.preConsumed + session.extraReserved
          subscriptionPostDelta := 0
          subscriptionAmountTotal := sub.amountTotal
          subscriptionAmountUsedAfterPreConsume :=
            sub.amountUsedAfter + session.extraReserved }
      | .wallet _ => { info with subscriptionId := 0, subscriptionPreConsumed := 0 } }

/-- A rich wallet with a rich token need not pre-consume; a subscription must. -/
def shouldTrust (settings : BillingSettings) (session : BillingSession) : Bool :=
  if session.relayInfo.forcePreConsume then false
  else if settings.trustQuota ≤ 0 then false
  else if !(session.relayInfo.tokenUnlimited ||
      decide (settings.trustQuota < session.relayInfo.tokenQuota)) then false
  else
    match session.funding.source with
    | .wallet => decide (settings.trustQuota < session.relayInfo.userQuota)
    | .subscription => false

/-- What the session asks its token and its funding source for. -/
def effectiveQuota (settings : BillingSettings) (quota : Int) (session : BillingSession) :
    Int :=
  if session.shouldTrust settings then 0 else quota

end BillingSession

/-- Deduct a quota from the token of the request; a playground request has none. -/
def preConsumeTokenQuota (settings : BillingSettings) (fault : Bool) (info : RelayInfo)
    (quota : Int) (db : Database) : Except GoError Database :=
  if quota < 0 then .error negativeQuotaError
  else if info.isPlayground then .ok db
  else
    match tryReserveTokenQuota fault info.tokenId quota info.tokenUnlimited db with
    | .error err => .error err
    | .ok (true, next) => .ok next
    | .ok (false, _) =>
      let remainQuota := ((db.tokens.find? info.tokenId).map Token.remainQuota).getD 0
      .error (.text ("token quota is not enough, token remain quota: " ++
        settings.formatQuota remainQuota ++ ", need quota: " ++ settings.formatQuota quota))

/-- Which ledger operations of one attempt to open a session fail.  The roll-back
of the token may fail like any other operation. -/
structure OpenFaults where
  quotaRead : Bool
  token : Bool
  funding : FundingSource.PreConsumeFaults
  rollback : Bool
  balanceRead : Bool

def GoError.contains (err : GoError) (phrase : String) : Bool :=
  decide (phrase.toList <:+: err.message.toList)

/-- The answer to a funding source that refused to pre-consume. -/
def fundingRefusal (settings : BillingSettings) (faults : OpenFaults) (info : RelayInfo)
    (db : Database) (err : GoError) : AIGatewayError :=
  if err = .insufficientWalletQuota then
    let userQuota := (getUserQuota faults.balanceRead info.userId db).toOption.getD 0
    ⟨.insufficientUserQuota, 403,
      .text ("用户额度不足, 剩余额度: " ++ settings.formatQuota userQuota)⟩
  else if GoError.contains err "no active subscription" ||
      GoError.contains err "subscription quota insufficient" then
    ⟨.insufficientUserQuota, 403, .text ("订阅额度不足或未配置订阅: " ++ err.message)⟩
  else ⟨.updateDataError, 500, err⟩

/-- Give back to the token what a failed opening took from it; an error of the
roll-back is only logged. -/
def rollbackToken (fault : Bool) (info : RelayInfo) (tokenConsumed : Int) (db : Database) :
    Database :=
  if 0 < tokenConsumed ∧ info.isPlayground = false then
    match increaseTokenQuota fault info.tokenId tokenConsumed db with
    | .ok next => next
    | .error _ => db
  else db

/-- Pre-consume from the token and then from the funding source. -/
def BillingSession.preConsume (settings : BillingSettings) (faults : OpenFaults) (env : Env)
    (quota : Int) (session : BillingSession) (db : Database) :
    Except OpenHalt BillingSession × Database :=
  let effectiveQuota := session.effectiveQuota settings quota
  let session := { session with trusted := session.shouldTrust settings }
  let tokenDone :=
    if 0 < effectiveQuota then
      preConsumeTokenQuota settings faults.token session.relayInfo effectiveQuota db
    else .ok db
  match tokenDone with
  | .error err => (.error (.error ⟨.preConsumeTokenQuotaFailed, 403, err⟩), db)
  | .ok reserved =>
    let tokenConsumed := if 0 < effectiveQuota then effectiveQuota else 0
    match session.funding.preConsume faults.funding env effectiveQuota reserved with
    | .error .diverges => (.error .diverges, reserved)
    | .error (.error err) =>
      let rolledBack := rollbackToken faults.rollback session.relayInfo tokenConsumed reserved
      (.error (.error (fundingRefusal settings faults session.relayInfo rolledBack err)),
        rolledBack)
    | .ok (funding, next) =>
      (.ok ({ session with
          funding := funding
          tokenConsumed := tokenConsumed
          preConsumedQuota := effectiveQuota } : BillingSession).syncRelayInfo, next)

/-! ## Opening a session -/

/-- Open a session that is paid from the wallet. -/
def tryWallet (settings : BillingSettings) (faults : OpenFaults) (env : Env)
    (info : RelayInfo) (preConsumedQuota : Int) (db : Database) :
    Except OpenHalt BillingSession × Database :=
  match getUserQuota faults.quotaRead info.userId db with
  | .error err => (.error (.error ⟨.queryDataError, 500, err⟩), db)
  | .ok userQuota =>
    if userQuota ≤ 0 then
      (.error (.error ⟨.insufficientUserQuota, 403,
        .text ("用户额度不足, 剩余额度: " ++ settings.formatQuota userQuota)⟩), db)
    else if userQuota - preConsumedQuota < 0 then
      (.error (.error ⟨.insufficientUserQuota, 403,
        .text ("预扣费额度失败, 用户剩余额度: " ++ settings.formatQuota userQuota ++
          ", 需要预扣费额度: " ++ settings.formatQuota preConsumedQuota)⟩), db)
    else
      (BillingSession.new { info with userQuota := userQuota }
        (.wallet ⟨info.userId, 0⟩)).preConsume settings faults env preConsumedQuota db

/-- Open a session that is paid from a subscription, for at least one unit. -/
def trySubscription (settings : BillingSettings) (faults : OpenFaults) (env : Env)
    (info : RelayInfo) (preConsumedQuota : Int) (db : Database) :
    Except OpenHalt BillingSession × Database :=
  let subConsume := if preConsumedQuota ≤ 0 then 1 else preConsumedQuota
  (BillingSession.new info
    (.subscription ⟨info.requestId, info.userId, subConsume, 0, 0, 0, 0⟩)).preConsume
      settings faults env subConsume db

/-- What may fail while a session is opened: each of the two attempts, and the two
questions about the subscriptions of the user. -/
structure SessionFaults where
  wallet : OpenFaults
  subscription : OpenFaults
  hasActive : Bool
  overflow : Bool

/-- Open a session as the billing preference asks for, with its fallbacks. -/
def newBillingSession (settings : BillingSettings) (faults : SessionFaults) (env : Env)
    (info : RelayInfo) (preConsumedQuota : Int) (db : Database) :
    Except OpenHalt BillingSession × Database :=
  let wallet := tryWallet settings faults.wallet env info preConsumedQuota
  let subscription := trySubscription settings faults.subscription env info preConsumedQuota
  match normalizeBillingPreference info.billingPreference with
  | .subscriptionOnly => subscription db
  | .walletOnly => wallet db
  | .walletFirst =>
    match wallet db with
    | (.error (.error err), next) =>
      if err.code = .insufficientUserQuota then subscription next
      else (.error (.error err), next)
    | opened => opened
  | .subscriptionFirst =>
    match hasActiveUserSubscription faults.hasActive env info.userId db with
    | .error err => (.error (.error ⟨.queryDataError, 500, err⟩), db)
    | .ok false => wallet db
    | .ok true =>
      match subscription db with
      | (.error (.error err), next) =>
        if err.code = .insufficientUserQuota then
          match userActiveSubscriptionsAllowWalletOverflow faults.overflow env info.userId
              next with
          | .error overflowErr => (.error (.error ⟨.queryDataError, 500, overflowErr⟩), next)
          | .ok true => wallet next
          | .ok false => (.error (.error err), next)
        else (.error (.error err), next)
      | opened => opened

/-! ## The calls on an open session -/

namespace BillingSession

/-- Settle the actual consumption.  The token is adjusted after the funding
source, and a failure there does not undo the settlement. -/
def settle (fundingFault tokenFault : Bool) (actualQuota : Int) (session : BillingSession)
    (db : Database) : Option GoError × BillingSession × Database :=
  if session.settled then (none, session, db)
  else
    let delta := actualQuota - session.preConsumedQuota
    if delta = 0 then (none, { session with settled := true }, db)
    else
      let fundingDone :=
        if session.fundingSettled then .ok db else session.funding.settle fundingFault delta db
      match fundingDone with
      | .error err => (some err, session, db)
      | .ok charged =>
        let info :=
          if session.funding.source = .subscription then
            { session.relayInfo with
              subscriptionPostDelta := session.relayInfo.subscriptionPostDelta + delta }
          else session.relayInfo
        let closed :=
          { session with relayInfo := info, fundingSettled := true, settled := true }
        if session.relayInfo.isPlayground then (none, closed, charged)
        else
          let tokenDone :=
            if 0 < delta then
              decreaseTokenQuota tokenFault session.relayInfo.tokenId delta charged
            else increaseTokenQuota tokenFault session.relayInfo.tokenId (-delta) charged
          match tokenDone with
          | .error err => (some err, closed, charged)
          | .ok next => (none, closed, next)

/-- Something was taken in advance and has not been settled or given back. -/
def needsRefund (session : BillingSession) : Bool :=
  if session.settled || session.refunded || session.fundingSettled then false
  else if 0 < session.tokenConsumed then true
  else
    match session.funding with
    | .subscription sub => decide (0 < sub.preConsumed)
    | .wallet _ => false

/-- Which ledger operations of a session's refund fail. -/
structure RefundSessionFaults where
  source : SourceRefundFaults
  extra : Bool
  token : Bool

/-- Give back what the funding source holds: its pre-consume, then what was reserved
on top of a subscription's.  Errors are only logged. -/
def giveBackFunding (faults : RefundSessionFaults) (session : BillingSession)
    (db : Database) : Database :=
  let funded := (session.funding.refund faults.source db).2
  if 0 < session.extraReserved ∧ session.funding.source = .subscription ∧
      0 < session.relayInfo.subscriptionId then
    match postConsumeUserSubscriptionDelta faults.extra session.relayInfo.subscriptionId
        (-session.extraReserved) funded with
    | .ok next => next
    | .error _ => funded
  else funded

/-- The ledger operations of a refund: the funding source, then the token. -/
def giveBack (faults : RefundSessionFaults) (session : BillingSession) (db : Database) :
    Database :=
  let released := session.giveBackFunding faults db
  if 0 < session.tokenConsumed ∧ session.relayInfo.isPlayground = false then
    match increaseTokenQuota faults.token session.relayInfo.tokenId session.tokenConsumed
        released with
    | .ok next => next
    | .error _ => released
  else released

/-- Give everything back, once, unless the session has been settled. -/
def refund (faults : RefundSessionFaults) (session : BillingSession) (db : Database) :
    BillingSession × Database :=
  if session.settled || session.refunded || !session.needsRefund then (session, db)
  else ({ session with refunded := true }, session.giveBack faults db)

/-- Take more from the funding source before the request is sent. -/
def reserveFunding (fault : Bool) (delta : Int) (session : BillingSession) (db : Database) :
    Except GoError (FundingSource × Database) :=
  match session.funding with
  | .wallet funding =>
    match decreaseUserQuota fault funding.userId delta db with
    | .error err => .error err
    | .ok next => .ok (.wallet { funding with consumed := funding.consumed + delta }, next)
  | .subscription funding =>
    match postConsumeUserSubscriptionDelta fault funding.subscriptionId delta db with
    | .error err => .error (.text ("订阅额度不足或未配置订阅: " ++ err.message))
    | .ok next => .ok (.subscription funding, next)

/-- Undo a reservation; an error is only logged. -/
def rollbackFundingReserve (fault : Bool) (delta : Int) (funding : FundingSource)
    (db : Database) : Option GoError × FundingSource × Database :=
  match funding with
  | .wallet wallet =>
    match increaseUserQuota fault wallet.userId delta db with
    | .error err => (some err, .wallet wallet, db)
    | .ok next => (none, .wallet { wallet with consumed := wallet.consumed - delta }, next)
  | .subscription sub =>
    match postConsumeUserSubscriptionDelta fault sub.subscriptionId (-delta) db with
    | .error err => (some err, .subscription sub, db)
    | .ok next => (none, .subscription sub, next)

def reserveToken (settings : BillingSettings) (fault : Bool) (delta : Int)
    (session : BillingSession) (db : Database) : Except GoError Database :=
  if delta ≤ 0 ∨ session.relayInfo.isPlayground = true then .ok db
  else preConsumeTokenQuota settings fault session.relayInfo delta db

/-- Which ledger operations of a reservation fail. -/
structure ReserveFaults where
  funding : Bool
  token : Bool
  rollback : Bool

/-- Raise what is pre-consumed to a target. -/
def reserve (settings : BillingSettings) (faults : ReserveFaults) (targetQuota : Int)
    (session : BillingSession) (db : Database) :
    Option GoError × BillingSession × Database :=
  if session.settled || session.refunded || session.trusted ||
      decide (targetQuota ≤ session.preConsumedQuota) then (none, session, db)
  else
    let delta := targetQuota - session.preConsumedQuota
    match session.reserveFunding faults.funding delta db with
    | .error err => (some err, session, db)
    | .ok (funding, reserved) =>
      match session.reserveToken settings faults.token delta reserved with
      | .error err =>
        let (_, rolledBack, next) :=
          rollbackFundingReserve faults.rollback delta funding reserved
        (some err, { session with funding := rolledBack }, next)
      | .ok next =>
        (none, ({ session with
          funding := funding
          preConsumedQuota := session.preConsumedQuota + delta
          tokenConsumed := session.tokenConsumed + delta
          extraReserved := session.extraReserved + delta } :
            BillingSession).syncRelayInfo, next)

end BillingSession

end AiHub.Service

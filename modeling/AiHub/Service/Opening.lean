import AiHub.Service.BillingSession

/-!
# Opening a session is all or nothing

Whatever step of opening a session fails, the tables are as they were before, so
a fallback starts from the same balances as the first attempt.  A session that
opens has debited exactly one funding source and, unless it is a playground
request, the token, by what the session counts as pre-consumed.
-/

namespace AiHub.Service

open AiHub.Library AiHub.Common AiHub.Model BillingSession

/-- The tables after the token of a request was debited; a playground request has
no token to debit. -/
def tokenDebit (info : RelayInfo) (amount : Int) (db : Database) : Database :=
  if info.isPlayground then db else db.addTokenQuota info.tokenId (-amount)

variable (info : RelayInfo)

@[simp] theorem tokenDebit_users (amount : Int) (db : Database) :
    (tokenDebit info amount db).users = db.users := by
  unfold tokenDebit
  split <;> rfl

@[simp] theorem tokenDebit_userSubscriptions (amount : Int) (db : Database) :
    (tokenDebit info amount db).userSubscriptions = db.userSubscriptions := by
  unfold tokenDebit
  split <;> rfl

@[simp] theorem tokenDebit_preConsumeRecords (amount : Int) (db : Database) :
    (tokenDebit info amount db).preConsumeRecords = db.preConsumeRecords := by
  unfold tokenDebit
  split <;> rfl

@[simp] theorem tokenDebit_zero (db : Database) : tokenDebit info 0 db = db := by
  unfold tokenDebit
  split
  · rfl
  · simp

/-- Opened from the wallet: a trusted session took nothing, any other the requested
amount; no subscription was touched. -/
structure OpenedFromWallet (settings : BillingSettings) (info : RelayInfo) (quota : Int)
    (db : Database) (session : BillingSession) (next : Database) : Prop where
  funding : session.funding = .wallet ⟨info.userId, session.preConsumedQuota⟩
  trusted : session.trusted = session.shouldTrust settings
  amount : session.preConsumedQuota = if session.trusted then 0 else quota
  balance : 0 < (db.userQuota? info.userId).getD 0
  tables : next =
    (tokenDebit info session.preConsumedQuota db).addUserQuota info.userId
      (-session.preConsumedQuota)

/-- Opened from a subscription: at least one unit was charged to one active row,
counted from the row as its due reset left it; other rows have at most had their
own due reset; no wallet was touched. -/
structure OpenedFromSubscription (env : Env) (info : RelayInfo) (quota : Int)
    (db : Database) (session : BillingSession) (next : Database) : Prop where
  untrusted : session.trusted = false
  amount : session.preConsumedQuota = max quota 1
  tokens : next.tokens = (tokenDebit info session.preConsumedQuota db).tokens
  charged : ∃ result, session.funding = .subscription
      ⟨info.requestId, info.userId, session.preConsumedQuota, result.userSubscriptionId,
        session.preConsumedQuota, result.amountTotal, result.amountUsedAfter⟩ ∧
    Charged env info.requestId info.userId session.preConsumedQuota
      (activeSubscriptions db info.userId env.now)
      (tokenDebit info session.preConsumedQuota db) result next

/-- The bookkeeping of a session that was just opened. -/
structure Fresh (info : RelayInfo) (session : BillingSession) : Prop where
  tokenConsumed : session.tokenConsumed = session.preConsumedQuota
  extraReserved : session.extraReserved = 0
  unsettled : session.settled = false ∧ session.fundingSettled = false
  unrefunded : session.refunded = false
  user : session.relayInfo.userId = info.userId
  token : session.relayInfo.tokenId = info.tokenId
  playground : session.relayInfo.isPlayground = info.isPlayground
  subscription : ∀ sub, session.funding = .subscription sub →
    session.relayInfo.subscriptionId = sub.subscriptionId
  billing : session.relayInfo.billingSource = some session.funding.source

/-- A session that opened, from one of the two sources. -/
structure Opened (settings : BillingSettings) (env : Env) (info : RelayInfo) (quota : Int)
    (db : Database) (session : BillingSession) (next : Database) : Prop where
  fresh : Fresh info session
  source : OpenedFromWallet settings info quota db session next ∨
    OpenedFromSubscription env info quota db session next

/-! ## The steps of a pre-consume -/

variable {quota : Int}

theorem preConsumeTokenQuota_ok {settings : BillingSettings} {fault : Bool} {info : RelayInfo}
    {db next : Database} (positive : 0 < quota)
    (done : preConsumeTokenQuota settings fault info quota db = .ok next) :
    next = tokenDebit info quota db := by
  unfold preConsumeTokenQuota at done
  split at done
  · cases done
  split at done
  · rename_i playground
    cases done
    simp [tokenDebit, playground]
  · rename_i playground
    split at done
    · cases done
    · rename_i reserved
      cases done
      rcases tryReserveTokenQuota_ok reserved with ⟨_, same⟩ | ⟨_, zero, _⟩ | ⟨refused, _⟩
      · simp [tokenDebit, playground, same]
      · omega
      · cases refused
    · cases done

/-- The roll-back of the token restores the tables. -/
theorem rollbackToken_tokenDebit (info : RelayInfo) (positive : 0 < quota) (db : Database) :
    rollbackToken false info quota (tokenDebit info quota db) = db := by
  unfold rollbackToken tokenDebit
  cases playground : info.isPlayground with
  | true => simp
  | false =>
    simp only [positive, and_self, if_true, Bool.false_eq_true, if_false]
    rw [increaseTokenQuota_succeeds _ (by omega)]
    exact Database.addTokenQuota_cancel db info.tokenId quota

section PreConsume

variable {settings : BillingSettings} {faults : OpenFaults} {env : Env} {quota : Int}
  {start : BillingSession} {db next : Database}

def afterToken (settings : BillingSettings) (start : BillingSession) (quota : Int)
    (db : Database) : Database :=
  if 0 < start.effectiveQuota settings quota then
    tokenDebit start.relayInfo (start.effectiveQuota settings quota) db
  else db

/-- A pre-consume that returns an error has restored the tables. -/
theorem preConsume_error {err : AIGatewayError} (rollback : faults.rollback = false)
    (done : start.preConsume settings faults env quota db = (.error (.error err), next)) :
    next = db := by
  unfold preConsume at done
  simp only at done
  split at done
  · cases done
    rfl
  · rename_i reserved tokenDone
    split at done
    · cases done
    · cases done
      rw [rollback]
      split at tokenDone
      · rename_i positive
        rw [if_pos positive, preConsumeTokenQuota_ok positive tokenDone]
        exact rollbackToken_tokenDebit _ positive db
      · rename_i nothing
        cases tokenDone
        rw [if_neg nothing]
        simp [rollbackToken]
    · cases done

/-- A pre-consume that succeeds has gone through both steps. -/
theorem preConsume_ok {session : BillingSession}
    (done : start.preConsume settings faults env quota db = (.ok session, next)) :
    ∃ funding, start.funding.preConsume faults.funding env
        (start.effectiveQuota settings quota) (afterToken settings start quota db) =
          .ok (funding, next) ∧
      session = ({ start with
        trusted := start.shouldTrust settings
        funding := funding
        tokenConsumed := if 0 < start.effectiveQuota settings quota then
          start.effectiveQuota settings quota else 0
        preConsumedQuota := start.effectiveQuota settings quota } :
          BillingSession).syncRelayInfo := by
  unfold preConsume at done
  simp only at done
  split at done
  · cases done
  rename_i reserved tokenDone
  have token : reserved = afterToken settings start quota db := by
    unfold afterToken
    split at tokenDone
    · rename_i positive
      rw [if_pos positive]
      exact preConsumeTokenQuota_ok positive tokenDone
    · rename_i nothing
      cases tokenDone
      rw [if_neg nothing]
  subst token
  split at done
  · cases done
  · cases done
  · rename_i funding after funded
    cases done
    exact ⟨funding, funded, rfl⟩

theorem afterToken_eq (nonneg : 0 ≤ start.effectiveQuota settings quota) (db : Database) :
    afterToken settings start quota db =
      tokenDebit start.relayInfo (start.effectiveQuota settings quota) db := by
  unfold afterToken
  split
  · rfl
  · have zero : start.effectiveQuota settings quota = 0 := by omega
    rw [zero, tokenDebit_zero]

theorem effectiveQuota_nonneg (settings : BillingSettings) (nonneg : 0 ≤ quota)
    (start : BillingSession) :
    0 ≤ start.effectiveQuota settings quota := by
  unfold effectiveQuota
  split
  · exact le_rfl
  · exact nonneg

variable {faults : FundingSource.PreConsumeFaults} {amount : Int} {userId : Nat}
  {funding : FundingSource}

theorem walletFunding_preConsume_ok (nonneg : 0 ≤ amount)
    (done : FundingSource.preConsume faults env amount db (.wallet ⟨userId, 0⟩) =
      .ok (funding, next)) :
    funding = .wallet ⟨userId, amount⟩ ∧ next = db.addUserQuota userId (-amount) := by
  simp only [FundingSource.preConsume] at done
  split at done
  · obtain rfl : amount = 0 := by omega
    cases done
    simp
  · split at done
    · cases done
    · cases done
    · rename_i reserved
      cases done
      rcases tryReserveUserQuota_ok reserved with ⟨_, same⟩ | ⟨_, zero, _⟩ | ⟨refused, _⟩
      · exact ⟨rfl, same⟩
      · omega
      · cases refused

/-- A subscription that pre-consumes for a new request has been charged. -/
theorem subscriptionFunding_preConsume_ok {unused : Int} {requestId : String}
    (fresh : db.findRecord requestId = none) (done : FundingSource.preConsume faults env unused db
      (.subscription ⟨requestId, userId, amount, 0, 0, 0, 0⟩) = .ok (funding, next)) :
    ∃ result, funding = .subscription ⟨requestId, userId, amount, result.userSubscriptionId,
        amount, result.amountTotal, result.amountUsedAfter⟩ ∧
      Charged env requestId userId amount (activeSubscriptions db userId env.now) db result
        next := by
  simp only [FundingSource.preConsume] at done
  split at done
  · cases done
  rename_i result after consumed
  cases done
  obtain ⟨_, ⟨_, existing, _⟩ | ⟨_, loop⟩⟩ := preConsumeUserSubscription_ok consumed
  · rw [fresh] at existing
    cases existing
  · have effect := preConsumeUserSubscription_charged fresh loop
    obtain ⟨_, _, _, _, _, resultEq, _⟩ := effect.charged
    refine ⟨result, ?_, effect⟩
    rw [resultEq]

end PreConsume

/-! ## The two ways to open a session -/

section Open

variable {settings : BillingSettings} {faults : OpenFaults} {env : Env} {info : RelayInfo}
  {quota : Int} {db next : Database}

variable {err : AIGatewayError} {session : BillingSession}

theorem tryWallet_error (rollback : faults.rollback = false)
    (done : tryWallet settings faults env info quota db = (.error (.error err), next)) :
    next = db := by
  unfold tryWallet at done
  split at done
  · cases done
    rfl
  · split at done
    · cases done
      rfl
    · split at done
      · cases done
        rfl
      · exact preConsume_error rollback done

theorem trySubscription_error (rollback : faults.rollback = false)
    (done : trySubscription settings faults env info quota db =
      (.error (.error err), next)) : next = db :=
  preConsume_error rollback done

theorem tryWallet_ok (nonneg : 0 ≤ quota)
    (done : tryWallet settings faults env info quota db = (.ok session, next)) :
    Fresh info session ∧ OpenedFromWallet settings info quota db session next := by
  unfold tryWallet at done
  split at done
  · cases done
  rename_i userQuota balanceRead
  split at done
  · cases done
  split at done
  · cases done
  have balance : 0 < (db.userQuota? info.userId).getD 0 := by
    unfold getUserQuota at balanceRead
    split at balanceRead
    · cases balanceRead
    · cases balanceRead
      omega
  obtain ⟨funding, funded, rfl⟩ := preConsume_ok done
  have effective := effectiveQuota_nonneg settings nonneg
    (new { info with userQuota := userQuota } (.wallet ⟨info.userId, 0⟩))
  rw [afterToken_eq effective] at funded
  obtain ⟨rfl, rfl⟩ := walletFunding_preConsume_ok effective funded
  have tokenConsumed : ∀ amount : Int, 0 ≤ amount →
      (if 0 < amount then amount else 0) = amount := by
    intro amount amountNonneg
    split <;> omega
  rw [tokenConsumed _ effective]
  constructor
  · exact ⟨rfl, rfl, ⟨rfl, rfl⟩, rfl, rfl, rfl, rfl,
      fun sub impossible => (by cases impossible), rfl⟩
  · exact ⟨rfl, rfl, rfl, balance, rfl⟩

theorem trySubscription_ok (fresh : db.findRecord info.requestId = none)
    (done : trySubscription settings faults env info quota db = (.ok session, next)) :
    Fresh info session ∧ OpenedFromSubscription env info quota db session next := by
  have atLeastOne : (if quota ≤ 0 then 1 else quota) = max quota 1 := by
    split <;> omega
  simp only [trySubscription, atLeastOne] at done
  obtain ⟨funding, funded, rfl⟩ := preConsume_ok done
  generalize startEq : new info
    (.subscription ⟨info.requestId, info.userId, max quota 1, 0, 0, 0, 0⟩) = start at funded
  have untrusted : start.shouldTrust settings = false := by
    subst startEq
    simp [shouldTrust, new, FundingSource.source]
  have effective : start.effectiveQuota settings (max quota 1) = max quota 1 := by
    simp [effectiveQuota, untrusted]
  have positive : 0 < max quota 1 := by omega
  subst startEq
  rw [afterToken_eq (by rw [effective]; omega), effective] at funded
  have freshAfter : (tokenDebit info (max quota 1) db).findRecord info.requestId = none := by
    rw [Database.findRecord, tokenDebit_preConsumeRecords]
    exact fresh
  obtain ⟨result, rfl, effect⟩ := subscriptionFunding_preConsume_ok freshAfter funded
  rw [activeSubscriptions, tokenDebit_userSubscriptions, ← activeSubscriptions] at effect
  rw [effective, untrusted, if_pos positive]
  constructor
  · exact ⟨rfl, rfl, ⟨rfl, rfl⟩, rfl, rfl, rfl, rfl, fun sub same => (by cases same; rfl), rfl⟩
  · exact ⟨rfl, rfl, effect.tokens, result, rfl, effect⟩

/-- What an attempt to open a session may leave behind: an error and the tables as
they were, or an opened session. -/
def AllOrNothing (settings : BillingSettings) (env : Env) (info : RelayInfo) (quota : Int)
    (db : Database) : Except OpenHalt BillingSession × Database → Prop
  | (.error (.error _), next) => next = db
  | (.error _, _) => True
  | (.ok session, next) => Opened settings env info quota db session next

theorem tryWallet_allOrNothing (nonneg : 0 ≤ quota) (rollback : faults.rollback = false) :
    AllOrNothing settings env info quota db (tryWallet settings faults env info quota db) := by
  unfold AllOrNothing
  split
  · rename_i failed
    exact tryWallet_error rollback failed
  · trivial
  · rename_i done
    obtain ⟨fresh, opened⟩ := tryWallet_ok nonneg done
    exact ⟨fresh, .inl opened⟩

theorem trySubscription_allOrNothing (rollback : faults.rollback = false)
    (newRequest : db.findRecord info.requestId = none) :
    AllOrNothing settings env info quota db
      (trySubscription settings faults env info quota db) := by
  unfold AllOrNothing
  split
  · rename_i failed
    exact trySubscription_error rollback failed
  · trivial
  · rename_i done
    obtain ⟨fresh, opened⟩ := trySubscription_ok newRequest done
    exact ⟨fresh, .inr opened⟩

/-- A fallback starts from the tables as they were, so it is an attempt like the
first one. -/
theorem newBillingSession_outcome (faults : SessionFaults) (nonneg : 0 ≤ quota)
    (rollbacks : faults.wallet.rollback = false ∧ faults.subscription.rollback = false)
    (newRequest : db.findRecord info.requestId = none)
    {result : Except OpenHalt BillingSession × Database}
    (opened : newBillingSession settings faults env info quota db = result) :
    AllOrNothing settings env info quota db result := by
  have wallet : AllOrNothing settings env info quota db
      (tryWallet settings faults.wallet env info quota db) :=
    tryWallet_allOrNothing nonneg rollbacks.1
  have subscription : AllOrNothing settings env info quota db
      (trySubscription settings faults.subscription env info quota db) :=
    trySubscription_allOrNothing rollbacks.2 newRequest
  rw [← opened]
  unfold newBillingSession
  simp only
  split
  · exact subscription
  · exact wallet
  · split
    · rename_i err next failed
      obtain rfl := tryWallet_error rollbacks.1 failed
      split
      · exact subscription
      · exact rfl
    · exact wallet
  · split
    · exact rfl
    · exact wallet
    · split
      · rename_i err next failed
        obtain rfl := trySubscription_error rollbacks.2 failed
        split
        · split
          · exact rfl
          · exact wallet
          · exact rfl
        · exact rfl
      · exact subscription

end Open

/-- Opening a session, for every preference, every balance, every trust setting and
every pattern of failures in which roll-backs succeed: an error leaves the tables
as they were, whatever fallbacks were tried, and a session that opens has debited
one funding source and the token by what it pre-consumed. -/
theorem newBillingSession_all_or_nothing (settings : BillingSettings) (faults : SessionFaults)
    (env : Env) (info : RelayInfo) (quota : Int) (db : Database) (nonneg : 0 ≤ quota)
    (rollbacks : faults.wallet.rollback = false ∧ faults.subscription.rollback = false)
    (newRequest : db.findRecord info.requestId = none) :
    (∀ err next, newBillingSession settings faults env info quota db =
        (.error (.error err), next) → next = db) ∧
      ∀ session next, newBillingSession settings faults env info quota db =
        (.ok session, next) → Opened settings env info quota db session next := by
  constructor
  · intro err next failed
    exact newBillingSession_outcome faults nonneg rollbacks newRequest failed
  · intro session next done
    exact newBillingSession_outcome faults nonneg rollbacks newRequest done

/-! ## An instance -/

/-- One user with 100 units, and one token with 50. -/
def walletTables : Database where
  users := Table.empty.insert ⟨100, "default", "", "", "", false⟩
  tokens := Table.empty.insert ⟨50, 0⟩
  userSubscriptions := Table.empty
  preConsumeRecords := Table.empty

/-- A request of that user that asks for the wallet. -/
def walletRequest : RelayInfo :=
  ⟨1, 1, "request", false, 50, false, false, "wallet_only", 0, 0, none, 0, 0, 0, 0, 0⟩

def plainSettings : BillingSettings := ⟨0, fun quota => toString quota⟩

/-- Nothing fails. -/
def noOpenFaults : OpenFaults := ⟨false, false, ⟨false, none⟩, false, false⟩

/-- An environment without plans. -/
def emptyEnv : Env := ⟨0, 0, Zone.utc, fun _ => none⟩

theorem newBillingSession_opens_wallet :
    ∃ session next, newBillingSession plainSettings ⟨noOpenFaults, noOpenFaults, false, false⟩
        emptyEnv walletRequest 10 walletTables = (.ok session, next) ∧
      Opened plainSettings emptyEnv walletRequest 10 walletTables session next ∧
      next.userQuota? 1 = some 90 :=
  ⟨_, _, rfl, (newBillingSession_all_or_nothing plainSettings
    ⟨noOpenFaults, noOpenFaults, false, false⟩ emptyEnv walletRequest 10 walletTables
    (by decide) ⟨rfl, rfl⟩ rfl).2 _ _ rfl, rfl⟩

end AiHub.Service

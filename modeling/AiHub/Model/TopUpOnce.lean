import AiHub.Model.TopUp

/-!
# An order is credited once

Whatever calls are made on a pending order, the wallet is credited at most once,
and exactly when the order ends as a success.  The credited amount is the one that
the provider's own callback credits, except that an administrator who completes a
Creem order multiplies its amount once more.
-/

namespace AiHub.Model

open AiHub.Library AiHub.Common List Completion

/-! ## What a call does -/

/-- The quota of a completion is its rounded value, if that can be credited. -/
theorem Completion.quota_eq_ok_iff (rules : Completion) (quotaPerUnit : ℚ) (topUp : TopUp)
    (quota : Int) :
    rules.quota quotaPerUnit topUp = .ok quota ↔
      roundAway (rules.value quotaPerUnit topUp) = quota ∧ 0 < quota ∧ quota ≤ maxWalletQuota := by
  unfold Completion.quota
  cases converted : walletQuotaFromDecimalStrict (rules.value quotaPerUnit topUp) with
  | error clamp =>
    simp only [reduceCtorEq, false_iff]
    rintro ⟨rounded, positive, below⟩
    have accepted := (walletQuotaFromDecimalStrict_eq_ok_iff _ quota).mpr
      ⟨rounded, by unfold maxWalletQuota; omega, below⟩
    rw [accepted] at converted
    cases converted
  | ok value =>
    obtain ⟨rounded, _, below⟩ := (walletQuotaFromDecimalStrict_eq_ok_iff _ value).mp converted
    simp only
    split
    · simp only [reduceCtorEq, false_iff]
      omega
    · simp only [Except.ok.injEq]
      omega

variable {userId : Nat} {creditedQuota : Int} {db : Database} {call : TopUpCall}
  {rules : Completion}

/-- A credit moves the wallet of the user by the quota. -/
theorem creditTopUpQuota_ok {updates : UserUpdates} {next : Database}
    (done : creditTopUpQuota userId creditedQuota updates db = .ok next) :
    next.userQuota? userId = (db.userQuota? userId).map (· + creditedQuota) := by
  unfold creditTopUpQuota at done
  split at done
  · cases done
  split at done
  · cases done
  split at done
  · cases done
    have credited := db.userQuota?_addUserQuota userId userId creditedQuota
    rw [if_pos rfl] at credited
    rw [← credited]
    simp only [Database.userQuota?, Database.liveUser, Table.find?_updateWhere]
    cases found : (db.addUserQuota userId creditedQuota).users.find? userId with
    | none => simp
    | some user =>
      cases hidden : user.deleted <;> simp [hidden, UserUpdates.apply, Option.filter]
  · cases done

theorem creditTopUpQuota_succeeds {balance : Int} (updates : UserUpdates)
    (positive : 0 < creditedQuota) (bounded : creditedQuota ≤ maxWalletQuota)
    (wallet : db.userQuota? userId = some balance)
    (room : balance + creditedQuota ≤ maxWalletQuota) :
    ∃ next, creditTopUpQuota userId creditedQuota updates db = .ok next := by
  unfold creditTopUpQuota topUpQuotaMaxCurrent
  rw [if_neg (by omega)]
  simp only [wallet]
  rw [if_pos (by omega)]
  exact ⟨_, rfl⟩

/-- What a completion may do: nothing, or complete a pending order of its provider. -/
theorem completeTopUp_cases (rules : Completion) (fault : Option GoError) (env : PaymentEnv)
    (tradeNo : String) (tables : PaymentTables) :
    (completeTopUp rules fault env tradeNo tables).2 = tables ∨
      ∃ key topUp quota paymentMethod updates db,
        tables.findTopUp tradeNo = some (key, topUp) ∧ topUp.status = .pending ∧
        (∀ provider, rules.provider = some provider → topUp.paymentProvider = provider) ∧
        rules.quota env.quotaPerUnit topUp = .ok quota ∧
        creditTopUpQuota topUp.userId quota updates tables.db = .ok db ∧
        (completeTopUp rules fault env tradeNo tables).2 =
          ⟨tables.topUps.set key
            { topUp with
              paymentMethod := paymentMethod, completeTime := env.now, status := .success },
            db⟩ := by
  unfold completeTopUp
  split
  · exact .inl rfl
  · split
    · exact .inl rfl
    · rename_i alreadyDone next done
      unfold transaction at done
      split at done
      · cases done
      split at done
      · cases done
      rename_i key topUp found
      split at done
      · cases done
      rename_i matching
      split at done
      · cases done
        exact .inl rfl
      · split at done
        · cases done
        · rename_i pending
          split at done
          · cases done
          rename_i quota quotaOk
          split at done
          · cases done
          split at done
          · cases done
          rename_i db credited
          cases done
          refine .inr ⟨key, topUp, quota, _, _, db, found,
            not_not.mp pending, ?_, quotaOk, credited, rfl⟩
          intro provider required
          simpa [required] using matching

theorem updatePendingTopUpStatus_cases (fault : Option GoError) (tradeNo : String)
    (expectedPaymentProvider : Option PaymentProvider) (targetStatus : TopUpStatus)
    (tables : PaymentTables) :
    (updatePendingTopUpStatus fault tradeNo expectedPaymentProvider targetStatus tables).2 =
        tables ∨
      ∃ key topUp, tables.findTopUp tradeNo = some (key, topUp) ∧ topUp.status = .pending ∧
        (updatePendingTopUpStatus fault tradeNo expectedPaymentProvider targetStatus tables).2 =
          { tables with
            topUps := tables.topUps.set key { topUp with status := targetStatus } } := by
  unfold updatePendingTopUpStatus
  split
  · exact .inl rfl
  · split
    · exact .inl rfl
    · split
      · exact .inl rfl
      · rename_i key topUp found
        split
        · exact .inl rfl
        · split
          · exact .inl rfl
          · rename_i pending
            exact .inr ⟨key, topUp, found, not_not.mp pending, rfl⟩

/-! ## Runs -/

def TopUpCall.completion? : TopUpCall → Option Completion
  | .rechargeEpay actualPaymentMethod => some (.epay actualPaymentMethod)
  | .recharge customerId => some (.stripe customerId)
  | .rechargeCreem customerEmail => some (.creem customerEmail)
  | .rechargeWaffo => some (.ofAmount .waffo)
  | .rechargeWaffoPancake => some (.ofAmount .waffoPancake)
  | .manualCompleteTopUp => some .manual
  | .updatePendingTopUpStatus _ _ => none

@[simp] theorem errorOnly_snd (result : Except GoError Bool × PaymentTables) :
    (errorOnly result).2 = result.2 := by
  unfold errorOnly
  split <;> rfl

theorem callTopUp_completion (attempts : call.completion? = some rules) (fault : Option GoError)
    (env : PaymentEnv) (tradeNo : String) (tables : PaymentTables) :
    callTopUp fault env tradeNo tables call = (completeTopUp rules fault env tradeNo tables).2 := by
  cases call <;> cases attempts <;>
    simp [callTopUp, rechargeEpay, recharge, rechargeCreem, rechargeWaffo, rechargeWaffoPancake,
      manualCompleteTopUp]

/-- The order as later calls find it: what it is worth has not changed. -/
def TopUp.progress (order : TopUp) (paymentMethod : String) (completeTime : Int)
    (status : TopUpStatus) : TopUp :=
  { order with paymentMethod := paymentMethod, completeTime := completeTime, status := status }

/-- A quota that some call may credit for the order. -/
def Credits (quotaPerUnit : ℚ) (order : TopUp) (quota : Int) : Prop :=
  ∃ (call : TopUpCall) (rules : Completion), call.completion? = some rules ∧
    (∀ provider, rules.provider = some provider → order.paymentProvider = provider) ∧
    rules.quota quotaPerUnit order = .ok quota

/-- The wallet as the status of the order says: `base` without the credit. -/
def Accounted (quotaPerUnit : ℚ) (order : TopUp) (key : Nat) (base : Int)
    (tables : PaymentTables) : Prop :=
  ∃ paymentMethod completeTime status,
    tables.findTopUp order.tradeNo =
        some (key, order.progress paymentMethod completeTime status) ∧
      ((status ≠ .success ∧ tables.db.userQuota? order.userId = some base) ∨
        (status = .success ∧ ∃ quota, Credits quotaPerUnit order quota ∧
          tables.db.userQuota? order.userId = some (base + quota)))

/-- No caller closes an order as a success without completing it. -/
def TopUpEvent.Proper : TopUpEvent → Prop
  | .call _ _ (.updatePendingTopUpStatus _ targetStatus) => targetStatus ≠ .success
  | _ => True

section Runs

variable {quotaPerUnit : ℚ} {order : TopUp} {key : Nat} {base : Int} {tables : PaymentTables}

variable {rules : Completion} {quota : Int}

section

variable (inv : Accounted quotaPerUnit order key base tables)
include inv

/-- An order that is found pending has not been credited. -/
theorem Accounted.of_pending {foundKey : Nat}
    {topUp : TopUp} (found : tables.findTopUp order.tradeNo = some (foundKey, topUp))
    (pending : topUp.status = .pending) :
    foundKey = key ∧ tables.db.userQuota? order.userId = some base ∧
      ∃ paymentMethod completeTime status,
        topUp = order.progress paymentMethod completeTime status := by
  obtain ⟨oldMethod, oldTime, status, stored, accounted⟩ := inv
  rw [stored] at found
  obtain ⟨rfl, rfl⟩ := found
  obtain ⟨_, wallet⟩ := accounted.resolve_right
    (fun completed => by simp [TopUp.progress, completed.1] at pending)
  exact ⟨rfl, wallet, oldMethod, oldTime, status, rfl⟩

theorem Accounted.complete {call : TopUpCall}
    (attempts : call.completion? = some rules) (fault : Option GoError) (now : Int) :
    Accounted quotaPerUnit order key base
      (completeTopUp rules fault ⟨quotaPerUnit, now⟩ order.tradeNo tables).2 := by
  rcases completeTopUp_cases rules fault ⟨quotaPerUnit, now⟩ order.tradeNo tables with
    same | ⟨foundKey, topUp, quota, paymentMethod, updates, db, found, pending, provider, quotaOk,
      credited, next⟩
  · rw [same]
    exact inv
  · obtain ⟨rfl, wallet, oldMethod, oldTime, status, rfl⟩ := inv.of_pending found pending
    have sameQuota : rules.quota quotaPerUnit (order.progress oldMethod oldTime status) =
        rules.quota quotaPerUnit order := by
      cases call <;> cases attempts <;> rfl
    rw [sameQuota] at quotaOk
    rw [next]
    refine ⟨paymentMethod, now, .success, ?_, .inr ⟨rfl, quota, ⟨call, rules, attempts,
      provider, quotaOk⟩, ?_⟩⟩
    · exact Table.first?_set found (decide_eq_true rfl)
    · rw [show order.userId = (order.progress oldMethod oldTime status).userId from rfl,
        creditTopUpQuota_ok credited]
      simp [TopUp.progress, wallet]

theorem Accounted.close (fault : Option GoError) (expectedPaymentProvider : Option PaymentProvider)
    {targetStatus : TopUpStatus} (proper : targetStatus ≠ .success) :
    Accounted quotaPerUnit order key base
      (updatePendingTopUpStatus fault order.tradeNo expectedPaymentProvider targetStatus
        tables).2 := by
  rcases updatePendingTopUpStatus_cases fault order.tradeNo expectedPaymentProvider targetStatus
    tables with same | ⟨foundKey, topUp, found, pending, next⟩
  · rw [same]
    exact inv
  · obtain ⟨rfl, wallet, oldMethod, oldTime, status, rfl⟩ := inv.of_pending found pending
    rw [next]
    exact ⟨oldMethod, oldTime, targetStatus, Table.first?_set found (decide_eq_true rfl),
      .inl ⟨proper, wallet⟩⟩

/-- Every event keeps the account, which moves by what the event adds itself. -/
theorem Accounted.step {event : TopUpEvent} (proper : event.Proper) :
    Accounted quotaPerUnit order key (base + event.walletDelta)
      (topUpStep quotaPerUnit order tables event) := by
  cases event with
  | wallet delta =>
    obtain ⟨paymentMethod, completeTime, status, stored, accounted⟩ := inv
    refine ⟨paymentMethod, completeTime, status, stored, ?_⟩
    simp only [topUpStep, TopUpEvent.walletDelta, Database.userQuota?_addUserQuota, if_true]
    rcases accounted with ⟨open', wallet⟩ | ⟨completed, quota, credits, wallet⟩
    · exact .inl ⟨open', by rw [wallet, Option.map_some]⟩
    · refine .inr ⟨completed, quota, credits, ?_⟩
      rw [wallet, Option.map_some, Option.some.injEq]
      omega
  | call fault now call =>
    rw [TopUpEvent.walletDelta, add_zero, topUpStep]
    cases attempts : call.completion? with
    | some rules =>
      rw [callTopUp_completion attempts]
      exact inv.complete attempts fault now
    | none =>
      cases call <;> cases attempts
      exact inv.close fault _ proper

/-- Along a run the wallet moves by the other changes and by at most one credit. -/
theorem Accounted.run (events : List TopUpEvent) (proper : ∀ event ∈ events, event.Proper) :
    Accounted quotaPerUnit order key (base + (events.map TopUpEvent.walletDelta).sum)
      (run (topUpStep quotaPerUnit order) tables events) := by
  induction events generalizing base tables with
  | nil => simpa using inv
  | cons event rest ih =>
    have next := ih (inv.step (proper event mem_cons_self))
      fun other member => proper other (mem_cons_of_mem _ member)
    rw [map_cons, sum_cons, ← add_assoc]
    exact next

end

/-! ## The credited amount -/

def callback? : PaymentProvider → Option Completion
  | .epay => some (.epay "")
  | .stripe => some (.stripe "")
  | .creem => some (.creem "")
  | .waffo => some (.ofAmount .waffo)
  | .waffoPancake => some (.ofAmount .waffoPancake)
  | .balance | .unset => none

/-- The administrator values an order like its provider, except for Creem. -/
theorem manual_value (own : callback? order.paymentProvider = some rules)
    (notCreem : order.paymentProvider ≠ .creem) :
    manual.value quotaPerUnit order = rules.value quotaPerUnit order := by
  cases known : order.paymentProvider <;> rw [known] at own notCreem <;> cases own
  case creem => exact absurd rfl notCreem
  all_goals
    simp only [manual, known, reduceCtorEq, if_false, if_true]
    rfl

/-- A call credits what the provider's callback credits, or it is the administrator's
on a Creem order. -/
theorem Credits.callback (credits : Credits quotaPerUnit order quota)
    (own : callback? order.paymentProvider = some rules) :
    rules.quota quotaPerUnit order = .ok quota ∨
      (order.paymentProvider = .creem ∧ manual.quota quotaPerUnit order = .ok quota) := by
  obtain ⟨call, attempted, attempts, provider, quotaOk⟩ := credits
  cases call <;> cases attempts
  case manualCompleteTopUp =>
    by_cases creem : order.paymentProvider = .creem
    · exact .inr ⟨creem, quotaOk⟩
    · rw [← quotaOk, Completion.quota, Completion.quota, manual_value own creem]
      exact .inl rfl
  all_goals
    rw [provider _ rfl] at own
    cases own
    exact .inl quotaOk

/-- For a Creem order, the administrator credits the amount, or nothing at all. -/
def ManualAgrees (quotaPerUnit : ℚ) (order : TopUp) : Prop :=
  order.paymentProvider = .creem →
    roundAway (order.amount * quotaPerUnit) = order.amount ∨
      roundAway (order.amount * quotaPerUnit) ≤ 0 ∨
      maxWalletQuota < roundAway (order.amount * quotaPerUnit)

theorem manual_quota_creem (creem : order.paymentProvider = .creem) (quota : Int) :
    manual.quota quotaPerUnit order = .ok quota ↔
      roundAway (order.amount * quotaPerUnit) = quota ∧ 0 < quota ∧ quota ≤ maxWalletQuota := by
  rw [quota_eq_ok_iff]
  simp [manual, creem, amountValue]

theorem creem_quota (email : String) (quota : Int) :
    (creem email).quota quotaPerUnit order = .ok quota ↔
      order.amount = quota ∧ 0 < quota ∧ quota ≤ maxWalletQuota := by
  rw [quota_eq_ok_iff, show (creem email).value quotaPerUnit order =
    ((order.amount : Int) : ℚ) from rfl, roundAway_intCast]

theorem Credits.agrees (credits : Credits quotaPerUnit order quota)
    (agrees : ManualAgrees quotaPerUnit order)
    (own : callback? order.paymentProvider = some rules) :
    rules.quota quotaPerUnit order = .ok quota := by
  rcases credits.callback own with same | ⟨creem, manual⟩
  · exact same
  · obtain ⟨rounded, positive, bounded⟩ := (manual_quota_creem creem quota).mp manual
    rw [creem] at own
    cases own
    rw [creem_quota]
    rcases agrees creem with equal | nonpositive | above <;> omega

theorem Credits.positive (credits : Credits quotaPerUnit order quota) : 0 < quota := by
  obtain ⟨_, _, _, _, quotaOk⟩ := credits
  exact ((quota_eq_ok_iff _ _ _ _).mp quotaOk).2.1

variable {balance : Int}

/-- A pending order that the administrator completes while the wallet has room. -/
theorem manual_completes (named : order.tradeNo ≠ "")
    (found : tables.findTopUp order.tradeNo = some (key, order)) (pending : order.status = .pending)
    (wallet : tables.db.userQuota? order.userId = some balance)
    (quotaOk : manual.quota quotaPerUnit order = .ok quota)
    (room : balance + quota ≤ maxWalletQuota) (now : Int) :
    (topUpStep quotaPerUnit order tables (.call none now .manualCompleteTopUp)).findTopUp
        order.tradeNo = some (key, order.progress order.paymentMethod now .success) ∧
      (topUpStep quotaPerUnit order tables
        (.call none now .manualCompleteTopUp)).db.userQuota? order.userId =
          some (balance + quota) := by
  obtain ⟨_, positive, bounded⟩ := (quota_eq_ok_iff _ _ _ _).mp quotaOk
  obtain ⟨db, credited⟩ := creditTopUpQuota_succeeds .none positive bounded wallet room
  have done : manual.transaction none ⟨quotaPerUnit, now⟩ order.tradeNo tables =
      .ok (false, ⟨tables.topUps.set key
        (order.progress order.paymentMethod now .success), db⟩) := by
    unfold transaction
    simp only [found, quotaOk]
    simp only [manual, pending, credited]
    rfl
  have next : topUpStep quotaPerUnit order tables (.call none now .manualCompleteTopUp) =
      ⟨tables.topUps.set key (order.progress order.paymentMethod now .success), db⟩ := by
    simp [topUpStep, callTopUp, manualCompleteTopUp, completeTopUp, named, done]
  rw [next]
  refine ⟨Table.first?_set found (decide_eq_true rfl), ?_⟩
  rw [creditTopUpQuota_ok credited, wallet, Option.map_some]

/-- Whatever happens to the order, its wallet has moved by the other changes, and by one
credit exactly when the order is a success; the credit is the one that the provider's
callback makes. -/
def CreditedOnce (quotaPerUnit : ℚ) (tables : PaymentTables) (key : Nat) (order : TopUp) :
    Prop :=
  ∀ events : List TopUpEvent, (∀ event ∈ events, event.Proper) →
    ∃ current, (run (topUpStep quotaPerUnit order) tables events).findTopUp order.tradeNo =
        some (key, current) ∧
      ((current.status ≠ .success ∧
          (run (topUpStep quotaPerUnit order) tables events).db.userQuota? order.userId =
            (tables.db.userQuota? order.userId).map
              (· + (events.map TopUpEvent.walletDelta).sum)) ∨
        (current.status = .success ∧ ∃ quota, 0 < quota ∧
          (run (topUpStep quotaPerUnit order) tables events).db.userQuota? order.userId =
            (tables.db.userQuota? order.userId).map
              (· + (events.map TopUpEvent.walletDelta).sum + quota) ∧
          ∀ rules, callback? order.paymentProvider = some rules →
            rules.quota quotaPerUnit order = .ok quota))

/-- An administrator who completes a Creem order credits another amount than its
callback, whenever there is room for it. -/
theorem not_creditedOnce_of_disagrees (named : order.tradeNo ≠ "")
    (found : tables.findTopUp order.tradeNo = some (key, order)) (pending : order.status = .pending)
    (wallet : tables.db.userQuota? order.userId = some balance)
    (creem : order.paymentProvider = .creem)
    (quotaOk : manual.quota quotaPerUnit order = .ok quota)
    (different : quota ≠ order.amount) : ¬ CreditedOnce quotaPerUnit tables key order := by
  intro once
  -- Another change of the wallet makes the room that the credit needs.
  have emptied : (topUpStep quotaPerUnit order tables
      (.wallet (-balance - quota))).db.userQuota? order.userId = some (-quota) := by
    simp only [topUpStep, Database.userQuota?_addUserQuota, if_true, wallet, Option.map_some,
      Option.some.injEq]
    omega
  have stillFound : (topUpStep quotaPerUnit order tables
      (.wallet (-balance - quota))).findTopUp order.tradeNo = some (key, order) := found
  obtain ⟨completed, credited⟩ := manual_completes named stillFound pending emptied quotaOk
    (by unfold maxWalletQuota; omega) 0
  obtain ⟨current, currentFound, outcome⟩ := once
    [.wallet (-balance - quota), .call none 0 .manualCompleteTopUp]
    (by simp [TopUpEvent.Proper])
  simp only [run_cons, run_nil] at currentFound outcome
  rw [completed] at currentFound
  obtain ⟨_, rfl⟩ := currentFound
  rw [credited] at outcome
  rcases outcome with ⟨unfinished, _⟩ | ⟨_, other, _, moved, agrees⟩
  · exact unfinished rfl
  · have own := (creem_quota "" other).mp (agrees _ (by rw [creem]; rfl))
    simp only [wallet, Option.map_some, TopUpEvent.walletDelta, map_cons, map_nil,
      sum_cons, sum_nil, Option.some.injEq] at moved
    omega

end Runs

/-- A pending order of an existing user is credited at most once, exactly when it ends
as a success, and by what its provider's callback credits, in every run, exactly when
the administrator's completion agrees with Creem's. -/
theorem topUp_credited_once_iff (quotaPerUnit : ℚ) (tables : PaymentTables) (key : Nat)
    (order : TopUp) (balance : Int) (named : order.tradeNo ≠ "")
    (found : tables.findTopUp order.tradeNo = some (key, order)) (pending : order.status = .pending)
    (wallet : tables.db.userQuota? order.userId = some balance) :
    CreditedOnce quotaPerUnit tables key order ↔ ManualAgrees quotaPerUnit order := by
  constructor
  · intro once creem
    by_contra disagrees
    obtain ⟨different, positive, bounded⟩ := by simpa only [not_or, not_le, not_lt] using disagrees
    exact not_creditedOnce_of_disagrees named found pending wallet creem
      ((manual_quota_creem creem _).mpr ⟨rfl, positive, bounded⟩) different once
  · intro agrees events proper
    have initial : Accounted quotaPerUnit order key balance tables :=
      ⟨order.paymentMethod, order.completeTime, order.status, found,
        .inl ⟨by simp [pending], wallet⟩⟩
    obtain ⟨paymentMethod, completeTime, status, stored, accounted⟩ := initial.run events proper
    refine ⟨_, stored, ?_⟩
    simp only [wallet, Option.map_some]
    rcases accounted with ⟨unfinished, moved⟩ | ⟨completed, quota, credits, moved⟩
    · exact .inl ⟨unfinished, moved⟩
    · exact .inr ⟨completed, quota, credits.positive, moved,
        fun rules own => credits.agrees agrees own⟩

/-! ## An instance -/

/-- A pending order of 100 for one user with an empty wallet. -/
def sampleOrder (provider : PaymentProvider) : TopUp :=
  ⟨1, 100, 10, "order", "card", provider, 0, .pending⟩

def sampleTables (provider : PaymentProvider) : PaymentTables where
  topUps := Table.empty.insert (sampleOrder provider)
  db :=
    { users := Table.empty.insert ⟨0, "default", "", "", "", false⟩
      tokens := Table.empty
      userSubscriptions := Table.empty
      preConsumeRecords := Table.empty }

theorem topUp_credited_once_epay : CreditedOnce 500000 (sampleTables .epay) 1 (sampleOrder .epay) :=
  (topUp_credited_once_iff 500000 (sampleTables .epay) 1 (sampleOrder .epay) 0 (by decide) rfl rfl
    rfl).mpr fun creem => by cases creem

/-- The callback of a Creem order of 100 credits 100; the administrator credits
50,000,000. -/
theorem creem_order_credited_differently :
    ¬ CreditedOnce 500000 (sampleTables .creem) 1 (sampleOrder .creem) := by
  have rounded : roundAway (((sampleOrder .creem).amount : ℚ) * 500000) = 50000000 := by
    have product : ((sampleOrder .creem).amount : ℚ) * 500000 = ((50000000 : Int) : ℚ) := by
      norm_num [sampleOrder]
    rw [product, roundAway_intCast]
  exact not_creditedOnce_of_disagrees (by decide) rfl rfl rfl rfl
    ((manual_quota_creem rfl _).mpr ⟨rounded, by decide, by decide⟩) (by decide)

end AiHub.Model

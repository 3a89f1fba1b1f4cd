import AiHub.Service.Opening
import AiHub.Library.Run

/-!
# What a session takes and gives back

Over any sequence of calls the net debit of the funding source and of the token
is what the session counts as pre-consumed, until a settlement closes the session
with the actual consumption or a refund gives everything back.  The counters of
the session and of its funding source are related to the ledgers by one
invariant, `Balanced`.
-/

namespace AiHub.Service

open AiHub.Library AiHub.Common AiHub.Model BillingSession

structure SessionState where
  session : BillingSession
  db : Database

/-- A call on an open session, with the ledger operations that fail in it. -/
inductive BillingCall where
  | reserve (faults : BillingSession.ReserveFaults) (targetQuota : Int)
  | settle (fundingFault tokenFault : Bool) (actualQuota : Int)
  | refund (faults : BillingSession.RefundSessionFaults)

/-- The session and the tables after a call. -/
def billingStep (settings : BillingSettings) (state : SessionState) :
    BillingCall → SessionState
  | .reserve faults targetQuota =>
    let (_, session, db) := state.session.reserve settings faults targetQuota state.db
    ⟨session, db⟩
  | .settle fundingFault tokenFault actualQuota =>
    let (_, session, db) :=
      state.session.settle fundingFault tokenFault actualQuota state.db
    ⟨session, db⟩
  | .refund faults =>
    let (session, db) := state.session.refund faults state.db
    ⟨session, db⟩

/-- The net debit of the funding source: against the wallet before the session was
opened, or against the usage of the subscription when the request was charged. -/
def FundingDebit (start : Database) (funding : FundingSource) (db : Database)
    (amount : Int) : Prop :=
  match funding with
  | .wallet wallet =>
    db.userQuota? wallet.userId = (start.userQuota? wallet.userId).map (· - amount)
  | .subscription sub =>
    (db.userSubscriptions.find? sub.subscriptionId).map UserSubscription.amountUsed =
      some (sub.amountUsedAfter - sub.amount + amount)

/-- The net debit of a token against the tables before the session was opened. -/
def TokenDebit (start : Database) (tokenId : Nat) (db : Database) (amount : Int) : Prop :=
  db.tokens.find? tokenId = (start.tokens.find? tokenId).map fun token =>
    ⟨token.remainQuota - amount, token.usedQuota + amount⟩

/-- The compensations that a call has to make succeed, and a settlement does not
reach the clamp of the subscription at zero. -/
def Undoes (settings : BillingSettings) (state : SessionState) : BillingCall → Prop
  | .reserve faults targetQuota =>
    ∀ funding reserved err,
      state.session.reserveFunding faults.funding
        (targetQuota - state.session.preConsumedQuota) state.db = .ok (funding, reserved) →
      state.session.reserveToken settings faults.token
        (targetQuota - state.session.preConsumedQuota) reserved = .error err →
      (BillingSession.rollbackFundingReserve faults.rollback
        (targetQuota - state.session.preConsumedQuota) funding reserved).1 = none
  | .settle _ _ actualQuota =>
    ∀ sub row, state.session.funding = .subscription sub →
      state.db.userSubscriptions.find? sub.subscriptionId = some row →
      0 ≤ row.amountUsed + (actualQuota - state.session.preConsumedQuota)
  | .refund _ => True

/-! ## The invariant of an open session -/

/-- The funding source holds what the session pre-consumed. -/
def FundingHolds (info : RelayInfo) (session : BillingSession) (db : Database) : Prop :=
  match session.funding with
  | .wallet wallet =>
    wallet.userId = info.userId ∧ wallet.consumed = session.preConsumedQuota
  | .subscription sub =>
    sub.preConsumed = sub.amount ∧ 0 < sub.amount ∧
      sub.amount + session.extraReserved = session.preConsumedQuota ∧
      session.relayInfo.subscriptionId = sub.subscriptionId ∧
      0 ≤ sub.amountUsedAfter - sub.amount ∧
      ∃ row, db.userSubscriptions.find? sub.subscriptionId = some row ∧
        (0 < row.amountTotal → row.amountUsed ≤ row.amountTotal)

/-- The debits of both ledgers are what an open session counts as pre-consumed. -/
structure Balanced (start : Database) (info : RelayInfo) (state : SessionState) : Prop where
  unsettled : state.session.settled = false
  uncommitted : state.session.fundingSettled = false
  unrefunded : state.session.refunded = false
  token : state.session.relayInfo.tokenId = info.tokenId
  playground : state.session.relayInfo.isPlayground = info.isPlayground
  consumed : state.session.tokenConsumed = state.session.preConsumedQuota
  nonneg : 0 ≤ state.session.preConsumedQuota
  extraNonneg : 0 ≤ state.session.extraReserved
  holds : FundingHolds info state.session state.db
  fundingBalance : FundingDebit start state.session.funding state.db
    state.session.preConsumedQuota
  tokenBalance : info.isPlayground = false →
    TokenDebit start info.tokenId state.db state.session.preConsumedQuota

section Ledgers

variable {start db : Database} {amount delta : Int}

theorem tokenDebit_addTokenQuota {tokenId : Nat} (debit : TokenDebit start tokenId db amount)
    (delta : Int) :
    TokenDebit start tokenId (db.addTokenQuota tokenId (-delta)) (amount + delta) := by
  unfold TokenDebit at *
  rw [Database.find?_addTokenQuota, if_pos rfl, debit, Option.map_map]
  apply congrArg (fun change => Option.map change (start.tokens.find? tokenId))
  funext token
  simp only [Function.comp_apply, Token.mk.injEq]
  omega

theorem walletDebit_addUserQuota {wallet : WalletFunding}
    (debit : FundingDebit start (.wallet wallet) db amount) (delta : Int) :
    FundingDebit start (.wallet wallet) (db.addUserQuota wallet.userId (-delta))
      (amount + delta) := by
  unfold FundingDebit at *
  simp only at *
  rw [Database.userQuota?_addUserQuota, if_pos rfl, debit, Option.map_map]
  apply congrArg (fun change => Option.map change (start.userQuota? wallet.userId))
  funext quota
  simp only [Function.comp_apply]
  omega

/-- A delta away from the clamp moves the debit of a subscription by the delta. -/
theorem subscriptionDebit_postConsume {fault : Bool} {sub : SubscriptionFunding}
    {row : UserSubscription} {next : Database}
    (debit : FundingDebit start (.subscription sub) db amount)
    (stored : db.userSubscriptions.find? sub.subscriptionId = some row)
    (away : 0 ≤ row.amountUsed + delta) (nonzero : delta ≠ 0)
    (done : postConsumeUserSubscriptionDelta fault sub.subscriptionId delta db = .ok next) :
    FundingDebit start (.subscription sub) next (amount + delta) ∧
      next.tokens = db.tokens ∧
      ∃ after, next.userSubscriptions.find? sub.subscriptionId = some after ∧
        (0 < after.amountTotal → after.amountUsed ≤ after.amountTotal) := by
  unfold FundingDebit at *
  simp only at *
  rcases postConsumeUserSubscriptionDelta_ok done with ⟨zero, _⟩ | ⟨old, found, within, rfl⟩
  · exact absurd zero nonzero
  · obtain rfl := Option.some.inj (stored.symm.trans found)
    rw [stored, Option.map_some] at debit
    have usage := Option.some.inj debit
    refine ⟨?_, rfl, _, Table.find?_set_self _ stored, within⟩
    rw [Database.setSubscription_userSubscriptions, Table.find?_set_self _ stored,
      Option.map_some, Option.some.injEq]
    simp only
    omega

end Ledgers

/-! ## Opening -/

variable {info : RelayInfo} {start : Database}

theorem tokenDebit_tokens (start : Database) (amount : Int) (token : info.isPlayground = false) :
    TokenDebit start info.tokenId (tokenDebit info amount start) amount := by
  have initial : TokenDebit start info.tokenId start 0 := by
    simp [TokenDebit]
  simpa [tokenDebit, token] using tokenDebit_addTokenQuota initial amount

theorem TokenDebit.congr {left right : Database} {tokenId : Nat} {amount : Int}
    (debit : TokenDebit start tokenId left amount) (same : right.tokens = left.tokens) :
    TokenDebit start tokenId right amount := by
  rw [TokenDebit, same]
  exact debit

theorem balanced_of_opened {settings : BillingSettings} {env : Env} {quota : Int} {db : Database}
    {session : BillingSession} (nonneg : 0 ≤ quota)
    (rows : start.userSubscriptions.All fun _ sub => 0 ≤ sub.amountUsed)
    (opened : Opened settings env info quota start session db) :
    Balanced start info ⟨session, db⟩ := by
  obtain ⟨fresh, source⟩ := opened
  obtain ⟨tokenConsumed, extraReserved, ⟨unsettled, uncommitted⟩, unrefunded, user, token,
    playground, subscription, _⟩ := fresh
  rcases source with fromWallet | fromSubscription
  · have amountNonneg : 0 ≤ session.preConsumedQuota := by
      rw [fromWallet.amount]
      split <;> omega
    refine ⟨unsettled, uncommitted, unrefunded, token, playground, tokenConsumed,
      amountNonneg, extraReserved.ge, ?_, ?_, ?_⟩
    · simp [FundingHolds, fromWallet.funding]
    · have initial : FundingDebit start (.wallet ⟨info.userId, session.preConsumedQuota⟩)
          (tokenDebit info session.preConsumedQuota start) 0 := by
        simp only [FundingDebit, sub_zero, Option.map_id']
        exact Database.userQuota?_congr (tokenDebit_users _ _ _) _
      have debit := walletDebit_addUserQuota initial session.preConsumedQuota
      simp only [fromWallet.funding, fromWallet.tables]
      simpa using debit
    · intro hasToken
      refine (tokenDebit_tokens start _ hasToken).congr ?_
      rw [fromWallet.tables]
      rfl
  · obtain ⟨result, funding, effect⟩ := fromSubscription.charged
    obtain ⟨before, after, member, resets, stored, resultEq, within⟩ := effect.charged
    have positive : 0 < session.preConsumedQuota := by
      rw [fromSubscription.amount]
      omega
    have beforeNonneg : 0 ≤ before.amountUsed :=
      rows _ before (activeSubscriptions_stored _ _ member)
    have afterNonneg : 0 ≤ after.amountUsed := by
      obtain ⟨plan, _, resetOf⟩ := resets
      rw [resetOf.used]
      split <;> omega
    have usedAfter : result.amountUsedAfter = after.amountUsed + session.preConsumedQuota := by
      rw [resultEq]
    refine ⟨unsettled, uncommitted, unrefunded, token, playground, tokenConsumed,
      positive.le, extraReserved.ge, ?_, ?_, ?_⟩
    · simp only [FundingHolds, funding]
      exact ⟨trivial, positive, by omega, subscription _ funding, by omega, _, stored, within⟩
    · simp only [FundingDebit, funding, stored, Option.map_some, Option.some.injEq]
      omega
    · intro hasToken
      exact (tokenDebit_tokens start _ hasToken).congr fromSubscription.tokens

/-! ## Reserving -/

section Calls

variable {settings : BillingSettings} {start : Database} {info : RelayInfo}
  {state : SessionState}

variable {fault : Bool} {delta amount : Int} {funding : FundingSource} {reserved : Database}
  {session : BillingSession}

/-- Taking a positive amount more from the funding source. -/
theorem reserveFunding_ok (balanced : Balanced start info state) (positive : 0 < delta)
    (done : state.session.reserveFunding fault delta state.db = .ok (funding, reserved)) :
    FundingDebit start funding reserved (state.session.preConsumedQuota + delta) ∧
      reserved.tokens = state.db.tokens ∧
      (∀ session, session.funding = funding →
        session.preConsumedQuota = state.session.preConsumedQuota + delta →
        session.extraReserved = state.session.extraReserved + delta →
        (∀ sub, funding = .subscription sub →
          session.relayInfo.subscriptionId = sub.subscriptionId) →
        FundingHolds info session reserved) := by
  have holds := balanced.holds
  have debit := balanced.fundingBalance
  unfold reserveFunding at done
  unfold FundingHolds at holds
  split at done
  · rename_i wallet source
    simp only [source] at holds debit
    split at done
    · cases done
    rename_i next decreased
    cases done
    obtain rfl := decreaseUserQuota_ok decreased
    refine ⟨walletDebit_addUserQuota debit delta, rfl, ?_⟩
    intro session same pre _ _
    simp only [FundingHolds, same, pre]
    exact ⟨holds.1, by omega⟩
  · rename_i sub source
    simp only [source] at holds debit
    obtain ⟨pre, amount, total, subscriptionId, beforeNonneg, row, stored, within⟩ := holds
    have usage : row.amountUsed =
        sub.amountUsedAfter - sub.amount + state.session.preConsumedQuota := by
      simp only [FundingDebit, stored, Option.map_some, Option.some.injEq] at debit
      exact debit
    have nonneg := balanced.nonneg
    split at done
    · cases done
    rename_i next adjusted
    cases done
    obtain ⟨moved, tokens, after⟩ := subscriptionDebit_postConsume debit stored
      (by omega) (by omega) adjusted
    refine ⟨moved, tokens, ?_⟩
    intro session same preEq extraEq infoEq
    simp only [FundingHolds, same, preEq, extraEq]
    exact ⟨pre, amount, by omega, infoEq sub rfl, beforeNonneg, after⟩

/-- Undoing a reservation takes the debit back. -/
theorem rollbackFundingReserve_ok {reserveFault : Bool} (balanced : Balanced start info state)
    (positive : 0 < delta)
    (done : state.session.reserveFunding reserveFault delta state.db = .ok (funding, reserved))
    (undone : (rollbackFundingReserve fault delta funding reserved).1 = none) :
    FundingDebit start (rollbackFundingReserve fault delta funding reserved).2.1
        (rollbackFundingReserve fault delta funding reserved).2.2
        state.session.preConsumedQuota ∧
      (rollbackFundingReserve fault delta funding reserved).2.2.tokens = state.db.tokens ∧
      FundingHolds info
        { state.session with
          funding := (rollbackFundingReserve fault delta funding reserved).2.1 }
        (rollbackFundingReserve fault delta funding reserved).2.2 := by
  have holds := balanced.holds
  obtain ⟨debit, tokens, _⟩ := reserveFunding_ok balanced positive done
  unfold reserveFunding at done
  unfold FundingHolds at holds
  unfold rollbackFundingReserve at undone ⊢
  split at done
  · rename_i wallet source
    simp only [source] at holds
    split at done
    · cases done
    cases done
    simp only at undone ⊢
    split at undone
    · cases undone
    rename_i next increased
    obtain rfl := increaseUserQuota_ok increased
    have moved := walletDebit_addUserQuota debit (-delta)
    refine ⟨?_, tokens, holds.1, by simp [holds.2]⟩
    simpa [FundingDebit] using moved
  · rename_i sub source
    simp only [source] at holds
    obtain ⟨pre, amount, total, subscriptionId, beforeNonneg, _⟩ := holds
    have nonneg := balanced.nonneg
    split at done
    · cases done
    cases done
    simp only at undone ⊢
    split at undone
    · cases undone
    rename_i next decreased
    -- The row exists, because the debit names its usage.
    obtain ⟨row, stored, usage⟩ := Option.map_eq_some_iff.mp debit
    obtain ⟨moved, sameTokens, after⟩ := subscriptionDebit_postConsume debit stored
      (by omega) (by omega) decreased
    have back : state.session.preConsumedQuota + delta + -delta =
        state.session.preConsumedQuota := by omega
    rw [back] at moved
    exact ⟨moved, sameTokens.trans tokens, pre, amount, total, subscriptionId, beforeNonneg, after⟩

variable {left right next db : Database}

theorem FundingDebit.congr (debit : FundingDebit start funding left amount)
    (users : right.users = left.users)
    (subscriptions : right.userSubscriptions = left.userSubscriptions) :
    FundingDebit start funding right amount := by
  unfold FundingDebit at *
  split
  · simpa [Database.userQuota?_congr users] using debit
  · simpa [subscriptions] using debit

theorem FundingHolds.congr (holds : FundingHolds info session left)
    (subscriptions : right.userSubscriptions = left.userSubscriptions) :
    FundingHolds info session right := by
  unfold FundingHolds at *
  rw [subscriptions]
  exact holds

theorem reserveToken_ok (positive : 0 < delta)
    (done : session.reserveToken settings fault delta reserved = .ok next) :
    next = tokenDebit session.relayInfo delta reserved := by
  unfold reserveToken at done
  split at done
  · rename_i skipped
    cases done
    have playground := skipped.resolve_left (by omega)
    simp [tokenDebit, playground]
  · exact preConsumeTokenQuota_ok positive done

/-- The debit of the token after it was debited by more. -/
theorem Balanced.tokenBalance_more (balanced : Balanced start info state)
    (tokens : reserved.tokens = state.db.tokens) (hasToken : info.isPlayground = false) :
    TokenDebit start info.tokenId (tokenDebit state.session.relayInfo delta reserved)
      (state.session.preConsumedQuota + delta) := by
  have before := (balanced.tokenBalance hasToken).congr tokens
  have more := tokenDebit_addTokenQuota before delta
  simpa [tokenDebit, balanced.playground, balanced.token, hasToken] using more

/-- A reservation keeps the session balanced, wherever it fails. -/
theorem balanced_reserve (balanced : Balanced start info state)
    (faults : BillingSession.ReserveFaults) (targetQuota : Int)
    (undoes : Undoes settings state (.reserve faults targetQuota)) :
    Balanced start info (billingStep settings state (.reserve faults targetQuota)) := by
  simp only [billingStep, reserve, balanced.unsettled, balanced.unrefunded, Bool.false_or]
  split
  · exact balanced
  · rename_i proceeds
    have positive : 0 < targetQuota - state.session.preConsumedQuota := by
      simp only [Bool.or_eq_true, decide_eq_true_eq, not_or] at proceeds
      omega
    generalize difference : targetQuota - state.session.preConsumedQuota = delta at *
    split
    · exact balanced
    · rename_i funding reserved fundingOk
      split
      · rename_i err tokenFailed
        have undone := undoes funding reserved err (difference ▸ fundingOk)
          (difference ▸ tokenFailed)
        rw [difference] at undone
        obtain ⟨debit, tokens, holds⟩ :=
          rollbackFundingReserve_ok balanced positive fundingOk undone
        exact ⟨rfl, balanced.uncommitted, rfl, balanced.token,
          balanced.playground, balanced.consumed, balanced.nonneg,
          balanced.extraNonneg, holds, debit,
          fun hasToken => (balanced.tokenBalance hasToken).congr tokens⟩
      · rename_i next tokenOk
        obtain ⟨debit, tokens, holds⟩ := reserveFunding_ok balanced positive fundingOk
        obtain rfl := reserveToken_ok positive tokenOk
        have nonneg := balanced.nonneg
        have consumed := balanced.consumed
        have extraNonneg := balanced.extraNonneg
        refine ⟨rfl, balanced.uncommitted, rfl, ?_, ?_, ?_, ?_, ?_, ?_, ?_, ?_⟩
        · cases funding <;> exact balanced.token
        · cases funding <;> exact balanced.playground
        · simp only [syncRelayInfo]
          omega
        · simp only [syncRelayInfo]
          omega
        · simp only [syncRelayInfo]
          omega
        · refine (holds _ rfl rfl rfl ?_).congr (tokenDebit_userSubscriptions _ _ _)
          rintro sub rfl
          rfl
        · exact debit.congr (tokenDebit_users _ _ _) (tokenDebit_userSubscriptions _ _ _)
        · exact fun hasToken => balanced.tokenBalance_more tokens hasToken

/-! ## Settling -/

/-- Settling a difference moves the debit of the funding source by it. -/
theorem fundingSettle_debit (debit : FundingDebit start funding db amount)
    (away : ∀ sub row, funding = .subscription sub →
      db.userSubscriptions.find? sub.subscriptionId = some row → 0 ≤ row.amountUsed + delta)
    (nonzero : delta ≠ 0) (done : funding.settle fault delta db = .ok next) :
    FundingDebit start funding next (amount + delta) ∧ next.tokens = db.tokens := by
  cases funding with
  | wallet wallet =>
    simp only [FundingSource.settle, if_neg nonzero] at done
    split at done
    · obtain rfl := decreaseUserQuota_ok done
      exact ⟨walletDebit_addUserQuota debit delta, rfl⟩
    · obtain rfl := increaseUserQuota_ok done
      exact ⟨walletDebit_addUserQuota debit delta, rfl⟩
  | subscription sub =>
    simp only [FundingSource.settle, if_neg nonzero] at done
    obtain ⟨row, stored, _⟩ := Option.map_eq_some_iff.mp debit
    obtain ⟨moved, tokens, _⟩ := subscriptionDebit_postConsume debit stored
      (away sub row rfl stored) nonzero done
    exact ⟨moved, tokens⟩

/-- A settlement of an open session leaves everything as it was, or closes the
session. -/
theorem settle_closes (session : BillingSession) (db : Database)
    (fundingFault tokenFault : Bool) (actualQuota : Int) :
    (session.settle fundingFault tokenFault actualQuota db).2 = (session, db) ∨
      (session.settle fundingFault tokenFault actualQuota db).2.1.settled = true := by
  unfold settle
  simp only
  split
  · exact .inl rfl
  · split
    · exact .inr rfl
    · split
      · exact .inl rfl
      · split
        · exact .inr rfl
        · split <;> exact .inr rfl

theorem settle_funding (session : BillingSession) (db : Database)
    (fundingFault tokenFault : Bool) (actualQuota : Int) :
    (session.settle fundingFault tokenFault actualQuota db).2.1.funding = session.funding := by
  unfold settle
  simp only
  repeat' split
  all_goals rfl

/-- A settlement that returns no error moves both debits by the difference between
the actual consumption and what the session had pre-consumed. -/
theorem settle_debits {fundingFault tokenFault : Bool} {actualQuota : Int}
    (openSession : session.settled = false ∧ session.fundingSettled = false)
    (debit : FundingDebit start session.funding db amount)
    (away : ∀ sub row, session.funding = .subscription sub →
      db.userSubscriptions.find? sub.subscriptionId = some row →
      0 ≤ row.amountUsed + (actualQuota - session.preConsumedQuota))
    (done : (session.settle fundingFault tokenFault actualQuota db).1 = none) :
    (session.settle fundingFault tokenFault actualQuota db).2.1.settled = true ∧
      FundingDebit start session.funding
        (session.settle fundingFault tokenFault actualQuota db).2.2
        (amount + (actualQuota - session.preConsumedQuota)) ∧
      (session.relayInfo.isPlayground = false →
        ∀ taken, TokenDebit start session.relayInfo.tokenId db taken →
          TokenDebit start session.relayInfo.tokenId
            (session.settle fundingFault tokenFault actualQuota db).2.2
            (taken + (actualQuota - session.preConsumedQuota))) := by
  unfold settle at done ⊢
  simp only [openSession, Bool.false_eq_true, if_false] at done ⊢
  generalize actualQuota - session.preConsumedQuota = delta at *
  by_cases zero : delta = 0
  · rw [if_pos zero, zero]
    simp only [add_zero]
    exact ⟨trivial, debit, fun _ taken tokenDebit => tokenDebit⟩
  · rw [if_neg zero] at done ⊢
    cases fundingDone : session.funding.settle fundingFault delta db with
    | error err =>
      rw [fundingDone] at done
      cases done
    | ok charged =>
      obtain ⟨moved, tokens⟩ := fundingSettle_debit debit away zero fundingDone
      rw [fundingDone] at done
      simp only at done ⊢
      split at done
      · rename_i isPlayground
        rw [if_pos isPlayground]
        exact ⟨rfl, moved, fun hasToken => by simp [isPlayground] at hasToken⟩
      · rename_i hasToken
        rw [if_neg hasToken]
        split at done
        · cases done
        rename_i next tokenDone
        have credited : next = charged.addTokenQuota session.relayInfo.tokenId (-delta) := by
          split at tokenDone
          · exact decreaseTokenQuota_ok tokenDone
          · exact increaseTokenQuota_ok tokenDone
        subst credited
        exact ⟨rfl, moved.congr rfl rfl, fun _ taken tokenDebit =>
          tokenDebit_addTokenQuota (tokenDebit.congr tokens) delta⟩

/-! ## Runs -/

/-- A settled session ignores every further call. -/
theorem billingStep_settled (settled : state.session.settled = true) (call : BillingCall) :
    billingStep settings state call = state := by
  obtain ⟨session, db⟩ := state
  simp only at settled
  cases call with
  | reserve faults targetQuota => simp [billingStep, reserve, settled]
  | settle fundingFault tokenFault actualQuota =>
    simp [billingStep, settle, settled]
  | refund faults => simp [billingStep, refund, settled]

def BillingCall.isRefund : BillingCall → Bool
  | .refund _ => true
  | _ => false

/-- Until a refund, the session is balanced or settled. -/
theorem balanced_or_settled_step (state : SessionState) (call : BillingCall)
    (inv : Balanced start info state ∨ state.session.settled = true)
    (guard : Undoes settings state call ∧ call.isRefund = false) :
    Balanced start info (billingStep settings state call) ∨
      (billingStep settings state call).session.settled = true := by
  rcases inv with balanced | settled
  · cases call with
    | reserve faults targetQuota =>
      exact .inl (balanced_reserve balanced faults targetQuota guard.1)
    | settle fundingFault tokenFault actualQuota =>
      rcases settle_closes state.session state.db fundingFault tokenFault actualQuota with
        same | closed
      · left
        simp only [billingStep, same]
        exact balanced
      · exact .inr closed
    | refund faults => exact absurd guard.2 (by simp [BillingCall.isRefund])
  · rw [billingStep_settled settled]
    exact .inr settled

end Calls

/-- Conservation: a session is opened, reserves and settlements are called on it in
any order with any failures, and then a settlement that finds the session still
open returns no error.  From then on, whatever is called, the net debit of the
funding source is the settled quota, and so is that of the token of a request
that is not a playground one. -/
theorem settled_session_conserves (settings : BillingSettings) (faults : SessionFaults)
    (env : Env) (info : RelayInfo) (quota : Int) (start db : Database)
    (session : BillingSession) (nonneg : 0 ≤ quota)
    (rollbacks : faults.wallet.rollback = false ∧ faults.subscription.rollback = false)
    (newRequest : start.findRecord info.requestId = none)
    (rows : start.userSubscriptions.All fun _ sub => 0 ≤ sub.amountUsed)
    (opened : newBillingSession settings faults env info quota start = (.ok session, db))
    (before after : List BillingCall) (fundingFault tokenFault : Bool) (actualQuota : Int)
    (guarded : Guarded (billingStep settings)
      (fun state call => Undoes settings state call ∧ call.isRefund = false) ⟨session, db⟩
      (before ++ [.settle fundingFault tokenFault actualQuota]))
    (stillOpen : (run (billingStep settings) ⟨session, db⟩ before).session.settled = false)
    (returnsNil : ((run (billingStep settings) ⟨session, db⟩ before).session.settle fundingFault
      tokenFault actualQuota (run (billingStep settings) ⟨session, db⟩ before).db).1 = none) :
    FundingDebit start
        (run (billingStep settings) ⟨session, db⟩
          (before ++ .settle fundingFault tokenFault actualQuota :: after)).session.funding
        (run (billingStep settings) ⟨session, db⟩
          (before ++ .settle fundingFault tokenFault actualQuota :: after)).db
        actualQuota ∧
      (info.isPlayground = false → TokenDebit start info.tokenId
        (run (billingStep settings) ⟨session, db⟩
          (before ++ .settle fundingFault tokenFault actualQuota :: after)).db
        actualQuota) := by
  have outcome : Opened settings env info quota start session db :=
    newBillingSession_outcome faults nonneg rollbacks newRequest opened
  have balanced : Balanced start info ⟨session, db⟩ := balanced_of_opened nonneg rows outcome
  rw [guarded_append] at guarded
  have reached := run_invariant balanced_or_settled_step before (.inl balanced) guarded.1
  rw [stillOpen, or_iff_left Bool.false_ne_true] at reached
  obtain ⟨settled, funding, token⟩ := settle_debits ⟨reached.unsettled, reached.uncommitted⟩
    reached.fundingBalance guarded.2.1.1 returnsNil
  rw [run_append, run_cons, run_idle (fun call _ => billingStep_settled settled call)]
  rw [add_sub_cancel, ← settle_funding] at funding
  refine ⟨funding, fun hasToken => ?_⟩
  have debit := token (reached.playground.trans hasToken) _
    (reached.token.symm ▸ reached.tokenBalance hasToken)
  rw [add_sub_cancel, reached.token] at debit
  exact debit

/-- Nothing fails while the session of the sample request is opened. -/
def noSessionFaults : SessionFaults := ⟨noOpenFaults, noOpenFaults, false, false⟩

/-- The sample session, opened for 10 units and settled at 5 after a reservation of 20. -/
theorem settled_session_conserves_wallet :
    ∃ session db, newBillingSession plainSettings noSessionFaults emptyEnv walletRequest 10
        walletTables = (.ok session, db) ∧
      (run (billingStep plainSettings) ⟨session, db⟩
        [.reserve ⟨false, false, false⟩ 20, .settle false false 5]).db.userQuota? 1 = some 95 ∧
      TokenDebit walletTables 1 (run (billingStep plainSettings) ⟨session, db⟩
        [.reserve ⟨false, false, false⟩ 20, .settle false false 5]).db 5 := by
  refine ⟨_, _, rfl, ?_⟩
  have debits := settled_session_conserves plainSettings noSessionFaults emptyEnv walletRequest
    10 walletTables _ _ (by decide) ⟨rfl, rfl⟩ rfl (Table.all_of_rows (by decide)) rfl
    [.reserve ⟨false, false, false⟩ 20] [] false false 5
    ⟨⟨fun _ _ _ funded failed => (by cases funded; cases failed), rfl⟩,
      ⟨fun _ _ source => (by cases source), rfl⟩, trivial⟩ rfl rfl
  exact ⟨debits.1, debits.2 rfl⟩

/-- A second settlement also returns no error, but the debit stays that of the first. -/
theorem second_settlement_ignored :
    ∃ session db, newBillingSession plainSettings noSessionFaults emptyEnv walletRequest 10
        walletTables = (.ok session, db) ∧
      (session.settle false false 5 db).1 = none ∧
      ((billingStep plainSettings ⟨session, db⟩ (.settle false false 5)).session.settle false
        false 7 (billingStep plainSettings ⟨session, db⟩ (.settle false false 5)).db).1 = none ∧
      ¬ FundingDebit walletTables
        (run (billingStep plainSettings) ⟨session, db⟩
          [.settle false false 5, .settle false false 7]).session.funding
        (run (billingStep plainSettings) ⟨session, db⟩
          [.settle false false 5, .settle false false 7]).db 7 := by
  refine ⟨_, _, rfl, rfl, rfl, ?_⟩
  intro debit
  have quotas : some (95 : Int) = some 93 := debit
  exact absurd quotas (by decide)

end AiHub.Service

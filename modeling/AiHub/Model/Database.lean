import AiHub.Common.GoError
import AiHub.Library.Table

/-!
# Users, tokens and the quota primitives

The rows of the `users` and `tokens` tables as far as billing reads them, the
tables of the other packages of `model/`, and the operations that move wallet and
token quota.  Each primitive either applies fully or fails without effect; the
failure of its statement is an argument, because the database decides it.

The primitives are those of a deployment that writes quota straight to the
database (no Redis and no batch updater).
-/

namespace AiHub.Model

open AiHub.Library AiHub.Common

/-- A row of `users`; `deleted` is the soft-delete mark, which hides a row from
every query that does not ask for deleted rows. -/
structure User where
  quota : Int
  group : String
  company : String
  email : String
  stripeCustomer : String
  deleted : Bool
  deriving DecidableEq, Repr

/-- A row of `tokens`. -/
structure Token where
  remainQuota : Int
  usedQuota : Int
  deriving DecidableEq, Repr

/-- Book a delta: `remain_quota + delta` and `used_quota - delta`. -/
def Token.book (delta : Int) (token : Token) : Token where
  remainQuota := token.remainQuota + delta
  usedQuota := token.usedQuota - delta

/-- Status of a user subscription. -/
inductive SubscriptionStatus where
  | active
  | expired
  | cancelled
  deriving DecidableEq, Repr

/-- A row of `user_subscriptions`.  A total of `0` means unlimited. -/
structure UserSubscription where
  userId : Nat
  planId : Nat
  amountTotal : Int
  amountUsed : Int
  startTime : Int
  endTime : Int
  status : SubscriptionStatus
  source : String
  lastResetTime : Int
  nextResetTime : Int
  upgradeGroup : String
  prevUserGroup : String
  downgradeGroup : String
  allowWalletOverflow : Bool
  deriving DecidableEq, Repr

/-- Status of a pre-consume record. -/
inductive PreConsumeStatus where
  | consumed
  | refunded
  deriving DecidableEq, Repr

/-- A row of `subscription_pre_consume_records`: the idempotency record of one
request. -/
structure SubscriptionPreConsumeRecord where
  requestId : String
  userId : Nat
  userSubscriptionId : Nat
  preConsumed : Int
  status : PreConsumeStatus
  deriving DecidableEq, Repr

/-- The tables that billing works on. -/
structure Database where
  users : Table User
  tokens : Table Token
  userSubscriptions : Table UserSubscription
  preConsumeRecords : Table SubscriptionPreConsumeRecord

variable (db : Database) (id : Nat)

namespace Database

/-- The user row that ordinary queries see. -/
def liveUser (db : Database) (id : Nat) : Option User :=
  (db.users.find? id).filter fun user => !user.deleted

/-- The wallet of a user. -/
def userQuota? (db : Database) (id : Nat) : Option Int :=
  (db.liveUser id).map User.quota

/-- `UPDATE users SET quota = quota + delta WHERE id = ?`. -/
def addUserQuota (db : Database) (id : Nat) (delta : Int) : Database :=
  { db with
    users := db.users.updateWhere (fun key user => decide (key = id) && !user.deleted)
      fun user => { user with quota := user.quota + delta } }

/-- `UPDATE tokens SET remain_quota = remain_quota + delta, used_quota =
used_quota - delta WHERE id = ?`. -/
def addTokenQuota (db : Database) (id : Nat) (delta : Int) : Database :=
  { db with
    tokens := db.tokens.updateWhere (fun key _ => decide (key = id)) fun token =>
      { remainQuota := token.remainQuota + delta, usedQuota := token.usedQuota - delta } }

theorem userQuota?_congr {left right : Database} (same : left.users = right.users)
    (id : Nat) : left.userQuota? id = right.userQuota? id := by
  rw [userQuota?, userQuota?, liveUser, liveUser, same]

/-- Adding to a wallet changes this wallet by the delta and no other. -/
theorem userQuota?_addUserQuota (query : Nat) (delta : Int) :
    (db.addUserQuota id delta).userQuota? query =
      if query = id then (db.userQuota? query).map (· + delta) else db.userQuota? query := by
  simp only [userQuota?, liveUser, addUserQuota, Table.find?_updateWhere]
  cases found : db.users.find? query with
  | none => simp
  | some user =>
    by_cases same : query = id <;> cases hidden : user.deleted <;>
      simp [same, hidden, Option.filter]

/-- Adding to a token changes this token by the delta and no other. -/
theorem find?_addTokenQuota (query : Nat) (delta : Int) :
    (db.addTokenQuota id delta).tokens.find? query =
      if query = id then
        (db.tokens.find? query).map fun token =>
          { remainQuota := token.remainQuota + delta, usedQuota := token.usedQuota - delta }
      else db.tokens.find? query := by
  simp only [addTokenQuota, Table.find?_updateWhere]
  by_cases same : query = id <;> simp [same]

@[simp] theorem addUserQuota_zero : db.addUserQuota id 0 = db := by
  simp only [addUserQuota, Table.updateWhere_id _ _ (fun user : User =>
    (by simp : { user with quota := user.quota + 0 } = user))]

@[simp] theorem addTokenQuota_zero : db.addTokenQuota id 0 = db := by
  simp only [addTokenQuota, Table.updateWhere_id _ _ (fun token : Token =>
    (by simp : Token.mk (token.remainQuota + 0) (token.usedQuota - 0) = token))]

/-- Giving back to a token what was taken restores the tables. -/
theorem addTokenQuota_cancel (quota : Int) :
    (db.addTokenQuota id (-quota)).addTokenQuota id quota = db := by
  have tokens := Table.updateWhere_cancel db.tokens (fun key _ => decide (key = id))
    (fun token =>
      { remainQuota := token.remainQuota + -quota, usedQuota := token.usedQuota - -quota })
    (fun token =>
      { remainQuota := token.remainQuota + quota, usedQuota := token.usedQuota - quota })
    (fun _ _ accepted => accepted) (fun token => by cases token; simp)
  simp only [addTokenQuota, tokens]

end Database

/-! ## Wallet primitives -/

/-- Read a wallet; a missing user reads as an empty wallet. -/
def getUserQuota (fault : Bool) (id : Nat) (db : Database) : Except GoError Int :=
  if fault then .error databaseError else .ok ((db.userQuota? id).getD 0)

/-- Atomically check and deduct a wallet.  `false` means that the balance does
not suffice and nothing was deducted. -/
def tryReserveUserQuota (fault : Bool) (id : Nat) (quota : Int) (db : Database) :
    Except GoError (Bool × Database) :=
  if quota < 0 then .error negativeQuotaError
  else if quota = 0 then .ok (true, db)
  else if fault then .error databaseError
  else
    match db.userQuota? id with
    | some balance =>
      if quota ≤ balance then .ok (true, db.addUserQuota id (-quota)) else .ok (false, db)
    | none => .ok (false, db)

/-- Credit a wallet below its ceiling. -/
def increaseUserQuota (fault : Bool) (id : Nat) (quota : Int) (db : Database) :
    Except GoError Database :=
  if quota < 0 then .error negativeQuotaError
  else if !validateWalletQuota quota then
    .error (.text ("wallet quota exceeds " ++ toString maxWalletQuota))
  else if fault then .error databaseError
  else
    match db.userQuota? id with
    | some balance =>
      if balance ≤ maxWalletQuota - quota then .ok (db.addUserQuota id quota)
      else .error .walletQuotaLimitExceeded
    | none => .error .recordNotFound

/-- Debit a wallet unconditionally; the balance may become negative. -/
def decreaseUserQuota (fault : Bool) (id : Nat) (quota : Int) (db : Database) :
    Except GoError Database :=
  if quota < 0 then .error negativeQuotaError
  else if fault then .error databaseError
  else .ok (db.addUserQuota id (-quota))

/-! ## Token primitives -/

def increaseTokenQuota (fault : Bool) (id : Nat) (quota : Int) (db : Database) :
    Except GoError Database :=
  if quota < 0 then .error negativeQuotaError
  else if fault then .error databaseError
  else .ok (db.addTokenQuota id quota)

def decreaseTokenQuota (fault : Bool) (id : Nat) (quota : Int) (db : Database) :
    Except GoError Database :=
  if quota < 0 then .error negativeQuotaError
  else if fault then .error databaseError
  else .ok (db.addTokenQuota id (-quota))

/-- Atomically check and deduct a token.  An unlimited token skips the check but
is still accounted. -/
def tryReserveTokenQuota (fault : Bool) (id : Nat) (quota : Int) (unlimited : Bool)
    (db : Database) : Except GoError (Bool × Database) :=
  if quota < 0 then .error negativeQuotaError
  else if quota = 0 then .ok (true, db)
  else if unlimited then
    match decreaseTokenQuota fault id quota db with
    | .error err => .error err
    | .ok next => .ok (true, next)
  else if fault then .error databaseError
  else
    match db.tokens.find? id with
    | some token =>
      if quota ≤ token.remainQuota then .ok (true, db.addTokenQuota id (-quota))
      else .ok (false, db)
    | none => .ok (false, db)

/-! ## What a successful primitive did -/

variable {fault : Bool} {id : Nat} {quota : Int} {db next : Database}

theorem tryReserveUserQuota_ok {reserved : Bool}
    (done : tryReserveUserQuota fault id quota db = .ok (reserved, next)) :
    (reserved = true ∧ next = db.addUserQuota id (-quota)) ∨
      (reserved = true ∧ quota = 0 ∧ next = db) ∨ (reserved = false ∧ next = db) := by
  unfold tryReserveUserQuota at done
  split at done
  · cases done
  split at done
  · cases done
    exact .inr (.inl ⟨rfl, by assumption, rfl⟩)
  · split at done
    · cases done
    · split at done
      · split at done
        · cases done
          exact .inl ⟨rfl, rfl⟩
        · cases done
          exact .inr (.inr ⟨rfl, rfl⟩)
      · cases done
        exact .inr (.inr ⟨rfl, rfl⟩)

theorem increaseUserQuota_ok (done : increaseUserQuota fault id quota db = .ok next) :
    next = db.addUserQuota id quota := by
  unfold increaseUserQuota at done
  repeat' split at done
  all_goals cases done
  rfl

theorem decreaseUserQuota_ok (done : decreaseUserQuota fault id quota db = .ok next) :
    next = db.addUserQuota id (-quota) := by
  unfold decreaseUserQuota at done
  repeat' split at done
  all_goals cases done
  rfl

theorem increaseTokenQuota_ok (done : increaseTokenQuota fault id quota db = .ok next) :
    next = db.addTokenQuota id quota := by
  unfold increaseTokenQuota at done
  repeat' split at done
  all_goals cases done
  rfl

theorem increaseTokenQuota_succeeds (db : Database) (nonneg : 0 ≤ quota) :
    increaseTokenQuota false id quota db = .ok (db.addTokenQuota id quota) := by
  unfold increaseTokenQuota
  rw [if_neg (by omega), if_neg (by simp)]

theorem decreaseTokenQuota_ok (done : decreaseTokenQuota fault id quota db = .ok next) :
    next = db.addTokenQuota id (-quota) := by
  unfold decreaseTokenQuota at done
  repeat' split at done
  all_goals cases done
  rfl

theorem tryReserveTokenQuota_ok {unlimited : Bool} {reserved : Bool}
    (done : tryReserveTokenQuota fault id quota unlimited db = .ok (reserved, next)) :
    (reserved = true ∧ next = db.addTokenQuota id (-quota)) ∨
      (reserved = true ∧ quota = 0 ∧ next = db) ∨ (reserved = false ∧ next = db) := by
  unfold tryReserveTokenQuota at done
  split at done
  · cases done
  split at done
  · cases done
    exact .inr (.inl ⟨rfl, by assumption, rfl⟩)
  · split at done
    · split at done
      · cases done
      · rename_i decreased
        cases done
        exact .inl ⟨rfl, decreaseTokenQuota_ok decreased⟩
    · repeat' split at done
      all_goals cases done
      · exact .inl ⟨rfl, rfl⟩
      · exact .inr (.inr ⟨rfl, rfl⟩)
      · exact .inr (.inr ⟨rfl, rfl⟩)

end AiHub.Model

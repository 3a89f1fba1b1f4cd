import AiHub.Library.WriteBehind
import AiHub.Model.Database

/-!
# The wallet and its cache

With Redis, a wallet is spent from the `Quota` of the cached user hash, and the row is
told afterwards: at once in direct mode, through the queue of the batch updater in batch
mode.  A call that misses the hash lets `GetUserCache` read the row and write the hash.
Each command on Redis or on the database is a step of its own; the goroutines that are
under way are the tasks of the wallet, and any of them may go on next.

No command fails.  What the fence of the auth version answers is left to the
environment.
-/

namespace AiHub.Model

open AiHub.Library AiHub.Library.WriteBehind AiHub.Common

/-! ## The scripts -/

inductive CacheQuotaResult where
  | insufficient
  | ok
  | miss
  deriving DecidableEq, Repr

/-- Spend from the hash, if there is one and it has enough. -/
def userQuotaReserveScript (hash : Option Int) (amount : Int) : CacheQuotaResult × Option Int :=
  match hash with
  | none => (.miss, none)
  | some quota =>
    if quota < amount then (.insufficient, some quota) else (.ok, some (quota - amount))

/-- Book a delta on the hash, if there is one. -/
def userQuotaDeltaScript (hash : Option Int) (delta : Int) : CacheQuotaResult × Option Int :=
  match hash with
  | none => (.miss, none)
  | some quota => (.ok, some (quota + delta))

/-- The quota after `writeUserCache` with `includeQuota`: one that is there stays. -/
def writeUserCacheQuota (hash : Option Int) (quota : Int) : Option Int :=
  some (hash.getD quota)

/-! ## Calls under way -/

/-- What a goroutine does next.  A reservation that waits for the hash has an amount
wanted, any other reader of the hash has none. -/
inductive WalletTask where
  | applyDelta (delta : Int)
  | persist (delta : Int) (direct : Bool)
  | getUserCache (wanted : Option Int)
  | populate (quota : Int) (wanted : Option Int)
  | tryReserve (quota : Int)
  | reserveDB (quota : Int)
  deriving DecidableEq, Repr

/-- What `GetUserCache` finds: a hash it may serve, none, or a fence above the version
of the user. -/
inductive UserCacheAnswer where
  | served
  | absent
  | pending
  deriving DecidableEq, Repr

/-- The wallet of a user: the row, the hash, what waits for the batch updater and what it
writes, the tasks under way, and the totals that were reserved, credited and debited. -/
structure Wallet where
  quota : Int
  hash : Option Int
  batchStore : Int
  flushing : Int
  tasks : List WalletTask
  reserved : Int
  credited : Int
  debited : Int
  deriving DecidableEq, Repr

inductive WalletEvent where
  | tryReserveUserQuota (quota : Int)
  | increaseUserQuota (quota : Int) (db : Bool)
  | decreaseUserQuota (quota : Int) (db : Bool)
  | getUserCache
  | resume (index : Nat) (answer : UserCacheAnswer)
  | swapBatch
  | writeBatch
  | expire
  deriving DecidableEq, Repr

namespace Wallet

def initial (balance : Int) : Wallet := ⟨balance, none, 0, 0, [], 0, 0, 0⟩

variable (batch : Bool)

def spawn (wallet : Wallet) (tasks : List WalletTask) : Wallet :=
  { wallet with tasks := wallet.tasks ++ tasks }

/-- Update the row, or queue the delta for the batch updater. -/
def persistUserQuotaDelta (wallet : Wallet) (delta : Int) (direct : Bool) : Wallet :=
  if direct then { wallet with quota := wallet.quota + delta }
  else { wallet with batchStore := wallet.batchStore + delta }

def reserveUserQuotaDB (wallet : Wallet) (quota : Int) : Wallet :=
  if quota ≤ wallet.quota then
    { wallet with quota := wallet.quota - quota, reserved := wallet.reserved + quota }
  else wallet

/-- Run the script of a reservation; the task is what a miss leads to. -/
def cacheTryReserveUserQuota (wallet : Wallet) (quota : Int) (missed : WalletTask) : Wallet :=
  match userQuotaReserveScript wallet.hash quota with
  | (.miss, _) => wallet.spawn [missed]
  | (.insufficient, _) => wallet
  | (.ok, hash) =>
    { wallet with
      hash := hash
      tasks := wallet.tasks ++ [.persist (-quota) (!batch)]
      reserved := wallet.reserved + quota }

def tryReserveUserQuota (wallet : Wallet) (quota : Int) : Wallet :=
  if quota ≤ 0 then wallet
  else wallet.cacheTryReserveUserQuota batch quota (.getUserCache (some quota))

/-- The credit goes to the queue, or to the row up to the greatest wallet; the hash is
told in a goroutine. -/
def increaseUserQuota (wallet : Wallet) (quota : Int) (db : Bool) : Wallet :=
  if quota < 0 then wallet
  else if !validateWalletQuota quota then wallet
  else if !db && batch then
    { wallet with
      batchStore := wallet.batchStore + quota
      tasks := wallet.tasks ++ [.applyDelta quota]
      credited := wallet.credited + quota }
  else if wallet.quota ≤ maxWalletQuota - quota then
    { wallet with
      quota := wallet.quota + quota
      tasks := wallet.tasks ++ [.applyDelta quota]
      credited := wallet.credited + quota }
  else wallet

/-- The hash is told in a goroutine, before or after the row or the queue. -/
def decreaseUserQuota (wallet : Wallet) (quota : Int) (db : Bool) : Wallet :=
  if quota < 0 then wallet
  else
    { wallet with
      tasks := wallet.tasks ++ [.persist (-quota) (db || !batch), .applyDelta (-quota)]
      debited := wallet.debited + quota }

/-- A reservation goes on, a reader is done. -/
def goOn (wallet : Wallet) (wanted : Option Int) (next : Int → WalletTask) : Wallet :=
  wallet.spawn (wanted.map next).toList

/-- A task that was taken out goes on.  `GetUserCache` serves the hash or reads the row,
and a fence makes it fail before or in the write of the hash. -/
def perform (wallet : Wallet) (answer : UserCacheAnswer) : WalletTask → Wallet
  | .applyDelta delta => { wallet with hash := (userQuotaDeltaScript wallet.hash delta).2 }
  | .persist delta direct => wallet.persistUserQuotaDelta delta direct
  | .getUserCache wanted =>
    if answer = .pending then wallet.goOn wanted .reserveDB
    else if answer = .served ∧ wallet.hash.isSome then wallet.goOn wanted .tryReserve
    else wallet.spawn [.populate wallet.quota wanted]
  | .populate quota wanted =>
    if answer = .pending then wallet.goOn wanted .reserveDB
    else
      { wallet with hash := writeUserCacheQuota wallet.hash quota }.goOn wanted .tryReserve
  | .tryReserve quota => wallet.cacheTryReserveUserQuota batch quota (.reserveDB quota)
  | .reserveDB quota => wallet.reserveUserQuotaDB quota

def resume (wallet : Wallet) (index : Nat) (answer : UserCacheAnswer) : Wallet :=
  match wallet.tasks[index]? with
  | none => wallet
  | some task =>
    { wallet with tasks := wallet.tasks.eraseIdx index }.perform batch answer task

/-- One step.  The batch updater is one goroutine, which swaps the store only after it
has written what it took before. -/
def step (wallet : Wallet) : WalletEvent → Wallet
  | .tryReserveUserQuota quota => wallet.tryReserveUserQuota batch quota
  | .increaseUserQuota quota db => wallet.increaseUserQuota batch quota db
  | .decreaseUserQuota quota db => wallet.decreaseUserQuota batch quota db
  | .getUserCache => wallet.spawn [.getUserCache none]
  | .resume index answer => wallet.resume batch index answer
  | .swapBatch =>
    if wallet.flushing = 0 then
      { wallet with batchStore := 0, flushing := wallet.batchStore }
    else wallet
  | .writeBatch => { wallet with quota := wallet.quota + wallet.flushing, flushing := 0 }
  | .expire => { wallet with hash := none }

end Wallet

/-! ## The wallet is an account behind a cache -/

def walletAccount : Account Int where
  available quota := quota
  book delta quota := quota + delta
  available_book _ _ := rfl

def WalletTask.toPending : WalletTask → WriteBehind.Pending Int
  | .applyDelta delta => .tell delta
  | .persist delta direct => .store delta direct
  | .getUserCache wanted => .load wanted
  | .populate quota wanted => .fill quota wanted
  | .tryReserve quota => .retry quota
  | .reserveDB quota => .fallback quota

def UserCacheAnswer.outcome : UserCacheAnswer → WriteBehind.Outcome
  | .served => .hit
  | .absent => .normal
  | .pending => .failed

def Wallet.toState (wallet : Wallet) : WriteBehind.State Int where
  row := wallet.quota
  cached := wallet.hash
  queued := wallet.batchStore
  flushing := wallet.flushing
  pending := wallet.tasks.map WalletTask.toPending
  reserved := wallet.reserved
  credited := wallet.credited
  debited := wallet.debited

/-- What an event is to the account. -/
def WalletEvent.action (batch : Bool) (wallet : Wallet) : WalletEvent → WriteBehind.Action
  | .tryReserveUserQuota quota => .reserve quota
  | .increaseUserQuota quota db =>
    if validateWalletQuota quota then .credit quota (db || !batch) maxWalletQuota else .idle
  | .decreaseUserQuota quota db =>
    if quota < 0 then .idle else .adjust (-quota) (db || !batch) true
  | .getUserCache => .read
  | .resume index answer => .resume index answer.outcome
  | .swapBatch => if wallet.flushing = 0 then .take else .idle
  | .writeBatch => .flush
  | .expire => .expire

open WalletTask

namespace Wallet

variable {batch : Bool} (wallet : Wallet) (quota : Int)

@[simp] theorem toState_spawn (tasks : List WalletTask) :
    (wallet.spawn tasks).toState = wallet.toState.spawn (tasks.map toPending) := by
  simp [toState, spawn, State.spawn]

theorem toState_goOn (wanted : Option Int) (next : Int → WalletTask) :
    (wallet.goOn wanted next).toState =
      wallet.toState.proceed wanted fun quota => (next quota).toPending := by
  rw [goOn, toState_spawn, State.proceed]
  cases wanted <;> rfl

theorem toState_cacheTryReserve (missed : WalletTask) :
    (wallet.cacheTryReserveUserQuota batch quota missed).toState =
      wallet.toState.reserveCached walletAccount batch quota missed.toPending := by
  cases cached : wallet.hash with
  | none =>
    have missing : wallet.toState.cached = none := cached
    simp only [cacheTryReserveUserQuota, userQuotaReserveScript, cached,
      State.reserveCached, missing]
    exact toState_spawn wallet [missed]
  | some held =>
    have there : wallet.toState.cached = some held := cached
    simp only [cacheTryReserveUserQuota, userQuotaReserveScript, cached, State.reserveCached, there]
    by_cases short : held < quota
    · have tooMuch : ¬ quota ≤ walletAccount.available held := not_le.mpr short
      rw [if_pos short, if_neg tooMuch]
    · have enough : quota ≤ walletAccount.available held := not_lt.mp short
      rw [if_neg short, if_pos enough]
      simp [toState, walletAccount, toPending, sub_eq_add_neg]

theorem toState_persist (delta : Int) (direct : Bool) :
    (wallet.persistUserQuotaDelta delta direct).toState =
      wallet.toState.store walletAccount delta direct := by
  cases direct <;> rfl

theorem toState_reserveDB :
    (wallet.reserveUserQuotaDB quota).toState = wallet.toState.reserveRow walletAccount quota := by
  simp only [reserveUserQuotaDB, State.reserveRow]
  by_cases enough : quota ≤ wallet.quota
  · rw [if_pos enough, if_pos (show quota ≤ walletAccount.available wallet.toState.row from enough)]
    simp [toState, walletAccount, sub_eq_add_neg]
  · rw [if_neg enough,
      if_neg (show ¬ quota ≤ walletAccount.available wallet.toState.row from enough)]

theorem toState_increase (db : Bool) :
    (wallet.increaseUserQuota batch quota db).toState =
      wallet.toState.step walletAccount batch
        ((WalletEvent.increaseUserQuota quota db).action batch wallet) := by
  simp only [increaseUserQuota, WalletEvent.action]
  cases valid : validateWalletQuota quota with
  | false => split <;> rfl
  | true =>
    simp only [if_true, Bool.not_true, Bool.false_eq_true, if_false, State.step, State.credit]
    by_cases negative : quota < 0
    · rw [if_pos negative, if_pos (.inl negative)]
    · cases queued : !db && batch with
      | true =>
        have indirect : (db || !batch) = false := by
          simpa using congrArg (!·) queued
        rw [if_neg negative, if_pos rfl, indirect, if_neg (by simp [negative])]
        simp [toState, State.store, State.spawn, toPending]
      | false =>
        have direct : (db || !batch) = true := by
          simpa using congrArg (!·) queued
        rw [if_neg negative, if_neg (by simp), direct]
        by_cases room : wallet.quota ≤ maxWalletQuota - quota
        · rw [if_pos room, if_neg (by simpa [negative, walletAccount, toState] using room)]
          simp [toState, State.store, State.spawn, toPending, walletAccount]
        · rw [if_neg room, if_pos (.inr ⟨rfl, not_le.mp room⟩)]

theorem toState_decrease (db : Bool) :
    (wallet.decreaseUserQuota batch quota db).toState =
      wallet.toState.step walletAccount batch
        ((WalletEvent.decreaseUserQuota quota db).action batch wallet) := by
  simp only [decreaseUserQuota, WalletEvent.action]
  split
  case isTrue => rfl
  case isFalse nonneg =>
    have debited : (if 0 ≤ -quota then wallet.debited else wallet.debited - -quota) =
        wallet.debited + quota := by
      split <;> omega
    have credited : (if 0 ≤ -quota then wallet.credited + -quota else wallet.credited) =
        wallet.credited := by
      split <;> omega
    simp only [State.step, State.adjust, State.spawn, toState, debited, credited, List.map_append]
    rfl

theorem toState_perform (answer : UserCacheAnswer) (task : WalletTask) :
    (wallet.perform batch answer task).toState =
      wallet.toState.resumeTask walletAccount batch answer.outcome task.toPending := by
  cases task with
  | applyDelta delta =>
    cases cached : wallet.hash <;>
      simp [perform, toState, userQuotaDeltaScript, toPending,
        State.resumeTask, walletAccount, cached]
  | persist delta direct => exact toState_persist wallet delta direct
  | getUserCache wanted =>
    cases answer with
    | served =>
      cases cached : wallet.hash with
      | none =>
        simp only [perform, cached, Option.isSome_none, Bool.false_eq_true, and_false,
          reduceCtorEq, if_false]
        refine (toState_spawn wallet _).trans ?_
        simp [State.resumeTask, toPending, UserCacheAnswer.outcome, toState, cached]
      | some held =>
        simp only [perform, cached, Option.isSome_some, and_self, reduceCtorEq, if_false, if_true]
        refine (toState_goOn wallet wanted .tryReserve).trans ?_
        simp [State.resumeTask, toPending, UserCacheAnswer.outcome, toState, cached]
    | absent => exact toState_spawn wallet _
    | pending => exact toState_goOn wallet wanted .reserveDB
  | populate quota wanted =>
    cases answer with
    | served | absent => exact toState_goOn _ wanted .tryReserve
    | pending => exact toState_goOn wallet wanted .reserveDB
  | tryReserve quota => exact toState_cacheTryReserve wallet quota _
  | reserveDB quota => exact toState_reserveDB wallet quota

theorem toState_step (event : WalletEvent) :
    (wallet.step batch event).toState =
      wallet.toState.step walletAccount batch (event.action batch wallet) := by
  cases event with
  | tryReserveUserQuota quota =>
    simp only [step, tryReserveUserQuota, WalletEvent.action, State.step]
    split
    · rfl
    · exact toState_cacheTryReserve wallet quota _
  | increaseUserQuota quota db => exact toState_increase wallet quota db
  | decreaseUserQuota quota db => exact toState_decrease wallet quota db
  | getUserCache => exact toState_spawn wallet _
  | resume index answer =>
    simp only [step, resume, WalletEvent.action, State.step, State.resume]
    have same : wallet.toState.pending[index]? =
        wallet.tasks[index]?.map toPending := List.getElem?_map ..
    rw [same]
    cases wallet.tasks[index]? with
    | none => rfl
    | some task =>
      refine (toState_perform _ answer task).trans ?_
      simp [toState, List.eraseIdx_map]
  | swapBatch =>
    simp only [step, WalletEvent.action]
    split
    case isTrue written => simp [State.step, toState, written]
    case isFalse => rfl
  | writeBatch => rfl
  | expire => rfl

end Wallet

/-! ## Nothing is spent twice -/

/-- The delta that a task has yet to bring to the row or to the queue. -/
def WalletTask.unpersisted : WalletTask → Int
  | .persist delta _ => delta
  | _ => 0

/-- A task that has yet to bring a delta somewhere. -/
def WalletTask.isDelta : WalletTask → Bool
  | .applyDelta _ | .persist .. => true
  | _ => false

namespace Wallet

/-- Nothing is in flight. -/
def Idle (wallet : Wallet) : Prop := wallet.tasks = [] ∧ wallet.flushing = 0

/-- The deltas that have yet to reach the row. -/
def unpersisted (wallet : Wallet) : Int :=
  wallet.batchStore + wallet.flushing + (wallet.tasks.map WalletTask.unpersisted).sum

/-- No delta is queued, being flushed or on its way. -/
def NoDelta (wallet : Wallet) : Prop :=
  wallet.batchStore = 0 ∧ wallet.flushing = 0 ∧ ∀ task ∈ wallet.tasks, task.isDelta = false

instance (wallet : Wallet) : Decidable wallet.NoDelta :=
  inferInstanceAs (Decidable (_ ∧ _ ∧ _))

/-- A hash that is written anew holds what is still the quota of the row, with no delta
queued or on its way; and the row is only spent from while there is no hash and the
deltas on their way to the row do not lower it. -/
def Sound (wallet : Wallet) : WalletEvent → Prop
  | .resume index answer =>
    match wallet.tasks[index]? with
    | some (.populate quota _) =>
      answer ≠ .pending → wallet.hash = none → wallet.NoDelta ∧ quota = wallet.quota
    | some (.reserveDB _) => wallet.hash = none ∧ 0 ≤ wallet.unpersisted
    | _ => True
  | _ => True

instance (wallet : Wallet) (event : WalletEvent) : Decidable (wallet.Sound event) := by
  unfold Sound
  split
  · split <;> infer_instance
  · infer_instance

theorem toState_unstored (wallet : Wallet) : wallet.toState.unstored = wallet.unpersisted := by
  have same : WriteBehind.Pending.unstored ∘ WalletTask.toPending = WalletTask.unpersisted := by
    funext task
    cases task <;> rfl
  simp only [State.unstored, WriteBehind.total, toState, unpersisted, List.map_map, same]

theorem NoDelta.quiet {wallet : Wallet} (none : wallet.NoDelta) : wallet.toState.Quiet := by
  refine ⟨none.1, none.2.1, ?_⟩
  intro pending member
  obtain ⟨task, among, rfl⟩ := List.mem_map.mp member
  have inert := none.2.2 task among
  cases task <;> first | rfl | cases inert

theorem Sound.action {batch : Bool} {wallet : Wallet} {event : WalletEvent}
    (sound : wallet.Sound event) :
    (event.action batch wallet).Sound walletAccount wallet.toState := by
  cases event with
  | resume index answer =>
    have same : wallet.toState.pending[index]? =
        wallet.tasks[index]?.map toPending := List.getElem?_map ..
    simp only [Sound] at sound
    simp only [WalletEvent.action, WriteBehind.Action.Sound, same]
    cases found : wallet.tasks[index]? with
    | none => trivial
    | some task =>
      rw [found] at sound
      cases task with
      | populate quota wanted =>
        intro written cold
        have accepted : answer ≠ .pending := by
          rintro rfl
          cases written <;> contradiction
        obtain ⟨none, same⟩ := sound accepted cold
        exact ⟨none.quiet, same⟩
      | reserveDB quota =>
        rw [← toState_unstored] at sound
        exact sound
      | applyDelta | persist | getUserCache | tryReserve => trivial
  | increaseUserQuota quota db =>
    simp only [WalletEvent.action]
    split <;> trivial
  | decreaseUserQuota quota db =>
    simp only [WalletEvent.action]
    split
    · trivial
    · exact .inl rfl
  | swapBatch =>
    simp only [WalletEvent.action]
    split <;> trivial
  | tryReserveUserQuota | getUserCache | writeBatch | expire => trivial

/-- However the calls interleave, the wallet stays an account behind its cache. -/
theorem coherent_run {batch : Bool} {balance : Int} (events : List WalletEvent)
    (guarded : Guarded (step batch) Sound (initial balance) events) :
    WriteBehind.Coherent walletAccount balance
      (run (step batch) (initial balance) events).toState := by
  have start : (initial balance).toState = State.initial balance := rfl
  refine WriteBehind.coherent_run batch start ?_ events guarded
  intro wallet event sound
  exact ⟨event.action batch wallet, sound.action, toState_step wallet event⟩

end Wallet

/-- While every hash that is written anew is current, and the row is only spent from when
it is not ahead of the deltas, a cached quota is that of the row and the queue whenever
nothing is in flight, and no more is reserved than the balance and what was credited,
refunds included.  A wallet may start below zero; then nothing is reserved before it is
credited. -/
theorem wallet_not_overspent {batch : Bool} {balance : Int} {events : List WalletEvent}
    (guarded : Guarded (Wallet.step batch) Wallet.Sound (Wallet.initial balance) events) :
    ((run (Wallet.step batch) (Wallet.initial balance) events).Idle →
      ∀ quota ∈ (run (Wallet.step batch) (Wallet.initial balance) events).hash,
        quota = (run (Wallet.step batch) (Wallet.initial balance) events).quota +
          (run (Wallet.step batch) (Wallet.initial balance) events).batchStore) ∧
    ((run (Wallet.step batch) (Wallet.initial balance) events).reserved = 0 ∨
      (run (Wallet.step batch) (Wallet.initial balance) events).reserved ≤
        balance + (run (Wallet.step batch) (Wallet.initial balance) events).credited) := by
  have coherent := Wallet.coherent_run events guarded
  refine ⟨?_, coherent.covered⟩
  rintro ⟨noTasks, written⟩
  apply coherent.cached_eq _ written
  simp [Wallet.toState, noTasks]

/-- A reader fills the hash; 60 units are reserved and queued. -/
def reservedOnce : List WalletEvent :=
  [.getUserCache, .resume 0 .absent, .resume 0 .absent, .tryReserveUserQuota 60,
    .resume 0 .absent]

/-- The hash expires, and the next reservation of 60 units fills it again. -/
def reservedAgain : List WalletEvent :=
  [.expire, .tryReserveUserQuota 60, .resume 0 .absent, .resume 0 .absent, .resume 0 .absent,
    .resume 0 .absent]

/-- Of 100 units only one reservation of 60 succeeds, if the queue is written before the
hash is filled again. -/
theorem flushedWallet_not_overspent :
    let events := reservedOnce ++ [.swapBatch, .writeBatch] ++ reservedAgain
    Guarded (Wallet.step true) Wallet.Sound (Wallet.initial 100) events ∧
      (run (Wallet.step true) (Wallet.initial 100) events).Idle ∧
      (run (Wallet.step true) (Wallet.initial 100) events).hash = some 40 ∧
      (run (Wallet.step true) (Wallet.initial 100) events).quota +
        (run (Wallet.step true) (Wallet.initial 100) events).batchStore = 40 ∧
      (run (Wallet.step true) (Wallet.initial 100) events).reserved ≤ 100 + 0 := by
  intro events
  have guarded : Guarded (Wallet.step true) Wallet.Sound (Wallet.initial 100) events := by decide
  have hash : (run (Wallet.step true) (Wallet.initial 100) events).hash = some 40 := by decide
  have idle : (run (Wallet.step true) (Wallet.initial 100) events).Idle := ⟨by decide, by decide⟩
  obtain ⟨agrees, covered⟩ := wallet_not_overspent guarded
  refine ⟨guarded, idle, hash, (agrees idle 40 hash).symm, ?_⟩
  exact covered.resolve_left (by decide)

/-- A hash that is filled while the reservation is still queued holds the old balance:
120 of 100 units are reserved, and the hash does not agree with the row and the queue. -/
theorem refilledWallet_overspent :
    let events := reservedOnce ++ reservedAgain
    (run (Wallet.step true) (Wallet.initial 100) events).Idle ∧
      (run (Wallet.step true) (Wallet.initial 100) events).hash = some 40 ∧
      (run (Wallet.step true) (Wallet.initial 100) events).quota = 100 ∧
      (run (Wallet.step true) (Wallet.initial 100) events).batchStore = -120 ∧
      (run (Wallet.step true) (Wallet.initial 100) events).reserved = 120 ∧
      (run (Wallet.step true) (Wallet.initial 100) events).credited = 0 :=
  ⟨⟨by decide, by decide⟩, by decide, by decide, by decide, by decide, by decide⟩

end AiHub.Model

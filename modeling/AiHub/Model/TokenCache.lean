import AiHub.Library.WriteBehind
import AiHub.Model.Database

/-!
# Token quota and its cache

The quota of a token is kept like that of a wallet, with two differences: an amount that
is booked moves between `remain_quota` and `used_quota`, and a fence keeps readers from
writing the hash while the token is changed.  Without Redis a token is spent from its row
alone.

The row, the hash, the queue of the batch updater and the goroutines under way are those
of an account behind a cache; the operations below are the ones of `quota_reserve.go`,
`token.go` and `token_cache.go` on it.  No command fails.
-/

namespace AiHub.Model

open AiHub.Library WriteBehind

def tokenAccount : Account Token where
  available token := token.remainQuota
  book := Token.book
  available_book _ _ := rfl

structure TokenSettings where
  redisEnabled : Bool
  batchUpdateEnabled : Bool
  deriving DecidableEq, Repr

/-- A token with its hash and the calls under way, and the fence of its key. -/
structure CachedToken where
  account : WriteBehind.State Token
  fence : Bool
  deriving DecidableEq, Repr

/-- A reader may be served by the hash.  `setFence` and `expire` are the two commands of
`invalidateTokenCacheForMutation`; the fence and the hash also expire on their own. -/
inductive TokenEvent where
  | tryReserveTokenQuota (quota : Int) (unlimited : Bool)
  | increaseTokenQuota (quota : Int)
  | decreaseTokenQuota (quota : Int)
  | getTokenByKey
  | resume (index : Nat) (served : Bool)
  | swapBatch
  | writeBatch
  | expire
  | setFence
  | expireFence
  deriving DecidableEq, Repr

namespace CachedToken

def initial (token : Token) : CachedToken := ⟨.initial token, false⟩

variable (settings : TokenSettings)

/-- The script of a reservation; what it takes is then persisted, and a miss leads to the
task. -/
def cacheTryReserveTokenQuota (token : CachedToken) (quota : Int)
    (missed : WriteBehind.Pending Token) : CachedToken :=
  { token with
    account := token.account.reserveCached tokenAccount settings.batchUpdateEnabled quota missed }

def reserveTokenQuotaDB (token : CachedToken) (quota : Int) : CachedToken :=
  { token with account := token.account.reserveRow tokenAccount quota }

/-- The hash is told in a goroutine, if there is Redis; the row is updated, or the delta
is queued. -/
def applyTokenQuotaDelta (token : CachedToken) (delta : Int) : CachedToken :=
  { token with
    account := token.account.adjust delta (!settings.batchUpdateEnabled) settings.redisEnabled }

def increaseTokenQuota (token : CachedToken) (quota : Int) : CachedToken :=
  if quota < 0 then token else token.applyTokenQuotaDelta settings quota

def decreaseTokenQuota (token : CachedToken) (quota : Int) : CachedToken :=
  if quota < 0 then token else token.applyTokenQuotaDelta settings (-quota)

/-- A miss reads the row, even if there is a hash by then, and tries again after that. -/
def tryReserveTokenQuota (token : CachedToken) (quota : Int) (unlimited : Bool) : CachedToken :=
  if quota ≤ 0 then token
  else if unlimited then token.decreaseTokenQuota settings quota
  else if !settings.redisEnabled then token.reserveTokenQuotaDB quota
  else token.cacheTryReserveTokenQuota settings quota (.load (some quota))

/-- How a task ends: only a reader that reserves nothing may be served by the hash, and
`cacheInitToken` does nothing behind a fence. -/
def outcome (token : CachedToken) (served : Bool) : WriteBehind.Pending Token → WriteBehind.Outcome
  | .load none => if served then .hit else .normal
  | .fill _ _ => if token.fence then .ignored else .normal
  | _ => .normal

def resume (token : CachedToken) (index : Nat) (served : Bool) : CachedToken :=
  match token.account.pending[index]? with
  | none => token
  | some task =>
    { token with
      account := token.account.resume tokenAccount settings.batchUpdateEnabled index
        (token.outcome served task) }

def step (token : CachedToken) : TokenEvent → CachedToken
  | .tryReserveTokenQuota quota unlimited => token.tryReserveTokenQuota settings quota unlimited
  | .increaseTokenQuota quota => token.increaseTokenQuota settings quota
  | .decreaseTokenQuota quota => token.decreaseTokenQuota settings quota
  | .getTokenByKey =>
    if settings.redisEnabled then { token with account := token.account.spawn [.load none] }
    else token
  | .resume index served => token.resume settings index served
  | .swapBatch =>
    if token.account.flushing = 0 then
      { token with
        account := { token.account with queued := 0, flushing := token.account.queued } }
    else token
  | .writeBatch =>
    { token with
      account := { token.account with
        row := token.account.row.book token.account.flushing
        flushing := 0 } }
  | .expire => { token with account := { token.account with cached := none } }
  | .setFence => { token with fence := true }
  | .expireFence => { token with fence := false }

/-- What an event is to the account. -/
def action (token : CachedToken) : TokenEvent → WriteBehind.Action
  | .tryReserveTokenQuota quota unlimited =>
    if unlimited then
      if quota ≤ 0 then .idle
      else .adjust (-quota) (!settings.batchUpdateEnabled) settings.redisEnabled
    else if settings.redisEnabled then .reserve quota
    else .reserveRow quota
  | .increaseTokenQuota quota =>
    if quota < 0 then .idle
    else .adjust quota (!settings.batchUpdateEnabled) settings.redisEnabled
  | .decreaseTokenQuota quota =>
    if quota < 0 then .idle
    else .adjust (-quota) (!settings.batchUpdateEnabled) settings.redisEnabled
  | .getTokenByKey => if settings.redisEnabled then .read else .idle
  | .resume index served =>
    match token.account.pending[index]? with
    | none => .idle
    | some task => .resume index (token.outcome served task)
  | .swapBatch => if token.account.flushing = 0 then .take else .idle
  | .writeBatch => .flush
  | .expire => .expire
  | .setFence | .expireFence => .idle

theorem account_step (token : CachedToken) (event : TokenEvent) :
    (token.step settings event).account =
      token.account.step tokenAccount settings.batchUpdateEnabled
        (token.action settings event) := by
  cases event with
  | tryReserveTokenQuota quota unlimited =>
    simp only [step, tryReserveTokenQuota, action]
    by_cases zero : quota ≤ 0
    · cases unlimited <;> cases settings.redisEnabled <;>
        simp [zero, State.step]
    · have nonneg : ¬ quota < 0 := by omega
      cases unlimited <;> cases redis : settings.redisEnabled <;>
        simp [zero, nonneg, redis, State.step, decreaseTokenQuota,
          applyTokenQuotaDelta, reserveTokenQuotaDB, cacheTryReserveTokenQuota]
  | increaseTokenQuota quota =>
    simp only [step, increaseTokenQuota, action]
    split <;> rfl
  | decreaseTokenQuota quota =>
    simp only [step, decreaseTokenQuota, action]
    split <;> rfl
  | getTokenByKey =>
    simp only [step, action]
    split <;> rfl
  | resume index served =>
    simp only [step, resume, action]
    cases token.account.pending[index]? <;> rfl
  | swapBatch =>
    simp only [step, action]
    split
    case isTrue written => simp [State.step, written]
    case isFalse => rfl
  | writeBatch | expire | setFence | expireFence => rfl

end CachedToken

/-! ## Remaining and used quota -/

/-- What a token was given in all. -/
def Token.total (token : Token) : Int := token.remainQuota + token.usedQuota

theorem Token.total_book (delta : Int) (token : Token) :
    (token.book delta).total = token.total := by
  simp only [total, book]
  omega

namespace CachedToken

/-- The row and the hash have the total, and what is queued and being flushed will not
change it. -/
structure HasTotal (total : Int) (token : CachedToken) : Prop where
  row : token.account.row.total = total
  hash : ∀ held ∈ token.account.cached, held.total = total
  queue : ((token.account.row.book token.account.flushing).book token.account.queued).total = total

/-- Every copy keeps its total, whatever happens. -/
theorem hasTotal_run (settings : TokenSettings) (token : Token) (events : List TokenEvent) :
    HasTotal token.total (run (step settings) (initial token) events) := by
  have throughout : WriteBehind.Throughout (fun copy : Token => copy.total = token.total)
      (run (step settings) (initial token) events).account := by
    refine @run_invariant_of_step _ _ _ _
      (fun state : CachedToken => WriteBehind.Throughout (fun copy => copy.total = token.total)
        state.account) ?_ events ?_
    · intro state event holds
      rw [account_step]
      apply holds.step
      intro delta copy same
      exact (Token.total_book delta copy).trans same
    · exact ⟨rfl, by simp [initial, State.initial], by simp [initial, State.initial]⟩
  refine ⟨throughout.row, throughout.cached, ?_⟩
  rw [Token.total_book, Token.total_book]
  exact throughout.row

/-! ## No overdraft -/

/-- A hash that is written anew has the remaining quota that is still that of the row,
with no delta queued or on its way; and the row is only spent from while there is no hash
and the deltas on their way to the row do not lower it. -/
def Sound (token : CachedToken) : TokenEvent → Prop
  | .resume index _ =>
    match token.account.pending[index]? with
    | some (.fill snapshot _) =>
      token.fence = false → token.account.cached = none →
        token.account.Quiet ∧ snapshot.remainQuota = token.account.row.remainQuota
    | some (.fallback _) => token.account.cached = none ∧ 0 ≤ token.account.unstored
    | _ => True
  | _ => True

instance (token : CachedToken) (event : TokenEvent) : Decidable (token.Sound event) := by
  unfold Sound
  split
  · split <;> infer_instance
  · infer_instance

end CachedToken

/-- A reservation of a limited token, a refund, or a step of what is under way. -/
def TokenEvent.ReservesOrRefunds : TokenEvent → Prop
  | .tryReserveTokenQuota _ unlimited => unlimited = false
  | .decreaseTokenQuota _ => False
  | _ => True

instance (event : TokenEvent) : Decidable event.ReservesOrRefunds := by
  cases event <;> unfold TokenEvent.ReservesOrRefunds <;> infer_instance

namespace CachedToken

variable {settings : TokenSettings} {token : CachedToken} {event : TokenEvent}

theorem sound_action (redis : settings.redisEnabled = true) (sound : token.Sound event) :
    (token.action settings event).Sound tokenAccount token.account := by
  cases event with
  | tryReserveTokenQuota quota unlimited =>
    simp only [action, redis, if_true]
    split
    · split
      · trivial
      · exact .inl rfl
    · trivial
  | increaseTokenQuota quota | decreaseTokenQuota quota =>
    simp only [action, redis]
    split
    · trivial
    · exact .inl rfl
  | getTokenByKey =>
    simp only [action, redis, if_true]
    trivial
  | resume index served =>
    simp only [Sound] at sound
    simp only [action]
    cases found : token.account.pending[index]? with
    | none => trivial
    | some task =>
      rw [found] at sound
      simp only [WriteBehind.Action.Sound, found]
      cases task with
      | fill snapshot wanted =>
        intro written cold
        refine sound ?_ cold
        by_contra fenced
        simp only [outcome, Bool.not_eq_false] at fenced written
        simp [fenced] at written
      | fallback quota => exact sound
      | tell | store | load | retry => trivial
  | swapBatch =>
    simp only [action]
    split <;> trivial
  | writeBatch | expire | setFence | expireFence => trivial

/-- Without Redis there is no hash, and only refunds are on their way to the row. -/
structure Uncached (token : CachedToken) : Prop where
  cold : token.account.cached = none
  queued : 0 ≤ token.account.queued
  flushing : 0 ≤ token.account.flushing
  refunds : ∀ task ∈ token.account.pending, ∃ delta direct, task = .store delta direct ∧ 0 ≤ delta

theorem Uncached.unstored (uncached : token.Uncached) : 0 ≤ token.account.unstored := by
  have nonneg : 0 ≤ WriteBehind.total WriteBehind.Pending.unstored token.account.pending := by
    apply List.sum_nonneg
    intro share member
    obtain ⟨task, among, rfl⟩ := List.mem_map.mp member
    obtain ⟨delta, direct, rfl, refund⟩ := uncached.refunds task among
    exact refund
  have queued := uncached.queued
  have flushing := uncached.flushing
  simp only [State.unstored]
  omega

theorem Uncached.action (uncached : token.Uncached) (redis : settings.redisEnabled = false)
    (allowed : event.ReservesOrRefunds) :
    (token.action settings event).Sound tokenAccount token.account := by
  cases event with
  | tryReserveTokenQuota quota unlimited =>
    cases unlimited with
    | true => cases allowed
    | false =>
      simp only [action, redis, Bool.false_eq_true, if_false]
      exact ⟨uncached.cold, uncached.unstored⟩
  | increaseTokenQuota quota =>
    simp only [action]
    split
    · trivial
    · exact .inr uncached.cold
  | decreaseTokenQuota quota => exact allowed.elim
  | resume index served =>
    simp only [action]
    cases found : token.account.pending[index]? with
    | none => trivial
    | some task =>
      obtain ⟨delta, direct, rfl, -⟩ := uncached.refunds task (List.mem_of_getElem? found)
      simp [WriteBehind.Action.Sound, found]
  | getTokenByKey | swapBatch =>
    simp only [action]
    split <;> trivial
  | writeBatch | expire | setFence | expireFence => trivial

theorem Uncached.step (uncached : token.Uncached) (redis : settings.redisEnabled = false)
    (allowed : event.ReservesOrRefunds) : (token.step settings event).Uncached := by
  obtain ⟨cold, queued, flushing, refunds⟩ := uncached
  cases event with
  | tryReserveTokenQuota quota unlimited =>
    cases unlimited with
    | true => cases allowed
    | false =>
      simp only [step, tryReserveTokenQuota, redis, reserveTokenQuotaDB,
        State.reserveRow, Bool.not_false, if_true, Bool.false_eq_true, if_false]
      split
      · exact ⟨cold, queued, flushing, refunds⟩
      · split <;> exact ⟨cold, queued, flushing, refunds⟩
  | increaseTokenQuota quota =>
    simp only [step, increaseTokenQuota, applyTokenQuotaDelta, State.adjust, redis]
    split
    case isTrue => exact ⟨cold, queued, flushing, refunds⟩
    case isFalse nonneg =>
      refine ⟨cold, queued, flushing, ?_⟩
      intro task member
      rcases List.mem_append.mp member with before | added
      · exact refunds task before
      · exact ⟨quota, !settings.batchUpdateEnabled, by simpa using added, by omega⟩
  | decreaseTokenQuota quota => exact allowed.elim
  | getTokenByKey =>
    simp only [step, redis, Bool.false_eq_true, if_false]
    exact ⟨cold, queued, flushing, refunds⟩
  | resume index served =>
    simp only [step, resume, State.resume]
    cases found : token.account.pending[index]? with
    | none => exact ⟨cold, queued, flushing, refunds⟩
    | some task =>
      obtain ⟨delta, direct, rfl, refund⟩ := refunds task (List.mem_of_getElem? found)
      have rest : ∀ task ∈ token.account.pending.eraseIdx index,
          ∃ delta direct, task = .store delta direct ∧ 0 ≤ delta := fun task member =>
        refunds task (List.mem_of_mem_eraseIdx member)
      cases direct with
      | true => exact ⟨cold, queued, flushing, rest⟩
      | false => exact ⟨cold, add_nonneg queued refund, flushing, rest⟩
  | swapBatch =>
    simp only [step]
    split
    · exact ⟨cold, le_rfl, queued, refunds⟩
    · exact ⟨cold, queued, flushing, refunds⟩
  | writeBatch => exact ⟨cold, queued, le_rfl, refunds⟩
  | expire => exact ⟨rfl, queued, flushing, refunds⟩
  | setFence | expireFence => exact ⟨cold, queued, flushing, refunds⟩

/-- With Redis, every hash that is written anew is current, and the row is only spent
from when it is not ahead of the deltas; without it there is no condition. -/
def SoundFor (settings : TokenSettings) (token : CachedToken) (event : TokenEvent) : Prop :=
  settings.redisEnabled = true → token.Sound event

instance (settings : TokenSettings) (token : CachedToken) (event : TokenEvent) :
    Decidable (token.SoundFor settings event) :=
  inferInstanceAs (Decidable (_ → _))

theorem coherent_run {token : Token} (events : List TokenEvent) (guarded : Guarded (step settings)
      (fun state event => event.ReservesOrRefunds ∧ state.SoundFor settings event)
      (initial token) events) :
    WriteBehind.Coherent tokenAccount token.remainQuota
      (run (step settings) (initial token) events).account := by
  have start : (initial token).account = State.initial token := rfl
  cases redis : settings.redisEnabled with
  | true =>
    refine WriteBehind.coherent_run settings.batchUpdateEnabled start ?_ events guarded
    rintro state event ⟨-, sound⟩
    exact ⟨state.action settings event, sound_action redis (sound redis),
      account_step settings state event⟩
  | false =>
    have uncached : (initial token).Uncached :=
      ⟨rfl, le_rfl, le_rfl, by simp [initial, State.initial]⟩
    have both := guarded_and_invariant (fun state event (holds : state.Uncached) guard =>
      holds.step redis guard.1) events uncached guarded
    refine WriteBehind.coherent_run settings.batchUpdateEnabled start ?_ events both
    rintro state event ⟨⟨allowed, -⟩, holds⟩
    exact ⟨state.action settings event, holds.action redis allowed,
      account_step settings state event⟩

end CachedToken

/-- Every copy of a token keeps its total in every run.  If only reservations and refunds
are made, and with Redis every hash that is written anew is current and the row is only
spent from when it is not ahead of the deltas, then what is reserved and not refunded
stays within the quota that remained.  A token may start below zero; then nothing is
reserved before it is credited. -/
theorem token_quota_conserved (settings : TokenSettings) (token : Token)
    (events : List TokenEvent) :
    CachedToken.HasTotal token.total
        (run (CachedToken.step settings) (CachedToken.initial token) events) ∧
      (Guarded (CachedToken.step settings)
          (fun state event => event.ReservesOrRefunds ∧ state.SoundFor settings event)
          (CachedToken.initial token) events →
        (run (CachedToken.step settings) (CachedToken.initial token) events).account.reserved = 0 ∨
        (run (CachedToken.step settings) (CachedToken.initial token) events).account.reserved -
            (run (CachedToken.step settings) (CachedToken.initial token) events).account.credited ≤
          token.remainQuota) := by
  refine ⟨CachedToken.hasTotal_run settings token events, ?_⟩
  intro guarded
  have coherent := CachedToken.coherent_run events guarded
  rcases coherent.covered with nothing | covered
  · exact .inl nothing
  · exact .inr (by omega)

/-- With Redis and the batch updater, a reader fills the hash of a token; 60 units are
reserved and queued. -/
def tokenReservedOnce : List TokenEvent :=
  [.getTokenByKey, .resume 0 false, .resume 0 false, .tryReserveTokenQuota 60 false,
    .resume 0 false]

/-- The hash expires, and the next reservation of 60 units fills it again. -/
def tokenReservedAgain : List TokenEvent :=
  [.expire, .tryReserveTokenQuota 60 false, .resume 0 false, .resume 0 false, .resume 0 false,
    .resume 0 false]

/-- Of 100 units only one reservation of 60 succeeds, if the queue is written before the
hash is filled again. -/
theorem flushedToken_quota_conserved :
    let events := tokenReservedOnce ++ [.swapBatch, .writeBatch] ++ tokenReservedAgain
    let state := run (CachedToken.step ⟨true, true⟩) (CachedToken.initial ⟨100, 0⟩) events
    state.account.row = ⟨40, 60⟩ ∧ state.account.cached = some ⟨40, 60⟩ ∧
      CachedToken.HasTotal 100 state ∧
      state.account.reserved - state.account.credited ≤ 100 := by
  intro events state
  obtain ⟨total, covered⟩ := token_quota_conserved ⟨true, true⟩ ⟨100, 0⟩ events
  refine ⟨by decide, by decide, total, ?_⟩
  exact (covered (by decide)).resolve_left (by decide)

/-- A hash that is filled while the reservation is still queued has the old quota: 120 of
100 units are reserved. -/
theorem refilledToken_overdrawn :
    let events := tokenReservedOnce ++ tokenReservedAgain
    let state := run (CachedToken.step ⟨true, true⟩) (CachedToken.initial ⟨100, 0⟩) events
    (∀ event ∈ events, event.ReservesOrRefunds) ∧ state.account.pending = [] ∧
      state.account.row = ⟨100, 0⟩ ∧ state.account.queued = -120 ∧
      state.account.reserved = 120 ∧ state.account.credited = 0 :=
  ⟨by decide, by decide, by decide, by decide, by decide, by decide⟩

/-- With Redis, in every run of sound steps in which deltas of any sign are made, the hash of a
token is what its row becomes with the queue, while nothing else is under way. -/
theorem token_hash_is_flushed_row (settings : TokenSettings)
    (redis : settings.redisEnabled = true) (token : Token) (events : List TokenEvent)
    (guarded : Guarded (CachedToken.step settings) CachedToken.Sound (CachedToken.initial token)
      events) :
    let account := (run (CachedToken.step settings) (CachedToken.initial token) events).account
    account.pending = [] → account.flushing = 0 →
      ∀ held ∈ account.cached, held = account.row.book account.queued := by
  intro account rest written held member
  have coherent := WriteBehind.coherent_run settings.batchUpdateEnabled
    (rfl : (CachedToken.initial token).account = State.initial token)
    (fun state event sound => ⟨state.action settings event, CachedToken.sound_action redis sound,
      CachedToken.account_step settings state event⟩) events guarded
  have remaining : held.remainQuota = account.row.remainQuota + account.queued :=
    coherent.cached_eq rest written held member
  -- The used quota follows, since every copy keeps the total.
  have totals := CachedToken.hasTotal_run settings token events
  have total : held.total = account.row.total := (totals.hash held member).trans totals.row.symm
  cases held
  simp only [Token.total] at remaining total
  simp only [Token.book, Token.mk.injEq]
  constructor <;> omega

theorem queued_token_hash :
    let account :=
      (run (CachedToken.step ⟨true, true⟩) (CachedToken.initial ⟨100, 0⟩) tokenReservedOnce).account
    account.queued = -60 ∧ ⟨40, 60⟩ = account.row.book account.queued :=
  ⟨by decide, token_hash_is_flushed_row ⟨true, true⟩ rfl ⟨100, 0⟩ tokenReservedOnce (by decide)
    (by decide) (by decide) ⟨40, 60⟩ (by decide)⟩

end AiHub.Model

import AiHub.Library.Run
import Mathlib.Order.MinMax

/-!
# The fence of the auth version

Three keys of Redis guard the auth version of a user: the cached hash, a pending fence
that is set before a restrictive transaction, and the floor of the committed versions.
The scripts of `user_auth_cache.go` reject what is below either of them, and a reader that
finds a hash below them goes to the database.  The fence and the hash have a time to live
and may expire at any moment; the floor is written without one.

Of a user only the auth version is kept.  Every command on Redis or on the database is a
step of its own, and any call that is under way may go on next.
-/

namespace AiHub.Model

open AiHub.Library

/-! ## The scripts -/

/-- The `AuthVersion` of the hash, the pending fence and the committed floor. -/
structure AuthKeys where
  hash : Option Int
  fence : Option Int
  floor : Option Int
  deriving DecidableEq, Repr

namespace AuthKeys

/-- A key above the version rejects it. -/
def rejects (keys : AuthKeys) (incoming : Int) : Bool :=
  decide (incoming < keys.fence.getD 0) || decide (incoming < keys.floor.getD 0) ||
    decide (incoming < keys.hash.getD 0)

/-- The scripts are only run with a version above zero. -/
def accepts (keys : AuthKeys) (incoming : Int) : Bool :=
  decide (0 < incoming) && !keys.rejects incoming

/-- Raise the floor to a version, and drop a fence that is not above it. -/
def promote (keys : AuthKeys) (incoming : Int) : AuthKeys where
  hash := keys.hash
  fence := if 0 < keys.fence.getD 0 ∧ keys.fence.getD 0 ≤ incoming then none else keys.fence
  floor := if keys.floor.getD 0 < incoming then some incoming else keys.floor

/-- Write the hash.  Without the quota only a hash that is there is written. -/
def writeUserCache (keys : AuthKeys) (incoming : Int) (includeQuota : Bool) : AuthKeys :=
  if !keys.accepts incoming then keys
  else if !includeQuota && keys.hash.isNone then keys.promote incoming
  else { keys.promote incoming with hash := some incoming }

/-- Write a field of a hash of the same version, which keeps its version. -/
def updateUserCacheFieldAtVersion (keys : AuthKeys) (incoming : Int) : AuthKeys :=
  if !keys.accepts incoming then keys else keys.promote incoming

def setUserAuthVersionFence (keys : AuthKeys) (incoming : Int) : AuthKeys :=
  if keys.fence.getD 0 < incoming then { keys with fence := some incoming } else keys

def publishCommittedUserAuthVersion (keys : AuthKeys) (incoming : Int) : AuthKeys :=
  if incoming ≤ 0 then keys else keys.promote incoming

/-- The greater one of the fence and the floor. -/
def getUserAuthVersionFloor (keys : AuthKeys) : Int :=
  max 0 (max (keys.fence.getD 0) (keys.floor.getD 0))

end AuthKeys

/-! ## Calls under way -/

/-- What a call does next: `GetUserCache` reads the hash and checks it against the floor,
or reads the row, checks it and writes the hash; `PublishUserAuthCache` and the updates of
a field read the row and write; a bump publishes its version after the commit. -/
inductive AuthTask where
  | readHash
  | checkHash (version : Int)
  | readRow
  | checkRow (version : Int)
  | populate (version : Int)
  | readForRefresh
  | refresh (version : Int)
  | readForField
  | updateField (version : Int)
  | publish (version : Int)
  deriving DecidableEq, Repr

/-- The transaction of a bump, which holds the lock of the row: it has read the version,
set the fence, or updated the row. -/
inductive BumpTx where
  | locked (current : Int)
  | fenced (next : Int)
  | updated (next : Int)
  deriving DecidableEq, Repr

/-- A version that a reader was served from the cache, and the greatest version that had
been published by then. -/
structure ServedVersion where
  version : Int
  published : Int
  deriving DecidableEq, Repr

/-- A user: the committed version of the row, the transaction that holds its lock, the
keys, the calls under way, the greatest published version and what readers were served. -/
structure AuthUser where
  version : Int
  tx : Option BumpTx
  keys : AuthKeys
  tasks : List AuthTask
  published : Int
  served : List ServedVersion
  deriving DecidableEq, Repr

inductive AuthEvent where
  | getUserCache
  | publishUserAuthCache
  | updateUserCacheField
  | resume (index : Nat)
  | lock
  | incrementUserAuthVersion
  | commit
  | rollback
  | expireHash
  | expireFence
  | expireFloor
  deriving DecidableEq, Repr

namespace AuthUser

def initial (version : Int) : AuthUser := ⟨version, none, ⟨none, none, none⟩, [], 0, []⟩

def spawn (user : AuthUser) (task : AuthTask) : AuthUser :=
  { user with tasks := user.tasks ++ [task] }

/-- A task that was taken out goes on. -/
def perform (user : AuthUser) : AuthTask → AuthUser
  | .readHash =>
    match user.keys.hash with
    | none => user.spawn .readRow
    | some version => if version ≤ 0 then user.spawn .readRow else user.spawn (.checkHash version)
  | .checkHash version =>
    if version < user.keys.getUserAuthVersionFloor then user.spawn .readRow
    else { user with served := ⟨version, user.published⟩ :: user.served }
  | .readRow => user.spawn (.checkRow user.version)
  | .checkRow version =>
    if version < user.keys.getUserAuthVersionFloor then user else user.spawn (.populate version)
  | .populate version => { user with keys := user.keys.writeUserCache version true }
  | .readForRefresh => user.spawn (.refresh user.version)
  | .refresh version =>
    { user with
      keys := user.keys.writeUserCache version false
      published :=
        if user.keys.accepts version then max user.published version else user.published }
  | .readForField => user.spawn (.updateField user.version)
  | .updateField version => { user with keys := user.keys.updateUserCacheFieldAtVersion version }
  | .publish version =>
    { user with
      keys := user.keys.publishCommittedUserAuthVersion version
      published := max user.published version }

def resume (user : AuthUser) (index : Nat) : AuthUser :=
  match user.tasks[index]? with
  | none => user
  | some task => { user with tasks := user.tasks.eraseIdx index }.perform task

/-- The next step of `IncrementUserAuthVersionWithTx` after the row is locked. -/
def incrementUserAuthVersion (user : AuthUser) : AuthUser :=
  match user.tx with
  | some (.locked current) =>
    { user with
      keys := user.keys.setUserAuthVersionFence (max current 1 + 1)
      tx := some (.fenced (max current 1 + 1)) }
  | some (.fenced next) => { user with tx := some (.updated next) }
  | some (.updated _) | none => user

/-- The row has its new version, which is published later. -/
def commit (user : AuthUser) : AuthUser :=
  match user.tx with
  | some (.updated next) => { user with version := next, tx := none }.spawn (.publish next)
  | _ => user

def step (user : AuthUser) : AuthEvent → AuthUser
  | .getUserCache => user.spawn .readHash
  | .publishUserAuthCache => user.spawn .readForRefresh
  | .updateUserCacheField => user.spawn .readForField
  | .resume index => user.resume index
  | .lock => if user.tx = none then { user with tx := some (.locked user.version) } else user
  | .incrementUserAuthVersion => user.incrementUserAuthVersion
  | .commit => user.commit
  | .rollback => { user with tx := none }
  | .expireHash => { user with keys := { user.keys with hash := none } }
  | .expireFence => { user with keys := { user.keys with fence := none } }
  | .expireFloor => { user with keys := { user.keys with floor := none } }

end AuthUser

/-! ## Published versions stay published -/

namespace AuthKeys

variable (keys : AuthKeys) (incoming : Int)

/-- The floor after a promotion is the greater one of the two. -/
theorem floor_promote :
    (keys.promote incoming).floor.getD 0 = max (keys.floor.getD 0) incoming := by
  simp only [promote]
  split
  case isTrue below => exact (max_eq_right (le_of_lt below)).symm
  case isFalse notBelow => exact (max_eq_left (not_lt.mp notBelow)).symm

theorem floor_le_write (includeQuota : Bool) :
    keys.floor.getD 0 ≤ (keys.writeUserCache incoming includeQuota).floor.getD 0 := by
  have promoted := keys.floor_promote incoming
  unfold writeUserCache
  split
  · exact le_rfl
  · split
    · rw [promoted]
      exact le_max_left _ _
    · rw [promoted]
      exact le_max_left _ _

/-- An accepted write has raised the floor to its version. -/
theorem le_floor_write (includeQuota : Bool) (accepted : keys.accepts incoming = true) :
    incoming ≤ (keys.writeUserCache incoming includeQuota).floor.getD 0 := by
  have promoted := keys.floor_promote incoming
  simp only [writeUserCache, accepted, Bool.not_true, Bool.false_eq_true, if_false]
  split
  · rw [promoted]
    exact le_max_right _ _
  · rw [promoted]
    exact le_max_right _ _

theorem floor_le_updateField :
    keys.floor.getD 0 ≤ (keys.updateUserCacheFieldAtVersion incoming).floor.getD 0 := by
  unfold updateUserCacheFieldAtVersion
  split
  · exact le_rfl
  · rw [floor_promote]
    exact le_max_left _ _

theorem floor_setFence : (keys.setUserAuthVersionFence incoming).floor = keys.floor := by
  unfold setUserAuthVersionFence
  split <;> rfl

end AuthKeys

namespace AuthUser

/-- The floor is not below a published version, and no reader was served a version below
one that had been published. -/
structure Fenced (user : AuthUser) : Prop where
  nonneg : 0 ≤ user.published
  floor : user.published ≤ user.keys.floor.getD 0
  served : ∀ entry ∈ user.served, entry.published ≤ entry.version

variable {user : AuthUser}

theorem Fenced.spawn (fenced : user.Fenced) (task : AuthTask) : (user.spawn task).Fenced :=
  ⟨fenced.nonneg, fenced.floor, fenced.served⟩

/-- Keys whose floor is not lower keep it above what was published. -/
theorem Fenced.withKeys (fenced : user.Fenced) {keys : AuthKeys}
    (raised : user.keys.floor.getD 0 ≤ keys.floor.getD 0) :
    { user with keys := keys }.Fenced :=
  ⟨fenced.nonneg, fenced.floor.trans raised, fenced.served⟩

theorem Fenced.perform (fenced : user.Fenced) (task : AuthTask) : (user.perform task).Fenced := by
  cases task with
  | readHash =>
    simp only [AuthUser.perform]
    split
    · exact fenced.spawn _
    · split <;> exact fenced.spawn _
  | checkHash version =>
    simp only [AuthUser.perform]
    split
    case isTrue => exact fenced.spawn _
    case isFalse current =>
      refine ⟨fenced.nonneg, fenced.floor, ?_⟩
      intro entry member
      rcases List.mem_cons.mp member with rfl | before
      · have floor := fenced.floor
        simp only [AuthKeys.getUserAuthVersionFloor] at current
        simp only
        omega
      · exact fenced.served entry before
  | checkRow version =>
    simp only [AuthUser.perform]
    split
    · exact fenced
    · exact fenced.spawn _
  | readRow | readForRefresh | readForField => exact fenced.spawn _
  | populate version => exact fenced.withKeys (user.keys.floor_le_write version true)
  | refresh version =>
    have kept := fenced.withKeys (user.keys.floor_le_write version false)
    by_cases accepted : user.keys.accepts version = true
    · have raised := user.keys.le_floor_write version false accepted
      simp only [AuthUser.perform, if_pos accepted]
      exact ⟨le_max_of_le_left fenced.nonneg, max_le kept.floor raised, fenced.served⟩
    · simp only [AuthUser.perform, if_neg accepted]
      exact kept
  | updateField version => exact fenced.withKeys (user.keys.floor_le_updateField version)
  | publish version =>
    have floor := fenced.floor
    have nonneg := fenced.nonneg
    refine ⟨le_max_of_le_left nonneg, ?_, fenced.served⟩
    simp only [AuthUser.perform, AuthKeys.publishCommittedUserAuthVersion]
    split
    case isTrue => omega
    case isFalse =>
      rw [AuthKeys.floor_promote]
      exact max_le_max floor le_rfl

/-- What a step keeps that does not lose the floor. -/
theorem Fenced.step (fenced : user.Fenced) {event : AuthEvent} (keeps : event ≠ .expireFloor) :
    (user.step event).Fenced := by
  cases event with
  | getUserCache | publishUserAuthCache | updateUserCacheField => exact fenced.spawn _
  | resume index =>
    simp only [AuthUser.step, resume]
    split
    · exact fenced
    · apply Fenced.perform
      exact ⟨fenced.nonneg, fenced.floor, fenced.served⟩
  | lock =>
    simp only [AuthUser.step]
    split
    · exact ⟨fenced.nonneg, fenced.floor, fenced.served⟩
    · exact fenced
  | incrementUserAuthVersion =>
    simp only [AuthUser.step, incrementUserAuthVersion]
    split
    · refine ⟨fenced.nonneg, ?_, fenced.served⟩
      rw [AuthKeys.floor_setFence]
      exact fenced.floor
    · exact ⟨fenced.nonneg, fenced.floor, fenced.served⟩
    · exact fenced
    · exact fenced
  | commit =>
    simp only [AuthUser.step, AuthUser.commit]
    split
    · exact ⟨fenced.nonneg, fenced.floor, fenced.served⟩
    · exact fenced
  | rollback | expireHash | expireFence => exact ⟨fenced.nonneg, fenced.floor, fenced.served⟩
  | expireFloor => exact absurd rfl keeps

end AuthUser

/-- As long as the floor is not lost, which is written without a time to live, no reader is
served from the cache a version below one that has been published. -/
theorem served_not_below_published {version : Int} {events : List AuthEvent}
    (keepsFloor : .expireFloor ∉ events) :
    ∀ entry ∈ (run AuthUser.step (AuthUser.initial version) events).served,
      entry.published ≤ entry.version := by
  have guarded : Guarded AuthUser.step (fun _ event => event ≠ .expireFloor)
      (AuthUser.initial version) events := by
    apply guarded_of_forall
    rintro event member rfl
    exact keepsFloor member
  have start : (AuthUser.initial version).Fenced := ⟨le_rfl, le_rfl, by simp [AuthUser.initial]⟩
  have fenced : (run AuthUser.step (AuthUser.initial version) events).Fenced :=
    run_invariant (fun _ _ holds keeps => holds.step keeps) events start guarded
  exact fenced.served

/-- A reader has read the row and is about to write the hash, when a bump to the second
version is committed and published. -/
def delayedFill : List AuthEvent :=
  [.getUserCache, .resume 0, .resume 0, .resume 0, .lock, .incrementUserAuthVersion,
    .incrementUserAuthVersion, .commit, .resume 1]

/-- The hash is written from the old row, and another reader reads it. -/
def nextReader : List AuthEvent := [.resume 0, .getUserCache, .resume 0, .resume 0]

/-- The floor rejects the old row, and a reader that then fills the hash from the new row
makes the next one be served the published version. -/
theorem delayedFill_not_served :
    let events := delayedFill ++ nextReader ++
      [.resume 0, .resume 0, .getUserCache, .resume 0, .resume 0]
    (run AuthUser.step (AuthUser.initial 1) events).served = [⟨2, 2⟩] ∧
      ∀ entry ∈ (run AuthUser.step (AuthUser.initial 1) events).served,
        entry.published ≤ entry.version := by
  intro events
  exact ⟨by decide, served_not_below_published (by decide)⟩

/-- If the floor were lost, the old row would be served although the second version has
been published. -/
theorem lostFloor_serves_old_version :
    (run AuthUser.step (AuthUser.initial 1)
      (delayedFill ++ [.expireFloor] ++ nextReader)).served = [⟨1, 2⟩] := by
  decide

end AiHub.Model

import AiHub.Library.Run
import Mathlib.Algebra.Order.Ring.Int

/-!
# Limits on login sessions

A login counts the active sessions of the user, counts the sessions issued to the user within
the issuance window, and inserts a session if both counts are below their limits.  These are
three statements without a transaction.  Refreshes, revocations and the clean-up of old rows
happen in between.

Times are in seconds.  A login reads the clock once, at its start; the clean-up may use a
time that has passed.
-/

namespace AiHub.Model

inductive SessionStatus where
  | active
  | revoking
  | revoked
  deriving DecidableEq, Repr

end AiHub.Model

namespace AiHub.Service

open AiHub.Library AiHub.Model List

/-- The settings: `UserSessionActiveLimit`, `UserSessionIssuanceLimit`,
`UserSessionIssuanceWindowSeconds` and `UserSessionRevokedRetentionDays`. -/
structure SessionLimits where
  activeLimit : Nat
  issuanceLimit : Nat
  windowSeconds : Int
  retentionDays : Int
  deriving DecidableEq, Repr

/-- The columns of a session that the limits depend on. -/
structure UserSessionRow where
  sid : Nat
  userID : Int
  status : SessionStatus
  createdAt : Int
  lastActiveAt : Int
  expiresAt : Int
  revokedAt : Int
  deriving DecidableEq, Repr

/-- `LoginSessionTTL`, 30 days in seconds. -/
def loginSessionTTL : Int := 30 * 24 * 3600

/-- What `CountActiveUserSessions` counts. -/
def isActive (userID now : Int) (row : UserSessionRow) : Bool :=
  row.userID = userID ∧ row.status = .active ∧ row.expiresAt > now

/-- What `CountUserSessionsCreatedSince` counts for a user. -/
def isCreatedSince (userID createdAfter : Int) (row : UserSessionRow) : Bool :=
  row.createdAt > createdAfter ∧ row.userID = userID

/-- What a login does next. -/
inductive LoginPhase where
  | countActive
  | countIssued
  | insert
  deriving DecidableEq, Repr

/-- A call of `createLoginSession`: the user, the time read at its start, how many sessions
had been issued to the user when it counted the active ones, and what it does next. -/
structure LoginCall where
  userID : Int
  now : Int
  seen : Nat
  phase : LoginPhase
  deriving DecidableEq, Repr

/-- The table, the clock, the logins under way, and the rows as they were issued. -/
structure SessionStore where
  rows : List UserSessionRow
  clock : Int
  logins : List LoginCall
  issued : List UserSessionRow

namespace SessionStore

def initial (clock : Int) : SessionStore := ⟨[], clock, [], []⟩

def spawn (store : SessionStore) (login : LoginCall) : SessionStore :=
  { store with logins := store.logins ++ [login] }

/-- How many sessions were issued to a user. -/
def issuedTo (store : SessionStore) (userID : Int) : Nat :=
  store.issued.countP fun row => row.userID = userID

/-- `CountActiveUserSessions`; `none` is an error. -/
def countActiveUserSessions (store : SessionStore) (userID now : Int) : Option Nat :=
  if userID ≤ 0 then none
  else
    let now := if now ≤ 0 then store.clock else now
    some (store.rows.countP (isActive userID now))

/-- `CountUserSessionsCreatedSince` for a user; `none` is an error. -/
def countUserSessionsCreatedSince (store : SessionStore) (userID createdAfter : Int) :
    Option Nat :=
  if userID < 0 ∨ createdAfter ≤ 0 then none
  else some (store.rows.countP (isCreatedSince userID createdAfter))

/-- A row is inserted. -/
def issue (store : SessionStore) (row : UserSessionRow) : SessionStore :=
  { store with rows := store.rows ++ [row], issued := store.issued ++ [row] }

/-- `CreateUserSession` of a new session. -/
def createUserSession (store : SessionStore) (row : UserSessionRow) : SessionStore :=
  if row.userID ≤ 0 ∨ row.expiresAt ≤ store.clock then store else store.issue row

/-- The next statement of a login. -/
def advance (limits : SessionLimits) (store : SessionStore) (login : LoginCall) (sid : Nat) :
    SessionStore :=
  match login.phase with
  | .countActive =>
    match store.countActiveUserSessions login.userID login.now with
    | none => store
    | some activeCount =>
      if activeCount ≥ limits.activeLimit then store
      else
        store.spawn
          { login with seen := store.issuedTo login.userID, phase := .countIssued }
  | .countIssued =>
    match store.countUserSessionsCreatedSince login.userID
      (login.now - limits.windowSeconds) with
    | none => store
    | some issuanceCount =>
      if issuanceCount ≥ limits.issuanceLimit then store
      else store.spawn { login with phase := .insert }
  | .insert =>
    store.createUserSession
      ⟨sid, login.userID, .active, login.now, login.now, login.now + loginSessionTTL, 0⟩

/-- `RotateUserSessionRefresh` of a current secret, on the columns kept here. -/
def refresh (store : SessionStore) (sid : Nat) (now : Int) : SessionStore :=
  { store with
    rows := store.rows.map fun row =>
      if row.sid = sid ∧ row.status = .active ∧ row.revokedAt = 0 ∧ row.expiresAt > now then
        { row with lastActiveAt := now }
      else row }

/-- The update that revokes a session. -/
def revoke (store : SessionStore) (sid : Nat) : SessionStore :=
  { store with
    rows := store.rows.map fun row =>
      if row.sid = sid ∧ row.status = .active ∧ row.revokedAt = 0 then
        { row with status := .revoked, revokedAt := store.clock }
      else row }

/-- The rows that `DeleteExpiredUserSessions` deletes. -/
def isExpiredBefore (limits : SessionLimits) (now : Int) (row : UserSessionRow) : Bool :=
  row.expiresAt < now ∧ row.createdAt ≤ now - limits.windowSeconds ∧
    (row.status ≠ .revoked ∨ row.revokedAt ≤ 0 ∨
      row.revokedAt < now - limits.retentionDays * 24 * 60 * 60)

/-- The rows that `DeleteOldRevokedUserSessions` deletes. -/
def isRevokedBefore (limits : SessionLimits) (now : Int) (row : UserSessionRow) : Bool :=
  row.status = .revoked ∧ row.revokedAt > 0 ∧
    row.revokedAt < now - limits.retentionDays * 24 * 60 * 60 ∧
    row.createdAt ≤ now - limits.windowSeconds

/-- A statement of the clean-up, on a batch of the rows it has selected. -/
def cleanUp (limits : SessionLimits) (store : SessionStore) (now : Int) (sids : List Nat) :
    SessionStore :=
  { store with
    rows := store.rows.filter fun row =>
      !(row.sid ∈ sids ∧ (isExpiredBefore limits now row ∨ isRevokedBefore limits now row)) }

end SessionStore

/-- Time passes, a login starts or performs its next statement (with the key a new row would
get), a session is refreshed or revoked, or old rows are cleaned up. -/
inductive SessionAction where
  | tick (seconds : Nat)
  | login (userID : Int)
  | advance (index sid : Nat)
  | refresh (sid : Nat)
  | revoke (sid : Nat)
  | cleanUp (ago : Nat) (sids : List Nat)
  deriving DecidableEq, Repr

namespace SessionStore

def step (limits : SessionLimits) (store : SessionStore) : SessionAction → SessionStore
  | .tick seconds => { store with clock := store.clock + seconds }
  | .login userID => store.spawn ⟨userID, store.clock, 0, .countActive⟩
  | .advance index sid =>
    match store.logins[index]? with
    | none => store
    | some login => { store with logins := store.logins.eraseIdx index }.advance limits login sid
  | .refresh sid => store.refresh sid store.clock
  | .revoke sid => store.revoke sid
  | .cleanUp ago sids => store.cleanUp limits (store.clock - ago) sids

/-- When a login inserts its session, none has been issued to the user since it counted. -/
def unsurpassed (store : SessionStore) : SessionAction → Bool
  | .advance index _ =>
    match store.logins[index]? with
    | none => true
    | some login => login.phase ≠ .insert ∨ login.seen = store.issuedTo login.userID
  | _ => true

/-- How many active sessions the user has. -/
def active (store : SessionStore) (userID : Int) : Nat :=
  store.rows.countP (isActive userID store.clock)

/-- How many sessions were issued to the user within the issuance window. -/
def issuedWithin (limits : SessionLimits) (store : SessionStore) (userID : Int) : Nat :=
  store.issued.countP (isCreatedSince userID (store.clock - limits.windowSeconds))

/-! ## The invariant of unsurpassed runs -/

/-- A login that has counted knows that there is room, unless it has been surpassed. -/
structure LoginSound (limits : SessionLimits) (store : SessionStore) (login : LoginCall) :
    Prop where
  past : login.now ≤ store.clock
  seen : login.phase ≠ .countActive → login.seen ≤ store.issuedTo login.userID
  activeRoom : login.phase ≠ .countActive → login.seen = store.issuedTo login.userID →
    store.active login.userID < limits.activeLimit
  issuedRoom : login.phase = .insert → login.seen = store.issuedTo login.userID →
    store.issuedWithin limits login.userID < limits.issuanceLimit

/-- The limits hold, and the rows of the issuance window are all still there. -/
structure Limited (limits : SessionLimits) (store : SessionStore) : Prop where
  activeBound : ∀ userID, store.active userID ≤ limits.activeLimit
  issuedBound : ∀ userID, store.issuedWithin limits userID ≤ limits.issuanceLimit
  kept : ∀ userID since, store.clock - limits.windowSeconds ≤ since →
    store.rows.countP (isCreatedSince userID since) =
      store.issued.countP (isCreatedSince userID since)
  logins : ∀ login ∈ store.logins, LoginSound limits store login

section Steps

variable {limits : SessionLimits} {store : SessionStore}

/-- Active sessions may become fewer, time may pass, and calls may end. -/
theorem Limited.shrink (limited : Limited limits store) {rows : List UserSessionRow} {clock : Int}
    {logins : List LoginCall} (later : store.clock ≤ clock)
    (fewer : ∀ userID, rows.countP (isActive userID clock) ≤ store.active userID)
    (kept : ∀ userID since, clock - limits.windowSeconds ≤ since →
      rows.countP (isCreatedSince userID since) = store.rows.countP (isCreatedSince userID since))
    (calls : ∀ login ∈ logins, login ∈ store.logins) :
    Limited limits { store with rows := rows, clock := clock, logins := logins } := by
  have within : ∀ userID, store.issued.countP
      (isCreatedSince userID (clock - limits.windowSeconds)) ≤
      store.issuedWithin limits userID := by
    intro userID
    apply countP_mono_left
    intro row _ since
    obtain ⟨recent, same⟩ := of_decide_eq_true since
    exact decide_eq_true ⟨by omega, same⟩
  constructor
  · exact fun userID => (fewer userID).trans (limited.activeBound userID)
  · exact fun userID => (within userID).trans (limited.issuedBound userID)
  · intro userID since recent
    simp only at recent ⊢
    rw [kept userID since recent]
    exact limited.kept userID since (by omega)
  · intro login member
    have sound := limited.logins login (calls login member)
    exact ⟨sound.past.trans later, sound.seen,
      fun phase same => (fewer _).trans_lt (sound.activeRoom phase same),
      fun phase same => (within _).trans_lt (sound.issuedRoom phase same)⟩

theorem Limited.tick (limited : Limited limits store) (seconds : Nat) :
    Limited limits { store with clock := store.clock + seconds } := by
  refine limited.shrink (by omega) ?_ (fun _ _ _ => rfl) (fun _ => id)
  intro userID
  apply countP_mono_left
  intro row _ active
  obtain ⟨same, status, unexpired⟩ := of_decide_eq_true active
  exact decide_eq_true ⟨same, status, by omega⟩

/-- A statement that changes rows one by one, and none to active. -/
theorem Limited.mapRows (limited : Limited limits store) {change : UserSessionRow → UserSessionRow}
    (same : ∀ row, (change row).userID = row.userID ∧ (change row).createdAt = row.createdAt ∧
      (change row).expiresAt = row.expiresAt)
    (status : ∀ row, (change row).status = .active → row.status = .active) :
    Limited limits { store with rows := store.rows.map change } := by
  refine limited.shrink le_rfl ?_ ?_ (fun _ => id)
  · intro userID
    rw [countP_map]
    apply countP_mono_left
    intro row _ active
    obtain ⟨user, isActive, unexpired⟩ := of_decide_eq_true active
    obtain ⟨sameUser, -, sameExpiry⟩ := same row
    exact decide_eq_true ⟨sameUser ▸ user, status row isActive, sameExpiry ▸ unexpired⟩
  · intro userID since _
    rw [countP_map]
    congr 1
    funext row
    obtain ⟨sameUser, sameCreation, -⟩ := same row
    simp [isCreatedSince, sameUser, sameCreation]

variable {now userID : Int} {login : LoginCall} {count : Nat} {row : UserSessionRow}

theorem Limited.cleanUp (limited : Limited limits store) (past : now ≤ store.clock)
    (sids : List Nat) : Limited limits (store.cleanUp limits now sids) := by
  refine limited.shrink le_rfl ?_ ?_ (fun _ => id)
  · exact fun userID => filter_sublist.countP_le
  · intro userID since recent
    rw [countP_filter]
    apply countP_congr
    intro row _
    -- What is deleted was created before the window.
    simp only [Bool.and_eq_true, Bool.not_eq_true', decide_eq_false_iff_not, and_iff_left_iff_imp]
    intro created deleted
    have after := (of_decide_eq_true created).1
    rcases deleted.2 with expired | revoked
    · have before := (of_decide_eq_true expired).2.1
      omega
    · have before := (of_decide_eq_true revoked).2.2.2
      omega

theorem Limited.spawn (limited : Limited limits store) (sound : LoginSound limits store login) :
    Limited limits (store.spawn login) := by
  refine ⟨limited.activeBound, limited.issuedBound, limited.kept, ?_⟩
  intro other member
  have otherSound : LoginSound limits store other := by
    rcases mem_append.mp member with old | new
    · exact limited.logins other old
    · rw [mem_singleton.mp new]
      exact sound
  exact ⟨otherSound.past, otherSound.seen, otherSound.activeRoom, otherSound.issuedRoom⟩

/-- An active count at an earlier time is at least the present one. -/
theorem active_le_count (past : now ≤ store.clock)
    (counted : store.countActiveUserSessions userID now = some count) :
    store.active userID ≤ count := by
  unfold countActiveUserSessions at counted
  split at counted
  · cases counted
  cases counted
  apply countP_mono_left
  intro row _ active
  obtain ⟨same, status, unexpired⟩ := of_decide_eq_true active
  refine decide_eq_true ⟨same, status, ?_⟩
  split
  · exact unexpired
  · omega

/-- An issuance count at an earlier time is at least the present one. -/
theorem Limited.issuedWithin_le_count (limited : Limited limits store) (past : now ≤ store.clock)
    (counted : store.countUserSessionsCreatedSince userID (now - limits.windowSeconds) =
      some count) :
    store.issuedWithin limits userID ≤ count := by
  unfold countUserSessionsCreatedSince at counted
  split at counted
  · cases counted
  cases counted
  rw [issuedWithin, ← limited.kept userID _ le_rfl]
  apply countP_mono_left
  intro row _ since
  obtain ⟨recent, same⟩ := of_decide_eq_true since
  exact decide_eq_true ⟨by omega, same⟩

theorem issuedTo_issue (store : SessionStore) (row : UserSessionRow) (userID : Int) :
    (store.issue row).issuedTo userID =
      store.issuedTo userID + if row.userID = userID then 1 else 0 := by
  simp [issuedTo, issue]

/-- A new row counts for its own user only. -/
theorem countP_issue_le {accept : UserSessionRow → Bool} (own : accept row → row.userID = userID)
    (rows : List UserSessionRow) :
    (rows ++ [row]).countP accept ≤ rows.countP accept + if row.userID = userID then 1 else 0 := by
  rw [countP_append, countP_singleton]
  by_cases accepted : accept row
  · rw [if_pos accepted, if_pos (own accepted)]
  · rw [if_neg accepted]
    exact Nat.le_add_right _ _

/-- A session is inserted for a user with room for it. -/
theorem Limited.issue (limited : Limited limits store)
    (activeRoom : store.active row.userID < limits.activeLimit)
    (issuedRoom : store.issuedWithin limits row.userID < limits.issuanceLimit) :
    Limited limits (store.issue row) := by
  have activeAfter : ∀ userID, (store.issue row).active userID ≤
      store.active userID + if row.userID = userID then 1 else 0 :=
    fun userID => countP_issue_le (fun accepted => (of_decide_eq_true accepted).1) store.rows
  have issuedAfter : ∀ userID, (store.issue row).issuedWithin limits userID ≤
      store.issuedWithin limits userID + if row.userID = userID then 1 else 0 :=
    fun userID => countP_issue_le (fun accepted => (of_decide_eq_true accepted).2) store.issued
  constructor
  · intro userID
    have before := limited.activeBound userID
    have after := activeAfter userID
    split at after
    · subst userID
      omega
    · omega
  · intro userID
    have before := limited.issuedBound userID
    have after := issuedAfter userID
    split at after
    · subst userID
      omega
    · omega
  · intro userID since recent
    simp only [SessionStore.issue, countP_append, limited.kept userID since recent]
  · intro login member
    have sound := limited.logins login member
    have issuedTo := issuedTo_issue store row login.userID
    have after := activeAfter login.userID
    have within := issuedAfter login.userID
    -- A login of the same user has been surpassed; for others nothing changes.
    refine ⟨sound.past, ?_, ?_, ?_⟩
    · intro phase
      have seen := sound.seen phase
      omega
    · intro phase same
      have seen := sound.seen phase
      split at issuedTo
      · omega
      · have room := sound.activeRoom phase (by omega)
        rw [if_neg ‹_›] at after
        omega
    · intro phase same
      have seen := sound.seen (by simp [phase])
      split at issuedTo
      · omega
      · have room := sound.issuedRoom phase (by omega)
        rw [if_neg ‹_›] at within
        omega

theorem Limited.advance (limited : Limited limits store) {index : Nat}
    (found : store.logins[index]? = some login) (sid : Nat)
    (unsurpassed : login.phase = .insert → login.seen = store.issuedTo login.userID) :
    Limited limits
      (advance limits { store with logins := store.logins.eraseIdx index } login
        sid) := by
  have sound := limited.logins login (mem_of_getElem? found)
  have rest : Limited limits { store with logins := store.logins.eraseIdx index } :=
    limited.shrink le_rfl (fun _ => le_rfl) (fun _ _ _ => rfl) (fun _ => mem_of_mem_eraseIdx)
  unfold SessionStore.advance
  cases phase : login.phase with
  | countActive =>
    simp only
    split
    · exact rest
    · rename_i count counted
      split
      · exact rest
      · have most := active_le_count sound.past counted
        refine rest.spawn ⟨sound.past, fun _ => le_rfl, fun _ _ => ?_, by simp⟩
        exact most.trans_lt (by omega)
  | countIssued =>
    have counting : login.phase ≠ .countActive := by simp [phase]
    simp only
    split
    · exact rest
    · rename_i count counted
      split
      · exact rest
      · have most := rest.issuedWithin_le_count sound.past counted
        refine rest.spawn ⟨sound.past, fun _ => sound.seen counting,
          fun _ => sound.activeRoom counting, fun _ _ => ?_⟩
        exact most.trans_lt (by omega)
  | insert =>
    have same := unsurpassed phase
    simp only [createUserSession]
    split
    · exact rest
    · exact rest.issue (sound.activeRoom (by simp [phase]) same) (sound.issuedRoom phase same)

theorem Limited.step (limited : Limited limits store) {action : SessionAction}
    (unsurpassed : store.unsurpassed action) : Limited limits (store.step limits action) := by
  cases action with
  | tick seconds => exact limited.tick seconds
  | login userID => exact limited.spawn ⟨le_rfl, by simp, by simp, by simp⟩
  | advance index sid =>
    simp only [SessionStore.unsurpassed] at unsurpassed
    simp only [SessionStore.step]
    split
    · exact limited
    · rename_i login found
      refine limited.advance found sid fun phase => ?_
      simpa [found, phase] using unsurpassed
  | refresh sid =>
    refine limited.mapRows ?_ ?_
    · intro row
      split <;> exact ⟨rfl, rfl, rfl⟩
    · intro row
      split <;> exact id
  | revoke sid =>
    refine limited.mapRows ?_ ?_
    · intro row
      split <;> exact ⟨rfl, rfl, rfl⟩
    · intro row
      split
      · exact fun active => by cases active
      · exact id
  | cleanUp ago sids => exact limited.cleanUp (by omega) sids

end Steps

end SessionStore

open SessionStore

/-- In every run in which no login is surpassed, a user never has more active sessions than
the limit, nor more sessions issued within the window than the issuance limit. -/
theorem sessions_within_limits (limits : SessionLimits) (clock : Int) (actions : List SessionAction)
    (unsurpassed : Guarded (step limits) (fun store action => store.unsurpassed action)
      (initial clock) actions) (userID : Int) :
    (run (step limits) (initial clock) actions).active userID ≤ limits.activeLimit ∧
    (run (step limits) (initial clock) actions).issuedWithin limits userID ≤
      limits.issuanceLimit := by
  have limited := @run_invariant _ _ _ _ _ (Limited limits)
    (fun _ _ limited unsurpassed => limited.step unsurpassed) actions
    ⟨fun _ => Nat.zero_le _, fun _ => Nat.zero_le _, fun _ _ _ => rfl, by simp [initial]⟩
    unsurpassed
  exact ⟨limited.activeBound userID, limited.issuedBound userID⟩

/-- Two logins one after the other under a limit of one: the second is refused. -/
theorem successive_logins_within_limits :
    let actions : List SessionAction :=
      [.login 7, .advance 0 1, .advance 0 1, .advance 0 1, .login 7, .advance 0 2]
    (run (step ⟨1, 100, 86400, 30⟩) (initial 100000) actions).active 7 ≤ 1 ∧
    (run (step ⟨1, 100, 86400, 30⟩) (initial 100000) actions).issuedWithin ⟨1, 100, 86400, 30⟩ 7 ≤
      100 :=
  sessions_within_limits ⟨1, 100, 86400, 30⟩ 100000 _ (by decide) 7

/-- Two logins that both count before either inserts exceed both limits of one. -/
theorem concurrent_logins_exceed_limits :
    let store := run (step ⟨1, 1, 86400, 30⟩) (initial 100000)
      [.login 7, .login 7, .advance 0 1, .advance 0 2, .advance 0 1, .advance 0 2,
        .advance 0 1, .advance 0 2]
    store.active 7 = 2 ∧ store.issuedWithin ⟨1, 1, 86400, 30⟩ 7 = 2 := by
  decide

end AiHub.Service

import AiHub.Model.Subscription.Quota

/-!
# The batches of the maintenance task

`ExpireDueSubscriptions` and `ResetDueSubscriptions` each read one batch of due
rows, work it off and report a count.  An expiry counts the rows it marked; a
reset counts the rows it looked at under their lock, whether or not the plan let
it change them.
-/

namespace AiHub.Model

open AiHub.Library AiHub.Common List

/-- The number of rows a batch may have. -/
def batchLimit (limit : Nat) : Nat := if limit = 0 then 200 else limit

/-! ## Expiry -/

/-- An active row whose end has come, of whichever user. -/
def UserSubscription.hasEnded (now : Int) (sub : UserSubscription) : Bool :=
  decide (sub.status = .active) && decide (0 < sub.endTime) && decide (sub.endTime ≤ now)

/-- The rows whose expiry is due, the earliest end first. -/
def expiryBatch (now : Int) (limit : Nat) (db : Database) : List (Nat × UserSubscription) :=
  (db.userSubscriptions.selectOrdered (fun _ sub => sub.hasEnded now) endsBefore).take
    (batchLimit limit)

/-- The users of a batch, each once. -/
def batchUsers (batch : List (Nat × UserSubscription)) : List Nat :=
  ((batch.map fun entry => entry.2.userId).filter fun userId => decide (0 < userId)).dedup

/-- The expiry of one user; the count grows by the rows that were marked. -/
def expireUser (now : Int) (state : Nat × Database) (userId : Nat) : Nat × Database :=
  (state.1 + (state.2.userSubscriptions.select fun _ sub => isDue userId now sub).length,
    expireUserSubscriptions now userId state.2)

def expireDueSubscriptions (now : Int) (limit : Nat) (db : Database) : Nat × Database :=
  (batchUsers (expiryBatch now limit db)).foldl (expireUser now) (0, db)

/-- The rows whose expiry is due. -/
def expiryBacklog (now : Int) (db : Database) : Nat :=
  (db.userSubscriptions.select fun _ sub => sub.hasEnded now).length

theorem isDue_eq (userId : Nat) (now : Int) (sub : UserSubscription) :
    isDue userId now sub = (decide (sub.userId = userId) && sub.hasEnded now) := by
  simp only [isDue, UserSubscription.hasEnded, Bool.and_assoc]

/-- The expiry of a user takes the rows it marks off the backlog. -/
theorem expiryBacklog_expireUser (now : Int) (userId : Nat) (state : Nat × Database) :
    expiryBacklog now (expireUser now state userId).2 + (expireUser now state userId).1 =
      expiryBacklog now state.2 + state.1 := by
  have marked : (((markExpired now userId state.2).userSubscriptions.select
        fun _ sub => sub.hasEnded now).length +
      (state.2.userSubscriptions.select fun _ sub => isDue userId now sub).length) =
      (state.2.userSubscriptions.select fun _ sub => sub.hasEnded now).length := by
    simp only [markExpired]
    apply Table.length_select_updateWhere
    · intro entry _ due
      rw [isDue_eq, Bool.and_eq_true] at due
      exact due.2
    · intro _ _ _
      rfl
  simp only [expireUser, expiryBacklog, expireUserSubscriptions_userSubscriptions]
  omega

/-- A batch takes as many rows off the backlog as it reports. -/
theorem expiryBacklog_expireDueSubscriptions (now : Int) (limit : Nat) (db : Database) :
    expiryBacklog now (expireDueSubscriptions now limit db).2 +
      (expireDueSubscriptions now limit db).1 = expiryBacklog now db := by
  have fold : ∀ (users : List Nat) (state : Nat × Database),
      expiryBacklog now (users.foldl (expireUser now) state).2 +
        (users.foldl (expireUser now) state).1 = expiryBacklog now state.2 + state.1 := by
    intro users
    induction users with
    | nil => intro state; rfl
    | cons userId rest ih =>
      intro state
      rw [foldl_cons, ih, expiryBacklog_expireUser]
  exact fold (batchUsers (expiryBatch now limit db)) (0, db)

/-! ## Resets -/

/-- An active row whose next reset has come. -/
def UserSubscription.awaitsReset (now : Int) (sub : UserSubscription) : Bool :=
  decide (0 < sub.nextResetTime) && decide (sub.nextResetTime ≤ now) &&
    decide (sub.status = .active)

/-- `ORDER BY next_reset_time ASC`; rows of one time stay in the order of the table. -/
def resetsBefore (left right : Nat × UserSubscription) : Prop :=
  left.2.nextResetTime ≤ right.2.nextResetTime

instance : DecidableRel resetsBefore := fun _ _ => inferInstanceAs (Decidable (_ ≤ _))

/-- The rows whose reset is due, the earliest first. -/
def resetBatch (now : Int) (limit : Nat) (db : Database) : List (Nat × UserSubscription) :=
  (db.userSubscriptions.selectOrdered (fun _ sub => sub.awaitsReset now) resetsBefore).take
    (batchLimit limit)

/-- The row that the transaction locks: the one of the batch if its reset is still
due. -/
def lockedDueRow (now : Int) (id : Nat) (db : Database) : Option UserSubscription :=
  (db.userSubscriptions.find? id).filter fun sub =>
    decide (0 < sub.nextResetTime) && decide (sub.nextResetTime ≤ now)

/-- One row of the batch.  A row without a readable plan is passed over; any other
is counted, even if the reset leaves it as it is. -/
def resetDueRow (env : Env) (state : Nat × Database) (entry : Nat × UserSubscription) :
    Option (Nat × Database) :=
  match getSubscriptionPlanById env entry.2.planId with
  | .error _ => some state
  | .ok plan =>
    match lockedDueRow env.now entry.1 state.2 with
    | none => some state
    | some locked =>
      match maybeResetUserSubscriptionWithPlan env.zone locked plan env.now with
      | none => none
      | some after => some (state.1 + 1, state.2.setSubscription entry.1 after)

/-- One batch of resets: the count and the tables, or `none` when the catch-up loop
of some row does not end. -/
def resetDueSubscriptions (env : Env) (limit : Nat) (db : Database) : Option (Nat × Database) :=
  (resetBatch env.now limit db).foldlM (resetDueRow env) (0, db)

/-- The rows whose reset is due. -/
def resetBacklog (now : Int) (db : Database) : Nat :=
  (db.userSubscriptions.select fun _ sub => sub.awaitsReset now).length

/-! ## What a reset does to a due row -/

/-- The plan of a row can be read. -/
def UserSubscription.hasPlan (env : Env) (sub : UserSubscription) : Bool :=
  (getSubscriptionPlanById env sub.planId).toBool

/-- Under its present plan, a period boundary counted from the last reset of the
row has passed. -/
def UserSubscription.periodPassed (env : Env) (sub : UserSubscription) : Bool :=
  match getSubscriptionPlanById env sub.planId with
  | .error _ => false
  | .ok plan => resetIsDue env.zone sub plan env.now

/-- The catch-up loop of the row ends. -/
def UserSubscription.catchesUp (env : Env) (sub : UserSubscription) : Bool :=
  match getSubscriptionPlanById env sub.planId with
  | .error _ => true
  | .ok plan => (maybeResetUserSubscriptionWithPlan env.zone sub plan env.now).isSome

/-- The catch-up loop stops at a boundary that is not due. -/
theorem advanceReset_done {zone : Zone} {plan : SubscriptionPlan} {endTime now : Int} {fuel : Nat}
    {base next lastBase following : Int}
    (done : advanceReset zone plan endTime now fuel base next = some (lastBase, following)) :
    ¬ (0 < following ∧ following ≤ now) := by
  induction fuel generalizing base next with
  | zero =>
    unfold advanceReset at done
    split at done
    · cases done
    · rename_i isOver
      cases done
      exact isOver
  | succ fuel ih =>
    unfold advanceReset at done
    split at done
    · exact ih done
    · rename_i isOver
      cases done
      exact isOver

/-- A due row leaves the backlog if a boundary of its period has passed, and is
left as it is otherwise. -/
theorem maybeReset_due {zone : Zone} {sub after : UserSubscription} {plan : SubscriptionPlan}
    {now : Int} (due : 0 < sub.nextResetTime ∧ sub.nextResetTime ≤ now)
    (done : maybeResetUserSubscriptionWithPlan zone sub plan now = some after) :
    if resetIsDue zone sub plan now then after.awaitsReset now = false else after = sub := by
  unfold maybeResetUserSubscriptionWithPlan at done
  rw [if_neg (by omega)] at done
  split at done
  · rename_i never
    cases done
    simp [resetIsDue, never]
  · rename_i periodic
    simp only at done
    split at done
    · cases done
    rename_i base following stopped
    split at done
    · rename_i passed
      cases done
      have isOver := advanceReset_done stopped
      split
      · simp only [UserSubscription.awaitsReset, Bool.and_eq_false_iff, decide_eq_false_iff_not]
        exact .inl (not_and_or.mp isOver)
      · rename_i notDue
        exact absurd (by
          simp only [resetIsDue, Bool.and_eq_true, Bool.not_eq_true', Bool.and_eq_false_iff,
            decide_eq_true_eq, decide_eq_false_iff_not]
          exact ⟨⟨.inr (by omega), periodic⟩, passed⟩) notDue
    · rename_i notPassed
      have notDue : resetIsDue zone sub plan now = false := by
        simp only [resetIsDue, Bool.and_eq_false_iff, decide_eq_false_iff_not]
        exact .inr notPassed
      rw [if_neg (by omega)] at done
      cases done
      simp [notDue]

/-! ## What a batch does -/

section Batch

variable {env : Env}

/-- What the rest of a batch finds: distinct rows, stored as they were read, whose
reset is due. -/
structure Pending (now : Int) (db : Database) (batch : List (Nat × UserSubscription)) : Prop where
  distinct : (batch.map Prod.fst).Nodup
  stored : ∀ entry ∈ batch, db.userSubscriptions.find? entry.1 = some entry.2
  due : ∀ entry ∈ batch, entry.2.awaitsReset now = true

theorem pending_resetBatch (now : Int) (limit : Nat) (db : Database) :
    Pending now db (resetBatch now limit db) := by
  have selected : ∀ entry ∈ resetBatch now limit db,
      db.userSubscriptions.find? entry.1 = some entry.2 ∧ entry.2.awaitsReset now = true := by
    intro entry member
    exact (Table.mem_selectOrdered _ _ _ _ _).mp (mem_of_mem_take member)
  refine ⟨?_, fun entry member => (selected entry member).1,
    fun entry member => (selected entry member).2⟩
  exact ((take_sublist _ _).map Prod.fst).nodup (Table.selectOrdered_keys_nodup _ _ _)

/-- The rest of the batch is not touched by the write of its first row. -/
theorem Pending.tail {now : Int} {db next : Database} {entry : Nat × UserSubscription}
    {rest : List (Nat × UserSubscription)} (pending : Pending now db (entry :: rest))
    (untouched : ∀ id, id ≠ entry.1 →
      next.userSubscriptions.find? id = db.userSubscriptions.find? id) :
    Pending now next rest := by
  have distinct := pending.distinct
  rw [map_cons, nodup_cons] at distinct
  refine ⟨distinct.2, fun other member => ?_, fun other member =>
    pending.due other (mem_cons_of_mem _ member)⟩
  have different : other.1 ≠ entry.1 := by
    intro same
    exact distinct.1 (mem_map.mpr ⟨other, member, same⟩)
  rw [untouched other.1 different]
  exact pending.stored other (mem_cons_of_mem _ member)

/-- What one row of the batch does: nothing without a plan, and otherwise it is
counted and leaves the backlog if its period has passed. -/
theorem resetDueRow_spec {state : Nat × Database} {entry : Nat × UserSubscription}
    (stored : state.2.userSubscriptions.find? entry.1 = some entry.2)
    (due : entry.2.awaitsReset env.now = true) :
    match resetDueRow env state entry with
    | none => entry.2.catchesUp env = false
    | some after =>
      entry.2.catchesUp env = true ∧
      after.1 = state.1 + (if entry.2.hasPlan env then 1 else 0) ∧
      resetBacklog env.now after.2 + (if entry.2.periodPassed env then 1 else 0) =
        resetBacklog env.now state.2 ∧
      (entry.2.periodPassed env = false → after.2 = state.2) ∧
      ∀ id, id ≠ entry.1 →
        after.2.userSubscriptions.find? id = state.2.userSubscriptions.find? id := by
  simp only [UserSubscription.awaitsReset, Bool.and_eq_true, decide_eq_true_eq] at due
  have locked : lockedDueRow env.now entry.1 state.2 = some entry.2 := by
    simp [lockedDueRow, stored, due.1.1, due.1.2]
  unfold resetDueRow UserSubscription.catchesUp UserSubscription.hasPlan
    UserSubscription.periodPassed
  cases found : getSubscriptionPlanById env entry.2.planId with
  | error err => simp [Except.toBool]
  | ok plan =>
    simp only [locked]
    cases reset : maybeResetUserSubscriptionWithPlan env.zone entry.2 plan env.now with
    | none => simp
    | some after =>
      have result := maybeReset_due due.1 reset
      simp only [Except.toBool, if_true, Option.isSome_some, true_and]
      have others : ∀ id, id ≠ entry.1 →
          (state.2.setSubscription entry.1 after).userSubscriptions.find? id =
            state.2.userSubscriptions.find? id :=
        fun id different => Table.find?_set_of_ne _ _ different
      split at result
      · rename_i passed
        rw [if_pos passed]
        refine ⟨?_, fun notPassed => ?_, others⟩
        · refine Table.length_select_set stored ?_ result
          simp [UserSubscription.awaitsReset, due.1.1, due.1.2, due.2]
        · rw [passed] at notPassed
          cases notPassed
      · rename_i notPassed
        have unchanged : state.2.setSubscription entry.1 after = state.2 := by
          rw [result]
          simp only [Database.setSubscription, Table.set_stored stored]
        rw [if_neg notPassed, unchanged]
        exact ⟨rfl, fun _ => rfl, fun _ _ => rfl⟩

/-- What a whole batch does: every row with a plan is counted, and those whose
period has passed leave the backlog. -/
theorem foldlM_resetDueRow {batch : List (Nat × UserSubscription)} {state : Nat × Database}
    (pending : Pending env.now state.2 batch) :
    match batch.foldlM (resetDueRow env) state with
    | none => ∃ entry ∈ batch, entry.2.catchesUp env = false
    | some after =>
      (∀ entry ∈ batch, entry.2.catchesUp env = true) ∧
      after.1 = state.1 + batch.countP (fun entry => entry.2.hasPlan env) ∧
      resetBacklog env.now after.2 + batch.countP (fun entry => entry.2.periodPassed env) =
        resetBacklog env.now state.2 ∧
      (batch.countP (fun entry => entry.2.periodPassed env) = 0 → after.2 = state.2) := by
  induction batch generalizing state with
  | nil => simp
  | cons entry rest ih =>
    have row := resetDueRow_spec (pending.stored entry (mem_cons_self ..))
      (pending.due entry (mem_cons_self ..))
    rw [foldlM_cons]
    cases first : resetDueRow env state entry with
    | none =>
      rw [first] at row
      exact ⟨entry, mem_cons_self .., row⟩
    | some middle =>
      rw [first] at row
      obtain ⟨ends, counted, backlog, unchanged, others⟩ := row
      have later := ih (pending.tail others)
      simp only [Option.bind_eq_bind, Option.bind_some]
      cases done : rest.foldlM (resetDueRow env) middle with
      | none =>
        rw [done] at later
        obtain ⟨other, member, hangs⟩ := later
        exact ⟨other, mem_cons_of_mem _ member, hangs⟩
      | some after =>
        rw [done] at later
        obtain ⟨restEnds, restCounted, restBacklog, restUnchanged⟩ := later
        refine ⟨forall_mem_cons.mpr ⟨ends, restEnds⟩, ?_, ?_, ?_⟩
        · rw [countP_cons, restCounted, counted]
          omega
        · rw [countP_cons]
          omega
        · intro none
          rw [countP_cons] at none
          rw [restUnchanged (by omega), unchanged]
          by_contra passed
          simp [passed] at none

end Batch

/-- A batch of resets that ends reports the rows with a plan and takes those whose
period has passed off the backlog; it does not end if the catch-up of one of its
rows does not. -/
theorem resetDueSubscriptions_spec (env : Env) (limit : Nat) (db : Database) :
    match resetDueSubscriptions env limit db with
    | none => ∃ entry ∈ resetBatch env.now limit db, entry.2.catchesUp env = false
    | some after =>
      (∀ entry ∈ resetBatch env.now limit db, entry.2.catchesUp env = true) ∧
      after.1 = (resetBatch env.now limit db).countP (fun entry => entry.2.hasPlan env) ∧
      resetBacklog env.now after.2 +
          (resetBatch env.now limit db).countP (fun entry => entry.2.periodPassed env) =
        resetBacklog env.now db ∧
      ((resetBatch env.now limit db).countP (fun entry => entry.2.periodPassed env) = 0 →
        after.2 = db) := by
  have batch := @foldlM_resetDueRow env _ (0, db) (pending_resetBatch env.now limit db)
  simpa only [resetDueSubscriptions, Nat.zero_add] using batch

end AiHub.Model

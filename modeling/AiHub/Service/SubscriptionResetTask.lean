import AiHub.Library.Batches
import AiHub.Model.Subscription.Due
import AiHub.Model.Subscription.Replace

/-!
# The maintenance task of subscriptions

One round of the task works off the rows whose expiry is due and then the rows
whose reset is due, in batches of 300, and goes on as long as a batch comes back
full.  The clock is read once: a round is taken at one moment.  An error of the
database ends the round at once and is left out.
-/

namespace AiHub.Service

open AiHub.Library AiHub.Model List

def subscriptionResetBatchSize : Nat := 300

def expireCall (env : Env) (db : Database) : Option (Nat × Database) :=
  some (expireDueSubscriptions env.now subscriptionResetBatchSize db)

def resetCall (env : Env) (db : Database) : Option (Nat × Database) :=
  resetDueSubscriptions env subscriptionResetBatchSize db

/-- Both loops; a report of zero is a short batch too. -/
def runSubscriptionQuotaResetOnce (env : Env) (fuel : Nat) (db : Database) : Option Database :=
  (untilShort (expireCall env) subscriptionResetBatchSize fuel db).bind
    (untilShort (resetCall env) subscriptionResetBatchSize fuel)

/-- The tables after the loop over expiries. -/
def Swept (env : Env) (db swept : Database) : Prop :=
  ∃ fuel, untilShort (expireCall env) subscriptionResetBatchSize fuel db = some swept

/-- A batch of resets gets on: the catch-up of each of its rows ends, and if all of
300 rows have a plan then for one of them a boundary of its period has passed. -/
def BatchProgresses (env : Env) (db : Database) : Prop :=
  let batch := resetBatch env.now subscriptionResetBatchSize db
  (∀ entry ∈ batch, entry.2.catchesUp env = true) ∧
    (subscriptionResetBatchSize ≤ batch.countP (fun entry => entry.2.hasPlan env) →
      ∃ entry ∈ batch, entry.2.periodPassed env = true)

/-! ## The loop over expiries -/

variable (env : Env)

theorem expire_shrinks (start : Database) :
    Shrinks (expireCall env) subscriptionResetBatchSize (expiryBacklog env.now) start := by
  rintro reached next _ ⟨count, called, large⟩
  have marked := expiryBacklog_expireDueSubscriptions env.now subscriptionResetBatchSize reached
  rw [Option.some.inj called] at marked
  have positive : 0 < subscriptionResetBatchSize := by decide
  simp only at marked
  omega

theorem expire_ends (start : Database) : Ends (expireCall env) subscriptionResetBatchSize start :=
  ends_of_shrinks (fun _ _ => rfl) (expire_shrinks env start)

/-! ## The loop over resets -/

/-- A full batch of resets takes rows off the backlog or changes nothing. -/
theorem reset_works (db next : Database)
    (full : FullBatch (resetCall env) subscriptionResetBatchSize db next) :
    next = db ∨ resetBacklog env.now next < resetBacklog env.now db := by
  obtain ⟨count, called, _⟩ := full
  have spec := resetDueSubscriptions_spec env subscriptionResetBatchSize db
  rw [show resetDueSubscriptions env subscriptionResetBatchSize db = some (count, next) from
    called] at spec
  obtain ⟨_, _, backlog, unchanged⟩ := spec
  simp only at backlog unchanged
  rcases Nat.eq_zero_or_pos ((resetBatch env.now subscriptionResetBatchSize db).countP
    fun entry => entry.2.periodPassed env) with none | some
  · exact .inl (unchanged none)
  · exact .inr (by omega)

/-- A batch progresses exactly if its call answers and does not report a full batch
that was left as it is. -/
theorem batchProgresses_iff (db : Database) :
    BatchProgresses env db ↔ (resetCall env db).isSome ∧
      ¬ FullBatch (resetCall env) subscriptionResetBatchSize db db := by
  have spec := resetDueSubscriptions_spec env subscriptionResetBatchSize db
  unfold BatchProgresses FullBatch resetCall
  cases called : resetDueSubscriptions env subscriptionResetBatchSize db with
  | none =>
    rw [called] at spec
    obtain ⟨entry, member, hangs⟩ := spec
    simp only [Option.isSome_none, Bool.false_eq_true, false_and, iff_false]
    rintro ⟨ends, _⟩
    rw [ends entry member] at hangs
    cases hangs
  | some answer =>
    obtain ⟨count, next⟩ := answer
    rw [called] at spec
    obtain ⟨ends, counted, backlog, unchanged⟩ := spec
    simp only at counted backlog unchanged
    simp only [Option.isSome_some, true_and, Option.some.injEq, Prod.mk.injEq, ← counted]
    constructor
    · rintro ⟨_, progress⟩ ⟨reported, ⟨rfl, rfl⟩, large⟩
      obtain ⟨entry, member, passed⟩ := progress large
      have positive : 0 < (resetBatch env.now subscriptionResetBatchSize next).countP
          (fun entry => entry.2.periodPassed env) :=
        countP_pos_iff.mpr ⟨entry, member, passed⟩
      omega
    · intro moves
      refine ⟨ends, fun large => ?_⟩
      by_contra stuck
      refine moves ⟨count, ⟨rfl, unchanged ?_⟩, large⟩
      rw [countP_eq_zero]
      exact fun entry member passed => stuck ⟨entry, member, passed⟩

theorem reset_ends_iff (start : Database) :
    (Ends (resetCall env) subscriptionResetBatchSize start ∧
        Shrinks (resetCall env) subscriptionResetBatchSize (resetBacklog env.now) start) ↔
      ∀ reached, Reaches (resetCall env) subscriptionResetBatchSize start reached →
        BatchProgresses env reached := by
  rw [ends_and_shrinks_iff (reset_works env)]
  simp only [batchProgresses_iff]

/-! ## The round -/

/-- The round ends exactly if both loops do. -/
theorem round_ends_iff (db : Database) :
    (∃ fuel after, runSubscriptionQuotaResetOnce env fuel db = some after) ↔
      ∀ swept, Swept env db swept → Ends (resetCall env) subscriptionResetBatchSize swept := by
  constructor
  · rintro ⟨fuel, after, done⟩ swept ⟨sweepFuel, sweptOk⟩
    obtain ⟨middle, middleOk, resetOk⟩ := Option.bind_eq_some_iff.mp done
    obtain rfl := untilShort_unique sweptOk middleOk
    exact ⟨fuel, after, resetOk⟩
  · intro ends
    obtain ⟨sweepFuel, swept, sweptOk⟩ := expire_ends env db
    obtain ⟨fuel, after, done⟩ := ends swept ⟨sweepFuel, sweptOk⟩
    refine ⟨sweepFuel + fuel, after, Option.bind_eq_some_iff.mpr ⟨swept, ?_, ?_⟩⟩
    · exact untilShort_mono sweptOk (Nat.le_add_right _ _)
    · exact untilShort_mono done (Nat.le_add_left _ _)

/-- A round ends, with every full batch shrinking its backlog, exactly if every
batch that the loop over resets reads progresses. -/
theorem maintenance_ends_iff (env : Env) (db : Database) :
    ((∃ fuel after, runSubscriptionQuotaResetOnce env fuel db = some after) ∧
        Shrinks (expireCall env) subscriptionResetBatchSize (expiryBacklog env.now) db ∧
        ∀ swept, Swept env db swept →
          Shrinks (resetCall env) subscriptionResetBatchSize (resetBacklog env.now) swept) ↔
      ∀ swept reached, Swept env db swept →
        Reaches (resetCall env) subscriptionResetBatchSize swept reached →
        BatchProgresses env reached := by
  rw [round_ends_iff]
  constructor
  · rintro ⟨ends, _, shrinks⟩ swept reached sweptOk
    exact (reset_ends_iff env swept).mp ⟨ends swept sweptOk, shrinks swept sweptOk⟩ reached
  · intro progress
    have resets : ∀ swept, Swept env db swept → _ := fun swept sweptOk =>
      (reset_ends_iff env swept).mpr fun reached => progress swept reached sweptOk
    exact ⟨fun swept sweptOk => (resets swept sweptOk).1, expire_shrinks env db,
      fun swept sweptOk => (resets swept sweptOk).2⟩

/-! ## A plan that stops resetting -/

/-- A subscription whose reset was due when its plan was changed to never reset. -/
def abandonedRow : UserSubscription :=
  { boughtRow 0 100 0 .active "" with lastResetTime := 100, nextResetTime := 900 }

/-- Tables with a number of such subscriptions. -/
def abandoned (count : Nat) : Database :=
  { oneUser with
    userSubscriptions := (fun table => table.insert abandonedRow)^[count] Table.empty }

theorem abandoned_rows (count : Nat) :
    (abandoned count).userSubscriptions.All (fun _ sub => sub = abandonedRow) ∧
      resetBacklog 1000 (abandoned count) = count := by
  unfold abandoned resetBacklog
  induction count with
  | zero => exact ⟨Table.all_of_rows (by decide), rfl⟩
  | succ count ih =>
    simp only [Function.iterate_succ_apply', Table.select_insert, length_append] at ih ⊢
    exact ⟨Table.All.insert ih.1 rfl, by rw [ih.2]; rfl⟩

/-- Nothing expires, so the loop over resets starts with the tables as they are. -/
theorem abandoned_swept (count : Nat) : Swept hundredEnv (abandoned count) (abandoned count) := by
  have none : expiryBatch 1000 subscriptionResetBatchSize (abandoned count) = [] := by
    rw [eq_nil_iff_forall_not_mem]
    rintro ⟨id, sub⟩ member
    have selected := (Table.mem_selectOrdered _ _ _ _ _).mp (mem_of_mem_take member)
    rw [(abandoned_rows count).1 id sub selected.1] at selected
    exact absurd selected.2 (by decide)
  refine ⟨1, ?_⟩
  have called : expireCall hundredEnv (abandoned count) = some (0, abandoned count) := by
    unfold expireCall expireDueSubscriptions
    rw [show hundredEnv.now = 1000 from rfl, none]
    rfl
  simp [untilShort, called, subscriptionResetBatchSize]

/-- A full batch of such rows is counted and left as it is. -/
theorem abandoned_fullBatch {count : Nat} (many : subscriptionResetBatchSize ≤ count) :
    FullBatch (resetCall hundredEnv) subscriptionResetBatchSize (abandoned count)
      (abandoned count) := by
  have rows := abandoned_rows count
  have batch : ∀ entry ∈ resetBatch hundredEnv.now subscriptionResetBatchSize (abandoned count),
      entry.2 = abandonedRow := by
    intro entry member
    have selected := (Table.mem_selectOrdered _ _ _ _ _).mp (mem_of_mem_take member)
    exact rows.1 entry.1 entry.2 selected.1
  have full : (resetBatch hundredEnv.now subscriptionResetBatchSize (abandoned count)).length =
      subscriptionResetBatchSize := by
    simp only [resetBatch, Table.selectOrdered, length_take, length_insertionSort]
    exact Nat.min_eq_left (many.trans rows.2.ge)
  have spec := resetDueSubscriptions_spec hundredEnv subscriptionResetBatchSize (abandoned count)
  unfold FullBatch resetCall
  cases called : resetDueSubscriptions hundredEnv subscriptionResetBatchSize (abandoned count) with
  | none =>
    rw [called] at spec
    obtain ⟨entry, member, hangs⟩ := spec
    rw [batch entry member] at hangs
    exact absurd hangs (by decide)
  | some answer =>
    rw [called] at spec
    obtain ⟨_, counted, _, unchanged⟩ := spec
    refine ⟨answer.1, congrArg some (Prod.ext rfl (unchanged ?_)), ?_⟩
    · rw [countP_eq_zero]
      intro entry member
      rw [batch entry member]
      decide
    · refine (full.symm.trans (Eq.symm ?_)).le.trans counted.ge
      rw [countP_eq_length]
      intro entry member
      rw [batch entry member]
      decide

/-- Three hundred rows whose plan no longer resets are read and counted for ever. -/
theorem abandoned_round_never_ends :
    ¬ ∃ fuel after, runSubscriptionQuotaResetOnce hundredEnv fuel (abandoned 300) = some after := by
  rw [round_ends_iff]
  intro ends
  exact not_ends_of_unchanged (abandoned_fullBatch (le_refl 300)) (ends _ (abandoned_swept 300))

end AiHub.Service

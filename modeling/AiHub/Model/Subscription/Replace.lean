import AiHub.Model.Subscription.Quota

/-!
# Replacing the running subscriptions of a plan

A bind with replacement cancels every running subscription of the plan and hands
their usage and the group they remember over to one new row.  A running row that
has used nothing hands over the usage of the row it replaced itself, so a
replacement that came too early to be charged does not lose what was used before.
-/

namespace AiHub.Model

open AiHub.Library AiHub.Common List

/-- Some subscription of the plan gave way to the one stored under `id`: it was
cancelled at the moment the other one started. -/
def GaveWay (userId planId id : Nat) (sub : UserSubscription) (key : Nat)
    (earlier : UserSubscription) : Prop :=
  earlier.userId = userId ∧ earlier.planId = planId ∧ earlier.status = .cancelled ∧
    earlier.endTime = sub.startTime ∧ key < id

/-- What a running subscription hands over: its own usage, or, while it has used
nothing, the usage of the last row that gave way to it. -/
inductive HandsOver (db : Database) (userId planId id : Nat) (sub : UserSubscription) :
    Int → Prop where
  | own (used : sub.amountUsed ≠ 0) : HandsOver db userId planId id sub sub.amountUsed
  | inherited {key : Nat} {earlier : UserSubscription} (unused : sub.amountUsed = 0)
      (stored : db.userSubscriptions.find? key = some earlier)
      (gaveWay : GaveWay userId planId id sub key earlier)
      (last : ∀ other row, db.userSubscriptions.find? other = some row →
        GaveWay userId planId id sub other row → other ≤ key) :
      HandsOver db userId planId id sub earlier.amountUsed
  | nothing (unused : sub.amountUsed = 0)
      (first : ∀ other row, db.userSubscriptions.find? other = some row →
        ¬ GaveWay userId planId id sub other row) :
      HandsOver db userId planId id sub 0

instance : Std.Total idAfter := ⟨fun left right => Nat.le_total right.1 left.1⟩

instance : IsTrans (Nat × UserSubscription) idAfter :=
  ⟨fun _ _ _ first second => Nat.le_trans second first⟩

instance : Std.Total idBefore := ⟨fun left right => Nat.le_total left.1 right.1⟩

instance : IsTrans (Nat × UserSubscription) idBefore :=
  ⟨fun _ _ _ first second => Nat.le_trans first second⟩

section Carried

variable {db : Database} {userId planId : Nat} {now : Int}

variable {id : Nat} {sub : UserSubscription}

theorem mem_replacedSubscriptions_iff :
    (id, sub) ∈ replacedSubscriptions db userId planId now ↔
      db.userSubscriptions.find? id = some sub ∧ isActiveOfPlan userId planId now sub = true :=
  Table.mem_selectOrdered _ _ _ _ _

/-- The loop over the running rows adds up what each of them hands over. -/
theorem handsOver_carriedUsage (id : Nat) (sub : UserSubscription) :
    HandsOver db userId planId id sub (carriedUsage db userId planId id sub) := by
  have accepted : ∀ (key : Nat) (row : UserSubscription),
      (decide (row.userId = userId) && decide (row.planId = planId) &&
        decide (row.status = .cancelled) && decide (row.endTime = sub.startTime) &&
        decide (key < id)) = true ↔ GaveWay userId planId id sub key row := by
    intro key row
    simp only [GaveWay, Bool.and_eq_true, decide_eq_true_eq, and_assoc]
  unfold carriedUsage
  split
  · rename_i unused
    split
    · rename_i key earlier first
      have member := mem_of_mem_head? first
      rw [Table.mem_selectOrdered, accepted] at member
      refine .inherited unused member.1 member.2 fun other row stored gaveWay => ?_
      by_cases same : (other, row) = (key, earlier)
      · exact (congrArg Prod.fst same).le
      · exact Table.selectOrdered_head first stored ((accepted other row).mpr gaveWay) same
    · rename_i empty
      rw [unused]
      refine .nothing unused fun other row stored gaveWay => ?_
      have noRow : (other, row) ∉ _ := head?_eq_none_iff.mp empty ▸ not_mem_nil
      rw [Table.mem_selectOrdered, accepted] at noRow
      exact noRow ⟨stored, gaveWay⟩
  · rename_i used
    exact .own used

/-- The group handed over is the one that the first running row with a remembered
group remembers. -/
theorem replacementPreviousGroup_eq (stored : db.userSubscriptions.find? id = some sub)
    (active : isActiveOfPlan userId planId now sub = true)
    (remembers : trimSpace sub.prevUserGroup ≠ "")
    (first : ∀ other row, db.userSubscriptions.find? other = some row →
      isActiveOfPlan userId planId now row = true → trimSpace row.prevUserGroup ≠ "" →
      id ≤ other) :
    replacementPreviousGroup db userId planId now = trimSpace sub.prevUserGroup := by
  have member := mem_replacedSubscriptions_iff.mpr ⟨stored, active⟩
  have sorted : (replacedSubscriptions db userId planId now).Pairwise idBefore :=
    pairwise_insertionSort idBefore _
  have distinct := Table.selectOrdered_keys_nodup db.userSubscriptions
    (fun _ row => isActiveOfPlan userId planId now row) idBefore
  have rows : ∀ entry ∈ replacedSubscriptions db userId planId now,
      trimSpace entry.2.prevUserGroup ≠ "" → id ≤ entry.1 := by
    rintro ⟨other, row⟩ otherMem
    obtain ⟨otherStored, otherActive⟩ := mem_replacedSubscriptions_iff.mp otherMem
    exact first other row otherStored otherActive
  unfold replacementPreviousGroup
  change ((replacedSubscriptions db userId planId now).map Prod.fst).Nodup at distinct
  generalize replacedSubscriptions db userId planId now = replaced at *
  -- The rows before the one found have smaller ids, so they remember nothing.
  induction replaced with
  | nil => exact absurd member not_mem_nil
  | cons entry rest ih =>
    rw [map_cons, nodup_cons] at distinct
    rw [pairwise_cons] at sorted
    rcases mem_cons.mp member with rfl | later
    · simp [remembers]
    · have below : entry.1 < id := by
        refine lt_of_le_of_ne (sorted.1 _ later) fun same => distinct.1 ?_
        rw [same]
        exact mem_map.mpr ⟨_, later, rfl⟩
      have forgets : trimSpace entry.2.prevUserGroup = "" := by
        by_contra named
        exact absurd (rows entry (mem_cons_self ..) named) (by omega)
      simp only [map_cons, forgets, ne_eq, decide_not, find?_cons, decide_true, Bool.not_true]
      simpa using ih later sorted.2
        (fun other otherMem => rows other (mem_cons_of_mem _ otherMem)) distinct.2

end Carried

/-! ## The bind -/

variable {env : Env} {userId planId : Nat} {sourceNote message : String} {includeDeletedUser : Bool}
  {db next : Database}

/-- The group of the new row and its usage, from what is handed over. -/
theorem replacement_row
    (done : adminBindSubscription env userId planId sourceNote includeDeletedUser true db =
      .ok (message, next)) :
    ∃ new, next.userSubscriptions.find? db.userSubscriptions.next = some new ∧
      new.userId = userId ∧ new.planId = planId ∧ new.status = .active ∧
      (new.amountUsed = replacementAmountUsed db userId planId env.now ∨
        (replacementAmountUsed db userId planId env.now ≤ 0 ∧ new.amountUsed = 0)) ∧
      (replacementPreviousGroup db userId planId env.now ≠ "" ∨
          0 < replacementAmountUsed db userId planId env.now →
        new.prevUserGroup = replacementPreviousGroup db userId planId env.now) ∧
      ∀ id, id ≠ db.userSubscriptions.next → next.userSubscriptions.find? id =
        (cancelActivePlanSubscriptions db userId planId env.now).userSubscriptions.find? id := by
  obtain ⟨_, _, _, _, sub, created, _, _, createdOk, result⟩ := adminBindSubscription_ok done
  simp only [if_true, true_and] at createdOk result
  obtain ⟨rfl, unused, _, rows⟩ := createUserSubscriptionFromPlan_rows createdOk
  have owner : sub.userId = userId ∧ sub.planId = planId ∧ sub.status = .active := by
    obtain ⟨_, _, _, ⟨_, _, rfl, _⟩ | ⟨_, rfl, _⟩⟩ :=
      createUserSubscriptionFromPlan_ok createdOk
    · exact ⟨rfl, rfl, rfl⟩
    · exact ⟨rfl, rfl, rfl⟩
  have fresh : (cancelActivePlanSubscriptions db userId planId env.now).userSubscriptions.next =
    db.userSubscriptions.next := rfl
  have stored : created.userSubscriptions.find? db.userSubscriptions.next = some sub := by
    rw [rows, Table.find?_insert, if_pos fresh.symm]
  have others : ∀ id, id ≠ db.userSubscriptions.next → created.userSubscriptions.find? id =
      (cancelActivePlanSubscriptions db userId planId env.now).userSubscriptions.find? id := by
    intro id different
    rw [rows, Table.find?_insert, fresh, if_neg different]
  split at result
  · rw [result]
    refine ⟨_, Table.find?_set_self _ stored, owner.1, owner.2.1, owner.2.2, .inl rfl,
      fun _ => rfl, fun id different => ?_⟩
    exact (Table.find?_set_of_ne _ _ different).trans (others id different)
  · rename_i nothing
    rw [result]
    have noUsage := not_lt.mp (not_or.mp nothing).2
    exact ⟨sub, stored, owner.1, owner.2.1, owner.2.2, .inr ⟨noUsage, unused⟩,
      fun handed => absurd handed nothing, others⟩

/-- After a replacement the new row has used what the running rows hand over,
these are cancelled, and the new row remembers the group that the first of them
remembers.  A negative sum is the only usage that may be dropped. -/
theorem replacement_hands_over (env : Env) (userId planId : Nat) (sourceNote message : String)
    (includeDeletedUser : Bool) (db next : Database)
    (done : adminBindSubscription env userId planId sourceNote includeDeletedUser true db =
      .ok (message, next)) :
    ∃ new, next.userSubscriptions.find? db.userSubscriptions.next = some new ∧
      new.userId = userId ∧ new.planId = planId ∧ new.status = .active ∧
      (∃ handed : Nat → Int,
        (∀ id sub, (id, sub) ∈ replacedSubscriptions db userId planId env.now →
          HandsOver db userId planId id sub (handed id)) ∧
        let total := ((replacedSubscriptions db userId planId env.now).map
          fun entry => handed entry.1).sum
        new.amountUsed = total ∨ (total < 0 ∧ new.amountUsed = 0)) ∧
      (∀ id sub, db.userSubscriptions.find? id = some sub →
        isActiveOfPlan userId planId env.now sub = true →
        (id, sub) ∈ replacedSubscriptions db userId planId env.now ∧
          next.userSubscriptions.find? id =
            some { sub with status := .cancelled, endTime := env.now }) ∧
      ∀ id sub, db.userSubscriptions.find? id = some sub →
        isActiveOfPlan userId planId env.now sub = true → trimSpace sub.prevUserGroup ≠ "" →
        (∀ other row, db.userSubscriptions.find? other = some row →
          isActiveOfPlan userId planId env.now row = true →
          trimSpace row.prevUserGroup ≠ "" → id ≤ other) →
        new.prevUserGroup = trimSpace sub.prevUserGroup := by
  obtain ⟨new, stored, owner, ofPlan, active, usage, group, others⟩ := replacement_row done
  refine ⟨new, stored, owner, ofPlan, active, ?_, ?_, ?_⟩
  · refine ⟨fun id => match db.userSubscriptions.find? id with
      | some sub => carriedUsage db userId planId id sub
      | none => 0, ?_, ?_⟩
    · intro id sub member
      simp only [(mem_replacedSubscriptions_iff.mp member).1]
      exact handsOver_carriedUsage id sub
    · have same : ((replacedSubscriptions db userId planId env.now).map fun entry =>
          match db.userSubscriptions.find? entry.1 with
          | some sub => carriedUsage db userId planId entry.1 sub
          | none => 0).sum = replacementAmountUsed db userId planId env.now := by
        unfold replacementAmountUsed
        congr 1
        apply map_congr_left
        intro entry member
        simp only [(mem_replacedSubscriptions_iff.mp member).1]
      simp only [same]
      omega
  · intro id sub subStored running
    refine ⟨mem_replacedSubscriptions_iff.mpr ⟨subStored, running⟩, ?_⟩
    rw [others id (Table.key_lt_next subStored).ne, cancelActivePlanSubscriptions,
      Table.find?_updateWhere, subStored]
    simp [running]
  · intro id sub subStored running remembers first
    have handed := replacementPreviousGroup_eq subStored running remembers first
    rw [← handed]
    exact group (.inl (handed ▸ remembers))

/-- A subscription of plan 1 that was bought by user 1. -/
def boughtRow (amountUsed startTime endTime : Int) (status : SubscriptionStatus)
    (prevUserGroup : String) : UserSubscription where
  userId := 1
  planId := 1
  amountTotal := 100
  amountUsed := amountUsed
  startTime := startTime
  endTime := endTime
  status := status
  source := "order"
  lastResetTime := 0
  nextResetTime := 0
  upgradeGroup := ""
  prevUserGroup := prevUserGroup
  downgradeGroup := ""
  allowWalletOverflow := true

/-- Two running subscriptions; the second one remembers a group. -/
def twoRunning : Database :=
  { oneUser with
    userSubscriptions := (Table.empty.insert (boughtRow 80 900 2000 .active "")).insert
      (boughtRow 20 950 3000 .active "trial") }

/-- Both are cancelled and their replacement remembers the group. -/
theorem twoRunning_replaced :
    ∃ message next, adminBindSubscription hundredEnv 1 1 "" false true twoRunning =
        .ok (message, next) ∧
      (next.userSubscriptions.find? 3).map UserSubscription.prevUserGroup = some "trial" := by
  refine ⟨_, _, rfl, ?_⟩
  obtain ⟨new, stored, _, _, _, _, _, group⟩ :=
    replacement_hands_over hundredEnv 1 1 "" _ false twoRunning _ rfl
  have onlySecond : twoRunning.userSubscriptions.All fun other row =>
      isActiveOfPlan 1 1 hundredEnv.now row = true → trimSpace row.prevUserGroup ≠ "" →
        2 ≤ other := Table.all_of_rows (by decide)
  have remembered := group 2 (boughtRow 20 950 3000 .active "trial") rfl (by decide)
    (by decide) onlySecond
  have trimmed : trimSpace (boughtRow 20 950 3000 .active "trial").prevUserGroup = "trial" := by
    decide
  rw [trimmed] at remembered
  exact (congrArg (Option.map UserSubscription.prevUserGroup) stored).trans
    (congrArg some remembered)

/-- A running subscription that has used nothing, and the one that gave way to it
after using 30. -/
def replacedBefore : Database :=
  { oneUser with
    userSubscriptions := (Table.empty.insert (boughtRow 30 500 940 .cancelled "")).insert
      (boughtRow 0 940 2000 .active "") }

/-- The running row has used nothing, and its replacement starts with 30. -/
theorem replacedBefore_usage_revived :
    (replacedSubscriptions replacedBefore 1 1 hundredEnv.now).map
        (fun entry => entry.2.amountUsed) = [0] ∧
      ∃ message next, adminBindSubscription hundredEnv 1 1 "" false true replacedBefore =
          .ok (message, next) ∧
        (next.userSubscriptions.find? 3).map UserSubscription.amountUsed = some 30 :=
  ⟨by decide, _, _, rfl, by decide⟩

end AiHub.Model

import AiHub.Library.Run
import Mathlib.Tactic.Linarith

/-!
# Accounts behind a cache

An account is stored in a row and copied into a cache.  Amounts are reserved from the
cached copy where there is one, so that reservations need not wait for the row.  What is
booked reaches the row and the copy at different times: a delta may be told to the cache
by a task of its own, and it may wait in a queue, be taken out of it, and only then be
added to the row.  The copy may disappear at any time.  Whoever then misses it reads the
row and later fills the cache with what was read, unless there is a copy by then.

Everything that is under way is a list of pending tasks, any of which may go on next.
The main results are what a run keeps, if no fill is overtaken by a delta that the row
does not have yet: the copy is the row and what has yet to reach it, and no more is
reserved than there was.
-/

namespace AiHub.Library

open List

universe u v w

/-- What can be spent of an account, and how a delta is booked on it. -/
structure Account (α : Type u) where
  available : α → Int
  book : Int → α → α
  available_book : ∀ delta state, available (book delta state) = available state + delta

namespace WriteBehind

/-- A task under way.  The tasks of a reservation carry the amount that is wanted; a
reader wants none. -/
inductive Pending (α : Type u) where
  | tell (delta : Int)
  | store (delta : Int) (direct : Bool)
  | load (wanted : Option Int)
  | fill (snapshot : α) (wanted : Option Int)
  | retry (amount : Int)
  | fallback (amount : Int)
  deriving DecidableEq, Repr

/-- How the environment lets a task go on: as usual, because another one has filled the
cache meanwhile, without effect, or with an error. -/
inductive Outcome where
  | normal
  | hit
  | ignored
  | failed
  deriving DecidableEq, Repr

/-- The account with all that is under way, and the totals that were booked. -/
structure State (α : Type u) where
  row : α
  cached : Option α
  queued : Int
  flushing : Int
  pending : List (Pending α)
  reserved : Int
  credited : Int
  debited : Int
  deriving DecidableEq, Repr

inductive Action where
  | reserve (amount : Int)
  | reserveRow (amount : Int)
  | adjust (delta : Int) (direct told : Bool)
  | credit (amount : Int) (direct : Bool) (bound : Int)
  | read
  | resume (index : Nat) (outcome : Outcome)
  | take
  | flush
  | expire
  | idle
  deriving DecidableEq, Repr

/-- Nothing has been booked, and nothing is cached. -/
def State.initial {α : Type u} (row : α) : State α := ⟨row, none, 0, 0, [], 0, 0, 0⟩

namespace State

variable {α : Type u} (account : Account α) (batch : Bool)

def spawn (state : State α) (tasks : List (Pending α)) : State α :=
  { state with pending := state.pending ++ tasks }

/-- Reserve an amount from the cached copy; the row is told later. -/
def reserveCached (state : State α) (amount : Int) (miss : Pending α) : State α :=
  match state.cached with
  | none => state.spawn [miss]
  | some held =>
    if amount ≤ account.available held then
      { state with
        cached := some (account.book (-amount) held)
        pending := state.pending ++ [.store (-amount) (!batch)]
        reserved := state.reserved + amount }
    else state

/-- Reserve an amount from the row, if it has it. -/
def reserveRow (state : State α) (amount : Int) : State α :=
  if amount ≤ account.available state.row then
    { state with
      row := account.book (-amount) state.row
      reserved := state.reserved + amount }
  else state

/-- Book a delta on the row, or queue it. -/
def store (state : State α) (delta : Int) (direct : Bool) : State α :=
  if direct then { state with row := account.book delta state.row }
  else { state with queued := state.queued + delta }

/-- Book a delta that may be negative; both the cache and the row are told later. -/
def adjust (state : State α) (delta : Int) (direct told : Bool) : State α :=
  { state.spawn (.store delta direct :: if told then [.tell delta] else []) with
    credited := if 0 ≤ delta then state.credited + delta else state.credited
    debited := if 0 ≤ delta then state.debited else state.debited - delta }

/-- Book a credit, on the row only up to a bound, and then tell the cache. -/
def credit (state : State α) (amount : Int) (direct : Bool) (bound : Int) : State α :=
  if amount < 0 ∨ (direct = true ∧ bound - amount < account.available state.row) then state
  else
    { (state.store account amount direct).spawn [.tell amount] with
      credited := state.credited + amount }

/-- Go on with a reservation after its load. -/
def proceed (state : State α) (wanted : Option Int) (next : Int → Pending α) : State α :=
  state.spawn (wanted.map next).toList

/-- Let a task go on. -/
def resumeTask (state : State α) (outcome : Outcome) : Pending α → State α
  | .tell delta => { state with cached := state.cached.map (account.book delta) }
  | .store delta direct => state.store account delta direct
  | .load wanted =>
    if outcome = .failed then state.proceed wanted .fallback
    else if outcome = .hit ∧ state.cached.isSome then state.proceed wanted .retry
    else state.spawn [.fill state.row wanted]
  | .fill snapshot wanted =>
    if outcome = .failed then state.proceed wanted .fallback
    else if outcome = .ignored then state.proceed wanted .retry
    else
      { state with cached := some (state.cached.getD snapshot) }.proceed wanted .retry
  | .retry amount => state.reserveCached account batch amount (.fallback amount)
  | .fallback amount => state.reserveRow account amount

def resume (state : State α) (index : Nat) (outcome : Outcome) : State α :=
  match state.pending[index]? with
  | none => state
  | some task =>
    { state with pending := state.pending.eraseIdx index }.resumeTask account batch outcome task

def step (state : State α) : Action → State α
  | .reserve amount =>
    if amount ≤ 0 then state
    else state.reserveCached account batch amount (.load (some amount))
  | .reserveRow amount => if amount ≤ 0 then state else state.reserveRow account amount
  | .adjust delta direct told => state.adjust delta direct told
  | .credit amount direct bound => state.credit account amount direct bound
  | .read => state.spawn [.load none]
  | .resume index outcome => state.resume account batch index outcome
  | .take => { state with queued := 0, flushing := state.flushing + state.queued }
  | .flush => { state with row := account.book state.flushing state.row, flushing := 0 }
  | .expire => { state with cached := none }
  | .idle => state

end State

/-! ## Totals of what is under way -/

variable {α : Type u}

namespace Pending

/-- The delta that a task has yet to tell the cache. -/
def told : Pending α → Int
  | .tell delta => delta
  | _ => 0

/-- The part of it that is a debit. -/
def debt : Pending α → Int
  | .tell delta => max (-delta) 0
  | _ => 0

/-- The delta that a task has yet to store. -/
def unstored : Pending α → Int
  | .store delta _ => delta
  | _ => 0

/-- A task that carries a delta. -/
def isDelta : Pending α → Bool
  | .tell _ | .store .. => true
  | .load _ | .fill .. | .retry _ | .fallback _ => false

theorem neg_debt_le_told (task : Pending α) : -task.debt ≤ task.told := by
  cases task <;> simp only [debt, told] <;> omega

theorem debt_nonneg (task : Pending α) : 0 ≤ task.debt := by
  cases task <;> simp only [debt] <;> omega

end Pending

/-- The total of a quantity over tasks. -/
def total (quantity : Pending α → Int) (tasks : List (Pending α)) : Int :=
  (tasks.map quantity).sum

section Total

variable (quantity : Pending α → Int)

@[simp] theorem total_nil : total quantity [] = 0 := rfl

@[simp] theorem total_cons (task : Pending α) (tasks : List (Pending α)) :
    total quantity (task :: tasks) = quantity task + total quantity tasks := by
  simp [total]

@[simp] theorem total_append (first second : List (Pending α)) :
    total quantity (first ++ second) = total quantity first + total quantity second := by
  simp [total]

theorem total_eq_zero {tasks : List (Pending α)} (zero : ∀ task ∈ tasks, quantity task = 0) :
    total quantity tasks = 0 := by
  apply sum_eq_zero
  simpa using zero

theorem total_le {other : Pending α → Int} (tasks : List (Pending α))
    (below : ∀ task, quantity task ≤ other task) : total quantity tasks ≤ total other tasks := by
  induction tasks with
  | nil => exact le_rfl
  | cons task tasks ih =>
    exact add_le_add (below task) ih

end Total

namespace State

/-- What has yet to reach the row. -/
def unstored (state : State α) : Int :=
  state.queued + state.flushing + total Pending.unstored state.pending

/-- What has yet to reach the cache. -/
def untold (state : State α) : Int := total Pending.told state.pending

/-- No delta is queued or under way. -/
def Quiet (state : State α) : Prop :=
  state.queued = 0 ∧ state.flushing = 0 ∧ ∀ task ∈ state.pending, task.isDelta = false

instance (state : State α) : Decidable state.Quiet :=
  inferInstanceAs (Decidable (_ ∧ _ ∧ _))

theorem unstored_of_quiet {state : State α} (quiet : state.Quiet) : state.unstored = 0 := by
  obtain ⟨queued, flushing, none⟩ := quiet
  have zero : total Pending.unstored state.pending = 0 := by
    apply total_eq_zero
    intro task member
    have inert := none task member
    cases task <;> first | rfl | cases inert
  rw [unstored, queued, flushing, zero]
  rfl

theorem untold_of_quiet {state : State α} (quiet : state.Quiet) : state.untold = 0 := by
  apply total_eq_zero
  intro task member
  have inert := quiet.2.2 task member
  cases task <;> first | rfl | cases inert

end State

/-! ## What a run keeps -/

/-- What is always true: the row and what has yet to reach it make up all that was
booked, and debits that the cache was not told are debits. -/
structure Accounted (account : Account α) (initial : Int) (state : State α) : Prop where
  conserved : account.available state.row + state.unstored =
    initial + state.credited - state.debited - state.reserved
  owed : total Pending.debt state.pending ≤ state.debited

/-- The copy is the row and what has yet to reach it, but for what the copy was not told;
and no more is reserved than there was. -/
structure Coherent (account : Account α) (initial : Int) (state : State α) : Prop
    extends Accounted account initial state where
  agrees : ∀ held ∈ state.cached,
    account.available held + state.untold = account.available state.row + state.unstored
  covered : state.reserved = 0 ∨ state.reserved ≤ initial + state.credited

/-- A fill that finds no copy writes what is still the row, while no delta is queued or
under way; the row is only spent from while there is no copy and nothing negative has
yet to reach it, and the cache is told if there is one. -/
def Action.Sound (account : Account α) (state : State α) : Action → Prop
  | .resume index outcome =>
    match state.pending[index]? with
    | some (.fill snapshot _) =>
      outcome = .normal ∨ outcome = .hit → state.cached = none →
        state.Quiet ∧ account.available snapshot = account.available state.row
    | some (.fallback _) => state.cached = none ∧ 0 ≤ state.unstored
    | _ => True
  | .reserveRow _ => state.cached = none ∧ 0 ≤ state.unstored
  | .adjust _ _ told => told = true ∨ state.cached = none
  | _ => True

section Keeps

variable {account : Account α} {batch : Bool} {initial : Int} {state : State α}

variable {task : Pending α} {tasks : List (Pending α)}

theorem Pending.shares_of_inert (inert : task.isDelta = false) :
    task.told = 0 ∧ task.debt = 0 ∧ task.unstored = 0 := by
  cases task <;> first | exact ⟨rfl, rfl, rfl⟩ | cases inert

theorem total_inert (inert : ∀ task ∈ tasks, task.isDelta = false) :
    total Pending.told tasks = 0 ∧ total Pending.debt tasks = 0 ∧
      total Pending.unstored tasks = 0 :=
  ⟨total_eq_zero _ fun task member => (Pending.shares_of_inert (inert task member)).1,
    total_eq_zero _ fun task member => (Pending.shares_of_inert (inert task member)).2.1,
    total_eq_zero _ fun task member => (Pending.shares_of_inert (inert task member)).2.2⟩

section

variable (coherent : Coherent account initial state)
include coherent

/-- Tasks without a delta change nothing. -/
theorem Coherent.spawn (inert : ∀ task ∈ tasks, task.isDelta = false) :
    Coherent account initial (state.spawn tasks) := by
  obtain ⟨told, debt, unstored⟩ := total_inert inert
  refine ⟨⟨?_, ?_⟩, ?_, coherent.covered⟩
  · have conserved := coherent.conserved
    simp only [State.unstored, State.spawn, total_append] at conserved ⊢
    omega
  · have owed := coherent.owed
    simp only [State.spawn, total_append]
    omega
  · intro held member
    have agrees := coherent.agrees held member
    simp only [State.unstored, State.untold, State.spawn, total_append] at agrees ⊢
    omega

theorem Coherent.proceed (wanted : Option Int)
    {next : Int → Pending α} (inert : ∀ amount, (next amount).isDelta = false) :
    Coherent account initial (state.proceed wanted next) := by
  apply coherent.spawn
  cases wanted with
  | none => simp
  | some amount => simpa using inert amount

/-- Debits that the cache was not told are all that it can be ahead by. -/
theorem Coherent.neg_debited_le : -state.debited ≤ state.untold := by
  have owed := coherent.owed
  have negated : total (fun task => -task.debt) state.pending =
      -total Pending.debt state.pending := by
    induction state.pending with
    | nil => rfl
    | cons task tasks ih =>
      rw [total_cons, total_cons, ih]
      omega
  have below := total_le (fun task : Pending α => -task.debt) state.pending Pending.neg_debt_le_told
  simp only [State.untold]
  omega

end

theorem Accounted.debited_nonneg (accounted : Accounted account initial state) :
    0 ≤ state.debited := by
  have owed := accounted.owed
  have nonneg := total_le (fun _ : Pending α => 0) state.pending Pending.debt_nonneg
  rw [total_eq_zero _ fun _ _ => rfl] at nonneg
  omega

theorem Coherent.reserveCached (coherent : Coherent account initial state) (amount : Int)
    {miss : Pending α} (inert : miss.isDelta = false) :
    Coherent account initial (state.reserveCached account batch amount miss) := by
  unfold State.reserveCached
  cases cached : state.cached with
  | none => exact coherent.spawn (by simpa using inert)
  | some held =>
    simp only
    split
    case isFalse => exact coherent
    case isTrue enough =>
      have conserved := coherent.conserved
      have agrees := coherent.agrees held cached
      have ahead := coherent.neg_debited_le
      refine ⟨⟨?_, ?_⟩, ?_, .inr ?_⟩
      · simp only [State.unstored, total_append, total_cons, total_nil, Pending.unstored]
          at conserved ⊢
        omega
      · simpa [Pending.debt] using coherent.owed
      · simp only [Option.mem_some_iff, forall_eq', account.available_book, State.unstored,
          State.untold, total_append, total_cons, total_nil, Pending.unstored, Pending.told]
          at agrees ⊢
        omega
      · simp only
        omega

theorem Coherent.reserveRow (coherent : Coherent account initial state) (amount : Int)
    (cold : state.cached = none) (nonneg : 0 ≤ state.unstored) :
    Coherent account initial (state.reserveRow account amount) := by
  have debited := coherent.debited_nonneg
  unfold State.reserveRow
  split
  case isFalse => exact coherent
  case isTrue enough =>
    have conserved := coherent.conserved
    refine ⟨⟨?_, coherent.owed⟩, by simp [cold], .inr ?_⟩
    · simp only [State.unstored, account.available_book] at conserved ⊢
      omega
    · simp only
      omega

/-- Storing a delta books it on the row and what has yet to reach it. -/
theorem available_store (account : Account α) (state : State α) (delta : Int) (direct : Bool) :
    account.available (state.store account delta direct).row +
        (state.store account delta direct).unstored =
      account.available state.row + state.unstored + delta := by
  cases direct <;>
    simp only [State.store, State.unstored, account.available_book, Bool.false_eq_true, if_true,
      if_false] <;>
    omega

/-- Storing a delta concerns nothing else. -/
theorem store_frame (account : Account α) (state : State α) (delta : Int) (direct : Bool) :
    ∃ row queued, state.store account delta direct = { state with row, queued } := by
  unfold State.store
  split <;> exact ⟨_, _, rfl⟩

theorem unstored_spawn (state : State α) (tasks : List (Pending α)) :
    (state.spawn tasks).unstored = state.unstored + total Pending.unstored tasks := by
  simp only [State.unstored, State.spawn, total_append]
  omega

theorem untold_spawn (state : State α) (tasks : List (Pending α)) :
    (state.spawn tasks).untold = state.untold + total Pending.told tasks := by
  simp [State.untold, State.spawn]

section

variable (coherent : Coherent account initial state)
include coherent

theorem Coherent.adjust (delta : Int)
    (direct : Bool) {told : Bool} (tells : told = true ∨ state.cached = none) :
    Coherent account initial (state.adjust delta direct told) := by
  have conserved := coherent.conserved
  have owed := coherent.owed
  have covered := coherent.covered
  have added : (state.adjust delta direct told).unstored = state.unstored + delta := by
    refine (unstored_spawn state _).trans ?_
    cases told <;> simp [Pending.unstored]
  refine ⟨⟨?_, ?_⟩, ?_, ?_⟩
  · rw [added]
    simp only [State.adjust, State.spawn]
    split <;> omega
  · cases told <;>
      simp only [State.adjust, State.spawn, total_append, total_cons, total_nil, Pending.debt,
        if_true, Bool.false_eq_true, if_false] <;>
      split <;> omega
  · intro held member
    rcases tells with rfl | cold
    · have agrees := coherent.agrees held member
      have untold : (state.adjust delta direct true).untold = state.untold + delta := by
        refine (untold_spawn state _).trans ?_
        simp [Pending.told]
      rw [added, untold]
      simp only [State.adjust, State.spawn]
      omega
    · simp [State.adjust, State.spawn, cold] at member
  · simp only [State.adjust, State.spawn]
    split <;> omega

/-- The order of the tasks does not matter. -/
theorem Coherent.reorder (perm : state.pending.Perm tasks) :
    Coherent account initial { state with pending := tasks } := by
  have totals : ∀ quantity : Pending α → Int,
      total quantity tasks = total quantity state.pending := fun quantity =>
    ((perm.map quantity).sum_eq).symm
  obtain ⟨⟨conserved, owed⟩, agrees, covered⟩ := coherent
  refine ⟨⟨?_, ?_⟩, ?_, covered⟩
  · simpa only [State.unstored, totals] using conserved
  · simpa only [totals] using owed
  · simpa only [State.unstored, State.untold, totals] using agrees

/-- A task may be put last. -/
theorem Coherent.takeOut {index : Nat} (found : state.pending[index]? = some task) :
    Coherent account initial
      ({ state with pending := state.pending.eraseIdx index }.spawn [task]) := by
  apply coherent.reorder
  obtain ⟨inRange, rfl⟩ := List.getElem?_eq_some_iff.mp found
  exact (getElem_cons_eraseIdx_perm inRange).symm.trans (perm_append_singleton _ _).symm

end

/-- What the shares of the last task are part of. -/
theorem Coherent.of_spawn (coherent : Coherent account initial (state.spawn [task])) :
    account.available state.row + state.unstored + task.unstored =
        initial + state.credited - state.debited - state.reserved ∧
      total Pending.debt state.pending + task.debt ≤ state.debited ∧
      (∀ held ∈ state.cached, account.available held + state.untold + task.told =
        account.available state.row + state.unstored + task.unstored) ∧
      (state.reserved = 0 ∨ state.reserved ≤ initial + state.credited) := by
  obtain ⟨⟨conserved, owed⟩, agrees, covered⟩ := coherent
  rw [unstored_spawn] at conserved agrees
  rw [untold_spawn] at agrees
  simp only [total_cons, total_nil, add_zero, ← add_assoc] at conserved agrees
  simp only [State.spawn, total_append, total_cons, total_nil, add_zero] at owed
  exact ⟨conserved, owed, agrees, covered⟩

/-- The last task stores its delta. -/
theorem Coherent.stored {delta : Int} {direct : Bool}
    (coherent : Coherent account initial (state.spawn [.store delta direct])) :
    Coherent account initial (state.store account delta direct) := by
  have booked := available_store account state delta direct
  obtain ⟨row, queued, stored⟩ := store_frame account state delta direct
  obtain ⟨conserved, owed, agrees, covered⟩ := coherent.of_spawn
  simp only [Pending.unstored, Pending.told, Pending.debt, add_zero] at conserved owed agrees
  rw [stored] at booked ⊢
  refine ⟨⟨booked.trans conserved, owed⟩, fun held member => ?_, covered⟩
  rw [booked]
  exact agrees held member

/-- The last task tells the cache. -/
theorem Coherent.tells {delta : Int}
    (coherent : Coherent account initial (state.spawn [.tell delta])) :
    Coherent account initial { state with cached := state.cached.map (account.book delta) } := by
  obtain ⟨conserved, owed, agrees, covered⟩ := coherent.of_spawn
  simp only [Pending.unstored, Pending.told, Pending.debt, add_zero] at conserved owed agrees
  refine ⟨⟨conserved, ?_⟩, ?_, covered⟩
  · simp only
    omega
  · intro held member
    obtain ⟨before, cached, rfl⟩ := Option.map_eq_some_iff.mp member
    rw [account.available_book, add_right_comm]
    exact agrees before cached

/-- The last task carries no delta, and may be left. -/
theorem Coherent.leave (coherent : Coherent account initial (state.spawn [task]))
    (inert : task.isDelta = false) : Coherent account initial state := by
  obtain ⟨told, debt, unstored⟩ := Pending.shares_of_inert inert
  obtain ⟨conserved, owed, agrees, covered⟩ := coherent.of_spawn
  simp only [told, debt, unstored, add_zero] at conserved owed agrees
  exact ⟨⟨conserved, owed⟩, agrees, covered⟩

theorem Coherent.credit (coherent : Coherent account initial state) (amount : Int)
    (direct : Bool) (bound : Int) :
    Coherent account initial (state.credit account amount direct bound) := by
  unfold State.credit
  split
  case isTrue => exact coherent
  case isFalse accepted =>
    have nonneg : 0 ≤ amount := by
      by_contra negative
      exact accepted (.inl (by omega))
    -- A credit is an adjustment whose first task has already been done.
    have adjusted := coherent.adjust amount direct (.inl rfl)
    simp only [State.adjust, if_pos nonneg, if_true, State.spawn] at adjusted
    have reordered := adjusted.reorder
      ((List.Perm.swap (.tell amount) (.store amount direct) []).append_left state.pending)
    have told : Coherent account initial
        (State.spawn
          { state.spawn [.tell amount] with credited := state.credited + amount }
          [.store amount direct]) := by
      simpa [State.spawn] using reordered
    cases direct <;> exact told.stored

/-- A copy that is the row is written while no delta is queued or under way. -/
theorem Coherent.filled {snapshot : α} (coherent : Coherent account initial state)
    (fresh : state.cached = none →
      state.Quiet ∧ account.available snapshot = account.available state.row) :
    Coherent account initial { state with cached := some (state.cached.getD snapshot) } := by
  refine ⟨⟨coherent.conserved, coherent.owed⟩, ?_, coherent.covered⟩
  intro held member
  cases cached : state.cached with
  | some copy =>
    rw [cached, Option.getD_some, Option.mem_some_iff] at member
    rw [← member]
    exact coherent.agrees copy cached
  | none =>
    obtain ⟨quiet, same⟩ := fresh cached
    have unstored := State.unstored_of_quiet quiet
    have untold := State.untold_of_quiet quiet
    rw [cached, Option.getD_none, Option.mem_some_iff] at member
    rw [← member, same]
    simp only [State.unstored, State.untold] at unstored untold ⊢
    rw [unstored, untold]

theorem Coherent.resumeTask {outcome : Outcome}
    (coherent : Coherent account initial (state.spawn [task]))
    (fresh : ∀ snapshot wanted, task = .fill snapshot wanted →
      outcome = .normal ∨ outcome = .hit → state.cached = none →
        state.Quiet ∧ account.available snapshot = account.available state.row)
    (alone : ∀ amount, task = .fallback amount → state.cached = none ∧ 0 ≤ state.unstored) :
    Coherent account initial (state.resumeTask account batch outcome task) := by
  cases task with
  | tell delta => exact coherent.tells
  | store delta direct => exact coherent.stored
  | load wanted =>
    have rest := coherent.leave rfl
    simp only [State.resumeTask]
    split
    · exact rest.proceed wanted fun _ => rfl
    · split
      · exact rest.proceed wanted fun _ => rfl
      · exact rest.spawn (by simp [Pending.isDelta])
  | fill snapshot wanted =>
    have rest := coherent.leave rfl
    simp only [State.resumeTask]
    split
    case isTrue => exact rest.proceed wanted fun _ => rfl
    case isFalse sent =>
      split
      case isTrue => exact rest.proceed wanted fun _ => rfl
      case isFalse applied =>
        have decided : outcome = .normal ∨ outcome = .hit := by
          cases outcome <;> simp_all
        exact (rest.filled (fresh snapshot wanted rfl decided)).proceed wanted fun _ => rfl
  | retry amount => exact (coherent.leave rfl).reserveCached amount rfl
  | fallback amount =>
    obtain ⟨cold, nonneg⟩ := alone amount rfl
    exact (coherent.leave rfl).reserveRow amount cold nonneg

theorem Coherent.resume {index : Nat} {outcome : Outcome}
    (coherent : Coherent account initial state)
    (sound : (Action.resume index outcome).Sound account state) :
    Coherent account initial (state.resume account batch index outcome) := by
  unfold State.resume
  cases found : state.pending[index]? with
  | none => exact coherent
  | some task =>
    refine (coherent.takeOut found).resumeTask ?_ ?_
    · rintro snapshot wanted rfl decided cold
      simp only [Action.Sound, found] at sound
      obtain ⟨⟨queued, flushing, inert⟩, same⟩ := sound decided cold
      exact ⟨⟨queued, flushing, fun task member =>
        inert task (mem_of_mem_eraseIdx member)⟩, same⟩
    · rintro amount rfl
      simp only [Action.Sound, found] at sound
      obtain ⟨cold, nonneg⟩ := sound
      refine ⟨cold, ?_⟩
      have erased := sum_map_eraseIdx Pending.unstored found
      simp only [Pending.unstored, sub_zero] at erased
      simp only [State.unstored, total, erased] at nonneg ⊢
      exact nonneg

/-- What one step keeps. -/
theorem Coherent.step (coherent : Coherent account initial state) {action : Action}
    (sound : action.Sound account state) :
    Coherent account initial (state.step account batch action) := by
  cases action with
  | reserve amount =>
    simp only [State.step]
    split
    · exact coherent
    · exact coherent.reserveCached amount rfl
  | reserveRow amount =>
    simp only [State.step]
    split
    · exact coherent
    · exact coherent.reserveRow amount sound.1 sound.2
  | adjust delta direct told => exact coherent.adjust delta direct sound
  | credit amount direct bound => exact coherent.credit amount direct bound
  | read => exact coherent.spawn (by simp [Pending.isDelta])
  | resume index outcome => exact coherent.resume sound
  | take =>
    have moved : (state.step account batch .take).unstored = state.unstored := by
      simp only [State.step, State.unstored]
      omega
    obtain ⟨⟨conserved, owed⟩, agrees, covered⟩ := coherent
    rw [← moved] at conserved agrees
    exact ⟨⟨conserved, owed⟩, agrees, covered⟩
  | flush =>
    have moved : account.available (state.step account batch .flush).row +
        (state.step account batch .flush).unstored =
        account.available state.row + state.unstored := by
      simp only [State.step, State.unstored, account.available_book]
      omega
    obtain ⟨⟨conserved, owed⟩, agrees, covered⟩ := coherent
    rw [← moved] at conserved agrees
    exact ⟨⟨conserved, owed⟩, agrees, covered⟩
  | expire => exact ⟨⟨coherent.conserved, coherent.owed⟩, by simp [State.step], coherent.covered⟩
  | idle => exact coherent

theorem coherent_initial (account : Account α) (row : α) :
    Coherent account (account.available row) (State.initial row) := by
  refine ⟨⟨?_, le_rfl⟩, ?_, .inl rfl⟩
  · simp [State.initial, State.unstored]
  · simp [State.initial]

/-- What a system keeps whose steps are sound steps of the account. -/
theorem coherent_run (batch : Bool) {σ : Type v} {ε : Type w} {step : σ → ε → σ}
    {guard : σ → ε → Prop} {toState : σ → State α} {start : σ} {row : α}
    (initial : toState start = State.initial row)
    (refines : ∀ state event, guard state event → ∃ action : Action,
      action.Sound account (toState state) ∧
        toState (step state event) = (toState state).step account batch action)
    (events : List ε) (guarded : Guarded step guard start events) :
    Coherent account (account.available row) (toState (run step start events)) := by
  have holds : Coherent account (account.available row) (toState start) := by
    rw [initial]
    exact coherent_initial account row
  refine @run_invariant _ _ _ _ _
    (fun state => Coherent account (account.available row) (toState state)) ?_ events holds
    guarded
  intro state event coherent meets
  obtain ⟨action, sound, same⟩ := refines state event meets
  rw [same]
  exact coherent.step sound

/-- While nothing is under way, the copy is the row and the queue. -/
theorem Coherent.cached_eq (coherent : Coherent account initial state)
    (rest : state.pending = []) (written : state.flushing = 0) :
    ∀ held ∈ state.cached, account.available held = account.available state.row + state.queued := by
  intro held member
  have agrees := coherent.agrees held member
  simp only [State.untold, State.unstored, rest, written, total_nil] at agrees
  omega

end Keeps

/-! ## What every copy keeps -/

/-- A property of the row, of the cached copy and of every snapshot on its way to the
cache. -/
structure Throughout (property : α → Prop) (state : State α) : Prop where
  row : property state.row
  cached : ∀ held ∈ state.cached, property held
  snapshots : ∀ snapshot wanted, .fill snapshot wanted ∈ state.pending → property snapshot

section Throughout

variable {account : Account α} {batch : Bool} {property : α → Prop} {state : State α}

theorem Throughout.spawn (holds : Throughout property state) {tasks : List (Pending α)}
    (current : ∀ snapshot wanted, .fill snapshot wanted ∈ tasks → property snapshot) :
    Throughout property (state.spawn tasks) := by
  refine ⟨holds.row, holds.cached, ?_⟩
  intro snapshot wanted member
  rcases mem_append.mp member with before | added
  · exact holds.snapshots snapshot wanted before
  · exact current snapshot wanted added

theorem Throughout.proceed (holds : Throughout property state) (wanted : Option Int)
    {next : Int → Pending α}
    (noFill : ∀ amount snapshot wanted, next amount ≠ .fill snapshot wanted) :
    Throughout property (state.proceed wanted next) := by
  apply holds.spawn
  intro snapshot other member
  cases wanted with
  | none => simp at member
  | some amount =>
    have filled : next amount = .fill snapshot other := by simpa [eq_comm] using member
    exact absurd filled (noFill amount snapshot other)

variable (booked : ∀ delta copy, property copy → property (account.book delta copy))

include booked

section

variable (holds : Throughout property state)
include holds

theorem Throughout.store (delta : Int) (direct : Bool) :
    Throughout property (state.store account delta direct) := by
  cases direct with
  | true => exact ⟨booked _ _ holds.row, holds.cached, holds.snapshots⟩
  | false => exact ⟨holds.row, holds.cached, holds.snapshots⟩

theorem Throughout.reserveCached (amount : Int)
    {miss : Pending α} (noFill : ∀ snapshot wanted, miss ≠ .fill snapshot wanted) :
    Throughout property (state.reserveCached account batch amount miss) := by
  unfold State.reserveCached
  cases cached : state.cached with
  | none =>
    apply holds.spawn
    intro snapshot wanted member
    exact absurd (mem_singleton.mp member).symm (noFill snapshot wanted)
  | some held =>
    simp only
    split
    · have later : Throughout property (state.spawn [.store (-amount) (!batch)]) :=
        holds.spawn (by simp)
      refine ⟨later.row, ?_, later.snapshots⟩
      intro copy member
      rw [← Option.mem_some_iff.mp member]
      exact booked _ _ (holds.cached held cached)
    · exact holds

theorem Throughout.reserveRow (amount : Int) :
    Throughout property (state.reserveRow account amount) := by
  unfold State.reserveRow
  split
  · exact ⟨booked _ _ holds.row, holds.cached, holds.snapshots⟩
  · exact holds

theorem Throughout.resumeTask (outcome : Outcome)
    {task : Pending α} (current : ∀ snapshot wanted, task = .fill snapshot wanted →
      property snapshot) :
    Throughout property (state.resumeTask account batch outcome task) := by
  cases task with
  | tell delta =>
    refine ⟨holds.row, ?_, holds.snapshots⟩
    intro copy member
    obtain ⟨held, cached, rfl⟩ := Option.map_eq_some_iff.mp member
    exact booked _ _ (holds.cached held cached)
  | store delta direct => exact holds.store booked delta direct
  | load wanted =>
    simp only [State.resumeTask]
    split
    · exact holds.proceed wanted (by simp)
    · split
      · exact holds.proceed wanted (by simp)
      · apply holds.spawn
        intro snapshot other member
        cases mem_singleton.mp member
        exact holds.row
  | fill snapshot wanted =>
    simp only [State.resumeTask]
    split
    · exact holds.proceed wanted (by simp)
    · split
      · exact holds.proceed wanted (by simp)
      · have filled : Throughout property
            { state with cached := some (state.cached.getD snapshot) } := by
          refine ⟨holds.row, ?_, holds.snapshots⟩
          intro copy member
          cases cached : state.cached with
          | none =>
            rw [cached, Option.getD_none, Option.mem_some_iff] at member
            rw [← member]
            exact current snapshot wanted rfl
          | some held =>
            rw [cached, Option.getD_some, Option.mem_some_iff] at member
            rw [← member]
            exact holds.cached held cached
        exact filled.proceed wanted (by simp)
  | retry amount => exact holds.reserveCached booked amount (by simp)
  | fallback amount => exact holds.reserveRow booked amount

/-- A property that bookings keep is kept by every step. -/
theorem Throughout.step (action : Action) :
    Throughout property (state.step account batch action) := by
  cases action with
  | reserve amount =>
    simp only [State.step]
    split
    · exact holds
    · exact holds.reserveCached booked amount (by simp)
  | reserveRow amount =>
    simp only [State.step]
    split
    · exact holds
    · exact holds.reserveRow booked amount
  | adjust delta direct told =>
    have later : Throughout property
        (state.spawn (.store delta direct :: if told then [.tell delta] else [])) :=
      holds.spawn (by cases told <;> simp)
    exact ⟨later.row, later.cached, later.snapshots⟩
  | credit amount direct bound =>
    simp only [State.step, State.credit]
    split
    · exact holds
    · have later : Throughout property ((state.store account amount direct).spawn [.tell amount]) :=
        (holds.store booked amount direct).spawn (by simp)
      exact ⟨later.row, later.cached, later.snapshots⟩
  | read => exact holds.spawn (by simp)
  | resume index outcome =>
    simp only [State.step, State.resume]
    cases found : state.pending[index]? with
    | none => exact holds
    | some task =>
      have rest : Throughout property { state with pending := state.pending.eraseIdx index } :=
        ⟨holds.row, holds.cached, fun snapshot wanted member =>
          holds.snapshots snapshot wanted (mem_of_mem_eraseIdx member)⟩
      apply rest.resumeTask booked
      rintro snapshot wanted rfl
      exact holds.snapshots snapshot wanted (mem_of_getElem? found)
  | take => exact ⟨holds.row, holds.cached, holds.snapshots⟩
  | flush => exact ⟨booked _ _ holds.row, holds.cached, holds.snapshots⟩
  | expire => exact ⟨holds.row, by simp [State.step], holds.snapshots⟩
  | idle => exact holds

end

end Throughout

end WriteBehind

end AiHub.Library

import Mathlib.Data.List.Basic
import Mathlib.Data.Int.Order.Basic
import Mathlib.Order.Basic

/-!
# Queues over a sliding window

A limiter that admits at most `limit` events in every window of a given width has no need
of its whole history.  A queue of the last events is enough, and events that have left the
window may be dropped from it, one at a time or all at once.

`Keeps` says when a queue may stand for a history.  Whether a limit is reached can then be
seen from the queue alone, and events that are only admitted below the limit are spaced.
-/

namespace AiHub.Library.SlidingWindow

open List

variable {limit : Nat} {width clock now : Int} {history queue : List Int}

/-- The events that are less than the width of the window ago. -/
def recent (width now : Int) (history : List Int) : List Int :=
  history.filter fun time => now - time < width

/-- The queue has `limit` events and the oldest of them is recent. -/
def Full (limit : Nat) (width now : Int) (queue : List Int) : Prop :=
  limit ≤ queue.length ∧ ∀ oldest ∈ queue.head?, now - oldest < width

/-- Any `limit + 1` events span the width of the window. -/
def Spaced (limit : Nat) (width : Int) (history : List Int) : Prop :=
  ∀ (first last : Nat) (_apart : first + limit ≤ last) (_inRange : last < history.length),
    width ≤ history[last] - history[first]

/-- A queue is the end of a history, and what it lacks of `limit` events had left the window
before the first event that is there. -/
structure Keeps (limit : Nat) (width clock : Int) (history queue : List Int) : Prop where
  sorted : history.Pairwise (· ≤ ·)
  past : ∀ time ∈ history, time ≤ clock
  short : queue.length ≤ limit
  dropped : ∃ old, history = old ++ queue ∧
    (queue.length < limit → ∀ time ∈ old, time + width ≤ queue.headD clock)

theorem recent_length_le (width now : Int) (history : List Int) :
    (recent width now history).length ≤ history.length :=
  length_filter_le _ _

theorem recent_append (width now : Int) (first second : List Int) :
    recent width now (first ++ second) = recent width now first ++ recent width now second :=
  filter_append _ _

theorem recent_eq_nil (left : ∀ time ∈ history, time + width ≤ now) :
    recent width now history = [] := by
  rw [recent, filter_eq_nil_iff]
  intro time member
  have old := left time member
  simp only [decide_eq_true_eq]
  omega

theorem recent_eq_self (inside : ∀ time ∈ history, now - time < width) :
    recent width now history = history := by
  rw [recent, filter_eq_self]
  intro time member
  exact decide_eq_true (inside time member)

theorem keeps_nil (limit : Nat) (width clock : Int) : Keeps limit width clock [] [] :=
  ⟨.nil, by simp, Nat.zero_le _, [], rfl, by simp⟩

namespace Keeps

theorem tick (keeps : Keeps limit width clock history queue) (later : clock ≤ now) :
    Keeps limit width now history queue := by
  obtain ⟨old, split, left⟩ := keeps.dropped
  refine ⟨keeps.sorted, fun time member => (keeps.past time member).trans later, keeps.short,
    old, split, ?_⟩
  intro room time member
  have before := left room time member
  cases queue with
  | nil => exact before.trans later
  | cons oldest rest => exact before

variable {time oldest : Int} {rest : List Int}

/-- What was dropped is not after what is there. -/
theorem old_le (keeps : Keeps limit width clock (history ++ queue) queue)
    (member : time ∈ history) (there : oldest ∈ queue) :
    time ≤ oldest :=
  (pairwise_append.mp keeps.sorted).2.2 time member oldest there

theorem oldest_le (keeps : Keeps limit width clock history (oldest :: rest))
    (there : time ∈ oldest :: rest) :
    oldest ≤ time := by
  obtain ⟨old, rfl, -⟩ := keeps.dropped
  have sorted := (pairwise_append.mp keeps.sorted).2.1
  rcases mem_cons.mp there with rfl | later
  · exact le_rfl
  · exact rel_of_pairwise_cons sorted later

section

variable (keeps : Keeps limit width clock history queue)
include keeps

/-- The limit is reached in the window if the queue is full. -/
theorem reached_iff_full (later : clock ≤ now) :
    limit ≤ (recent width now history).length ↔ Full limit width now queue := by
  obtain ⟨old, rfl, left⟩ := keeps.dropped
  rw [recent_append, length_append]
  constructor
  · intro reached
    have most := recent_length_le width now queue
    have full : limit ≤ queue.length := by
      by_contra room
      have gone : recent width now old = [] := by
        apply recent_eq_nil
        intro time member
        have before := left (by omega) time member
        cases queue with
        | nil => exact before.trans later
        | cons oldest rest =>
          have past := keeps.past oldest (by simp)
          exact before.trans (past.trans later)
      rw [gone, length_nil] at reached
      omega
    refine ⟨full, ?_⟩
    intro oldest isOldest
    obtain ⟨rest, rfl⟩ := head?_eq_some_iff.mp isOldest
    -- If the oldest event had left the window, fewer than `limit` would be in it.
    by_contra expired
    have gone : recent width now (old ++ [oldest]) = [] := by
      apply recent_eq_nil
      intro time member
      rcases mem_append.mp member with before | isLast
      · have ordered := keeps.old_le before mem_cons_self
        omega
      · cases mem_singleton.mp isLast
        omega
    have rest_le := recent_length_le width now rest
    have count : (recent width now old).length +
        (recent width now (oldest :: rest)).length = (recent width now rest).length := by
      rw [← length_append, ← recent_append, append_cons, recent_append, gone, nil_append]
    have short := keeps.short
    rw [length_cons] at short
    omega
  · rintro ⟨full, inside⟩
    have all : recent width now queue = queue := by
      apply recent_eq_self
      intro time member
      cases queue with
      | nil => cases member
      | cons oldest rest =>
        have first := keeps.oldest_le member
        have near := inside oldest rfl
        omega
    rw [all]
    omega

theorem record (later : clock ≤ now) :
    (history ++ [now]).Pairwise (· ≤ ·) ∧ ∀ time ∈ history ++ [now], time ≤ now := by
  have past : ∀ time ∈ history, time ≤ now := fun time member =>
    (keeps.past time member).trans later
  simp only [pairwise_append, pairwise_singleton, mem_append, mem_singleton]
  exact ⟨⟨keeps.sorted, trivial, fun time member _ last => last ▸ past time member⟩,
    fun time member => member.elim (past time) le_of_eq⟩

/-- An event is added to a queue with room. -/
theorem append (room : queue.length < limit)
    (later : clock ≤ now) : Keeps limit width now (history ++ [now]) (queue ++ [now]) := by
  obtain ⟨old, split, left⟩ := (keeps.tick later).dropped
  obtain ⟨sorted, past⟩ := keeps.record later
  refine ⟨sorted, past, by simpa using Nat.succ_le_of_lt room, old, by rw [split, append_assoc], ?_⟩
  intro _ time member
  have before := left room time member
  cases queue with
  | nil => exact before
  | cons oldest rest => exact before

end

/-- An event takes the place of the oldest one. -/
theorem shift (keeps : Keeps limit width clock history (oldest :: rest))
    (full : limit ≤ (oldest :: rest).length) (later : clock ≤ now) :
    Keeps limit width now (history ++ [now]) (rest ++ [now]) := by
  obtain ⟨old, split, -⟩ := keeps.dropped
  have short := keeps.short
  rw [length_cons] at short full
  obtain ⟨sorted, past⟩ := keeps.record later
  refine ⟨sorted, past, by simpa using short, old ++ [oldest], by simp [split], ?_⟩
  intro room
  rw [length_append, length_singleton] at room
  omega

/-- A queue whose last event has left the window may be dropped. -/
theorem forget (keeps : Keeps limit width clock history queue) (positive : 0 < limit)
    (later : clock ≤ now) (gone : ∀ last ∈ queue.getLast?, last + width ≤ now) :
    Keeps limit width now history [] := by
  obtain ⟨old, rfl, left⟩ := (keeps.tick later).dropped
  refine ⟨keeps.sorted, fun time member => (keeps.past time member).trans later,
    Nat.zero_le _, old ++ queue, by simp, ?_⟩
  intro _ time member
  rcases queue.eq_nil_or_concat with rfl | ⟨front, last, rfl⟩
  · rw [append_nil] at member
    exact left positive time member
  · have expired := gone last (by simp)
    rw [concat_eq_append, ← append_assoc, mem_append, mem_singleton] at member
    rcases member with before | rfl
    · have sorted := keeps.sorted
      rw [concat_eq_append, ← append_assoc] at sorted
      have ordered := (pairwise_append.mp sorted).2.2 time before last (by simp)
      exact (Int.add_le_add_right ordered width).trans expired
    · exact expired

end Keeps

theorem spaced_nil (limit : Nat) (width : Int) : Spaced limit width [] := by
  intro first last _ inRange
  simp at inRange

/-- Events that are admitted below the limit are spaced. -/
theorem Spaced.append (spaced : Spaced limit width history) (sorted : history.Pairwise (· ≤ ·))
    (below : (recent width now history).length < limit) :
    Spaced limit width (history ++ [now]) := by
  intro first last apart inRange
  rw [length_append, length_singleton] at inRange
  have firstInRange : first < history.length := by
    omega
  rw [getElem_append_left firstInRange]
  by_cases isLast : last < history.length
  · rw [getElem_append_left isLast]
    exact spaced first last apart isLast
  · have lastIs : (history ++ [now])[last] = now := by
      rw [getElem_append_right (by omega)]
      simp
    -- Otherwise everything from the first event on is recent.
    by_contra near
    have all : recent width now (history.drop first) = history.drop first := by
      apply recent_eq_self
      intro time member
      obtain ⟨offset, offsetInRange, rfl⟩ := getElem_of_mem member
      rw [getElem_drop]
      rw [length_drop] at offsetInRange
      have ordered : history[first] ≤ history[first + offset] := by
        rcases Nat.eq_zero_or_pos offset with rfl | positive
        · exact le_rfl
        · exact pairwise_iff_getElem.mp sorted first (first + offset) firstInRange
            (by omega) (by omega)
      omega
    have count : (recent width now (history.drop first)).length ≤
        (recent width now history).length := by
      conv_rhs => rw [← take_append_drop first history, recent_append, length_append]
      omega
    rw [all, length_drop] at count
    omega

end AiHub.Library.SlidingWindow

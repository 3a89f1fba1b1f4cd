import Mathlib.Data.List.TakeWhile
import Mathlib.Tactic

/-!
# Text with pieces kept, lost and added

A text is passed on in pieces, of which some are lost and some are added.  If what is added, or
what is lost, is only made of one blank letter, the text that arrives is the one that was sent
exactly if everything that is lost and added is blank and cancels out before each piece that has
another letter, and at the end.
-/

namespace AiHub.Library

open List

/-- A piece of a text: it arrives, it does not, or it has not been sent. -/
inductive Piece (Letter : Type) where
  | kept (letters : List Letter)
  | lost (letters : List Letter)
  | added (letters : List Letter)
  deriving DecidableEq, Repr

variable {Letter : Type}

namespace Piece

def sent : Piece Letter → List Letter
  | .kept letters | .lost letters => letters
  | .added _ => []

def arrived : Piece Letter → List Letter
  | .kept letters | .added letters => letters
  | .lost _ => []

/-- All letters are the blank one. -/
def Blank (blank : Letter) (letters : List Letter) : Prop := ∀ letter ∈ letters, letter = blank

instance [DecidableEq Letter] (blank : Letter) (letters : List Letter) :
    Decidable (Blank blank letters) :=
  inferInstanceAs (Decidable (∀ letter ∈ letters, letter = blank))

/-- What is lost and added is blank and cancels out before each kept piece that is not; so many
blank letters are owed. -/
def Balanced (blank : Letter) : Int → List (Piece Letter) → Prop
  | owed, [] => owed = 0
  | owed, .kept letters :: rest => (Blank blank letters ∨ owed = 0) ∧ Balanced blank owed rest
  | owed, .lost letters :: rest =>
    Blank blank letters ∧ Balanced blank (owed + letters.length) rest
  | owed, .added letters :: rest =>
    Blank blank letters ∧ Balanced blank (owed - letters.length) rest

def decidableBalanced [DecidableEq Letter] (blank : Letter) :
    (owed : Int) → (pieces : List (Piece Letter)) → Decidable (Balanced blank owed pieces)
  | owed, [] => inferInstanceAs (Decidable (owed = 0))
  | owed, .kept _ :: rest =>
    have := decidableBalanced blank owed rest
    inferInstanceAs (Decidable ((_ ∨ _) ∧ _))
  | owed, .lost letters :: rest =>
    have := decidableBalanced blank (owed + letters.length) rest
    inferInstanceAs (Decidable (_ ∧ _))
  | owed, .added letters :: rest =>
    have := decidableBalanced blank (owed - letters.length) rest
    inferInstanceAs (Decidable (_ ∧ _))

instance [DecidableEq Letter] (blank : Letter) (owed : Int) (pieces : List (Piece Letter)) :
    Decidable (Balanced blank owed pieces) :=
  decidableBalanced blank owed pieces

/-- Either nothing or blanks are added, or nothing or blanks are lost. -/
def OneSided (blank : Letter) (pieces : List (Piece Letter)) : Prop :=
  (∀ letters, .added letters ∈ pieces → Blank blank letters) ∨
    ∀ letters, .lost letters ∈ pieces → Blank blank letters

variable {blank : Letter} {letters : List Letter} {pieces : List (Piece Letter)}

theorem eq_replicate_of_blank (isBlank : Blank blank letters) :
    letters = List.replicate letters.length blank :=
  eq_replicate_iff.mpr ⟨rfl, isBlank⟩

theorem OneSided.tail {piece : Piece Letter} {rest : List (Piece Letter)}
    (oneSided : OneSided blank (piece :: rest)) : OneSided blank rest :=
  oneSided.imp (fun blanks letters member => blanks letters (mem_cons_of_mem _ member))
    fun blanks letters member => blanks letters (mem_cons_of_mem _ member)

variable [DecidableEq Letter]

/-- The letters other than the blank one. -/
def others (blank : Letter) (letters : List Letter) : Nat :=
  letters.countP fun letter => letter ≠ blank

theorem others_eq_zero_iff : others blank letters = 0 ↔ Blank blank letters := by
  simp [others, countP_eq_zero, Blank]

@[simp] theorem others_append (blank : Letter) (letters more : List Letter) :
    others blank (letters ++ more) = others blank letters + others blank more :=
  countP_append

@[simp] theorem others_replicate (blank : Letter) (count : Nat) :
    others blank (List.replicate count blank) = 0 :=
  others_eq_zero_iff.mpr fun _ member => eq_of_mem_replicate member

/-- Before a piece that is not blank both texts have the same number of blanks. -/
theorem replicate_append_eq_iff (notBlank : ¬ Blank blank letters) (left right : Nat)
    (after before : List Letter) :
    List.replicate left blank ++ (letters ++ after) =
        List.replicate right blank ++ (letters ++ before) ↔
      left = right ∧ after = before := by
  have leading : ∀ (count : Nat) (more : List Letter),
      (List.replicate count blank ++ (letters ++ more)).takeWhile (· = blank) =
        List.replicate count blank ++ letters.takeWhile (· = blank) := by
    intro count more
    rw [takeWhile_append_of_pos (by simp +contextual), takeWhile_append, if_neg]
    intro all
    have whole : letters.takeWhile (· = blank) = letters :=
      (List.takeWhile_prefix _).eq_of_length all
    refine notBlank fun letter member => ?_
    simpa using takeWhile_eq_self_iff.mp whole letter member
  constructor
  · intro same
    have lengths := congrArg (fun letters => (letters.takeWhile (· = blank)).length) same
    simp only [leading, length_append, length_replicate, Nat.add_right_cancel_iff] at lengths
    subst lengths
    exact ⟨rfl, append_cancel_left (append_cancel_left same)⟩
  · rintro ⟨rfl, rfl⟩
    rfl

/-- With blanks only added, no other letters arrive than are sent, and conversely. -/
theorem others_le :
    ((∀ letters, .added letters ∈ pieces → Blank blank letters) →
        others blank (pieces.flatMap arrived) ≤ others blank (pieces.flatMap sent)) ∧
      ((∀ letters, .lost letters ∈ pieces → Blank blank letters) →
        others blank (pieces.flatMap sent) ≤ others blank (pieces.flatMap arrived)) := by
  induction pieces with
  | nil => simp
  | cons piece rest ih =>
    simp only [flatMap_cons, others_append]
    constructor
    · intro blankAdded
      refine Nat.add_le_add ?_
        (ih.1 fun letters member => blankAdded letters (mem_cons_of_mem _ member))
      cases piece with
      | kept letters => exact le_rfl
      | lost letters => exact Nat.zero_le _
      | added letters =>
        have isBlank := others_eq_zero_iff.mpr (blankAdded letters mem_cons_self)
        simp only [arrived, isBlank, Nat.zero_le]
    · intro blankLost
      refine Nat.add_le_add ?_
        (ih.2 fun letters member => blankLost letters (mem_cons_of_mem _ member))
      cases piece with
      | kept letters => exact le_rfl
      | added letters => exact Nat.zero_le _
      | lost letters =>
        have isBlank := others_eq_zero_iff.mpr (blankLost letters mem_cons_self)
        simp only [sent, isBlank, Nat.zero_le]

/-- The texts with some blanks before each are the same exactly if the pieces are balanced. -/
theorem replicate_append_arrived_eq_iff (oneSided : OneSided blank pieces) (left right : Nat) :
    List.replicate left blank ++ pieces.flatMap arrived =
        List.replicate right blank ++ pieces.flatMap sent ↔
      Balanced blank (right - left) pieces := by
  induction pieces generalizing left right with
  | nil =>
    simp only [flatMap_nil, append_nil, Balanced, replicate_inj]
    constructor
    · rintro ⟨rfl, -⟩
      exact sub_self _
    · intro same
      exact ⟨by omega, .inr trivial⟩
  | cons piece rest ih =>
    simp only [flatMap_cons]
    have tail := ih oneSided.tail
    cases piece with
    | kept letters =>
      simp only [arrived, sent, Balanced]
      by_cases isBlank : Blank blank letters
      · rw [eq_replicate_of_blank isBlank, ← append_assoc, ← append_assoc,
          replicate_append_replicate, replicate_append_replicate, tail,
          ← eq_replicate_of_blank isBlank]
        simp [isBlank]
      · rw [replicate_append_eq_iff isBlank]
        have same := tail 0 0
        simp only [replicate_zero, nil_append, sub_self, Nat.cast_zero] at same
        rw [same]
        simp only [isBlank, false_or, sub_eq_zero, Nat.cast_inj]
        constructor
        · rintro ⟨rfl, balanced⟩
          exact ⟨rfl, by simpa using balanced⟩
        · rintro ⟨rfl, balanced⟩
          exact ⟨rfl, by simpa using balanced⟩
    | lost letters =>
      simp only [arrived, sent, Balanced, nil_append]
      by_cases isBlank : Blank blank letters
      · rw [eq_replicate_of_blank isBlank, ← append_assoc,
          replicate_append_replicate, tail, ← eq_replicate_of_blank isBlank]
        simp only [isBlank, true_and, Nat.cast_add, add_sub_right_comm]
      · simp only [isBlank, false_and, iff_false]
        intro same
        have counts := congrArg (others blank) same
        simp only [others_append, others_replicate, Nat.zero_add] at counts
        have lost := mt others_eq_zero_iff.mp isBlank
        rcases oneSided with blankAdded | blankLost
        · have bound := others_le.1
            fun letters member => blankAdded letters (mem_cons_of_mem _ member)
          omega
        · exact isBlank (blankLost letters mem_cons_self)
    | added letters =>
      simp only [arrived, sent, Balanced, nil_append]
      by_cases isBlank : Blank blank letters
      · rw [eq_replicate_of_blank isBlank, ← append_assoc,
          replicate_append_replicate, tail, ← eq_replicate_of_blank isBlank]
        simp only [isBlank, true_and, Nat.cast_add, sub_sub]
      · simp only [isBlank, false_and, iff_false]
        intro same
        have counts := congrArg (others blank) same
        simp only [others_append, others_replicate, Nat.zero_add] at counts
        have added := mt others_eq_zero_iff.mp isBlank
        rcases oneSided with blankAdded | blankLost
        · exact isBlank (blankAdded letters mem_cons_self)
        · have bound := others_le.2
            fun letters member => blankLost letters (mem_cons_of_mem _ member)
          omega

/-- What arrives is what was sent exactly if the pieces are balanced. -/
theorem arrived_eq_sent_iff (oneSided : OneSided blank pieces) :
    pieces.flatMap arrived = pieces.flatMap sent ↔ Balanced blank 0 pieces := by
  simpa using replicate_append_arrived_eq_iff oneSided 0 0

end Piece

end AiHub.Library

import Mathlib.Tactic

/-!
# Admitting items one by one

Items make claims to keys.  A claim is compared with the first one under its key only; this is
enough if claims under one key that do not clash clash with the same others.

Candidates are admitted greedily: each is added if the accepted ones stay admissible with it.
If everything that is admissible stays so when something is left out, the accepted items are
admissible, those that are admissible together are all accepted if they come first, and none of
the refused ones can be added afterwards.
-/

namespace AiHub.Library

open List

universe u v

/-! ## Claims -/

section Claims

variable {Claim : Type u} {Key : Type v} [DecidableEq Key]

/-- Two claims are not to the same key, or do not clash. -/
def Unclashing (key : Claim → Key) (clash : Claim → Claim → Bool) (first second : Claim) : Prop :=
  key first = key second → clash first second = false

/-- Claims under one key that do not clash clash with the same others. -/
def Uniform (key : Claim → Key) (clash : Claim → Claim → Bool) : Prop :=
  ∀ first second third, key first = key second → key second = key third →
    clash first second = false → clash first third = clash second third

variable {key : Claim → Key} {clash : Claim → Claim → Bool}

/-- It is enough to compare a claim with the first one under its key. -/
theorem unclashing_first_iff (uniform : Uniform key clash) {claims : List Claim}
    (pairwise : claims.Pairwise (Unclashing key clash)) (claim : Claim) :
    (∀ first, claims.find? (fun other => key other = key claim) = some first →
        clash first claim = false) ↔
      ∀ other ∈ claims, Unclashing key clash other claim := by
  induction claims with
  | nil => simp
  | cons head rest ih =>
    rw [pairwise_cons] at pairwise
    by_cases same : key head = key claim
    · rw [find?_cons_of_pos (by simpa using same)]
      constructor
      · intro first other member sameKey
        have headUnclashing := first head rfl
        rcases mem_cons.mp member with rfl | isLater
        · exact headUnclashing
        · have between := pairwise.1 other isLater (same.trans sameKey.symm)
          rw [← uniform head other claim (same.trans sameKey.symm) sameKey between]
          exact headUnclashing
      · rintro every first isFirst
        rw [← Option.some.inj isFirst]
        exact every head mem_cons_self same
    · rw [find?_cons_of_neg (by simpa using same), ih pairwise.2]
      constructor
      · intro every other member
        rcases mem_cons.mp member with rfl | isLater
        · exact fun sameKey => absurd sameKey same
        · exact every other isLater
      · exact fun every other member => every other (mem_cons_of_mem _ member)

end Claims

/-! ## Loops that refuse -/

section Loops

variable {State : Type u} {Item : Type v}

/-- A result that is there exactly under a condition, and what is known of it. -/
def Settles (condition : Prop) (post : State → Prop) : Except String State → Prop
  | .ok state => condition ∧ post state
  | .error _ => ¬ condition

variable {post further : State → Prop} {result : Except String State}

theorem Settles.congr {condition other : Prop} (settles : Settles condition post result)
    (same : condition ↔ other) (implies : ∀ state, condition → post state → further state) :
    Settles other further result := by
  cases result with
  | error reason => exact fun holds => settles (same.mpr holds)
  | ok state => exact ⟨same.mp settles.1, implies state settles.1 settles.2⟩

/-- Two steps that follow each other settle both conditions. -/
theorem Settles.bind {first second : Prop} {next : State → Except String State}
    (settles : Settles first post result)
    (then_settles : ∀ state, first → post state → Settles second further (next state)) :
    Settles (first ∧ second) further (result >>= next) := by
  cases result with
  | error reason => exact fun both => settles both.1
  | ok state =>
    exact (then_settles state settles.1 settles.2).congr
      ⟨fun holds => ⟨settles.1, holds⟩, And.right⟩ fun _ _ known => known

/-- A loop whose turns each refuse an item that is bad or does not go with one before. -/
theorem foldlM_settles {step : State → Item → Except String State}
    {known : State → List Item → Prop} {good : Item → Prop} {goesWith : Item → Item → Prop}
    {items : List Item}
    (turn : ∀ state done, ∀ item ∈ items, done.Pairwise goesWith → known state done →
      Settles (good item ∧ ∀ other ∈ done, goesWith other item)
        (fun after => known after (done ++ [item])) (step state item))
    {state : State} {done : List Item} (pairwise : done.Pairwise goesWith)
    (start : known state done) :
    Settles ((∀ item ∈ items, good item) ∧ (done ++ items).Pairwise goesWith)
      (fun after => known after (done ++ items)) (items.foldlM step state) := by
  induction items generalizing state done with
  | nil =>
    rw [append_nil]
    exact ⟨⟨fun _ none => absurd none not_mem_nil, pairwise⟩, start⟩
  | cons item rest ih =>
    have again : done ++ item :: rest = (done ++ [item]) ++ rest := by
      rw [append_assoc]
      rfl
    refine ((turn state done item mem_cons_self pairwise start).bind
      fun after accepted isKnown => ih (fun state done other member => turn state done other
        (mem_cons_of_mem _ member)) ?_ isKnown).congr ?_ fun _ _ isKnown => again ▸ isKnown
    · rw [pairwise_append]
      refine ⟨pairwise, pairwise_singleton _ _, fun other member new isNew => ?_⟩
      rw [mem_singleton.mp isNew]
      exact accepted.2 other member
    · rw [again, forall_mem_cons]
      constructor
      · rintro ⟨⟨isGood, -⟩, areGood, together⟩
        exact ⟨⟨isGood, areGood⟩, together⟩
      · rintro ⟨⟨isGood, areGood⟩, together⟩
        refine ⟨⟨isGood, fun other member => ?_⟩, areGood, together⟩
        have first := (pairwise_append.mp together).1
        exact (pairwise_append.mp first).2.2 other member item mem_cons_self

end Loops

/-! ## Candidates -/

section Candidates

variable {Item : Type u} (admissible : List Item → Bool)

/-- A candidate is accepted if the accepted items stay admissible with it. -/
def admitNext (accepted : List Item) (candidate : Item) : List Item :=
  if admissible (accepted ++ [candidate]) then accepted ++ [candidate] else accepted

/-- All candidates, one by one. -/
def admitAll (accepted candidates : List Item) : List Item :=
  candidates.foldl (admitNext admissible) accepted

/-- What is admissible stays so when something is left out and the order is changed. -/
def DownwardClosed : Prop :=
  ∀ {items fewer : List Item}, fewer.Subperm items → admissible items = true →
    admissible fewer = true

variable {admissible}

theorem prefix_admitNext (accepted : List Item) (candidate : Item) :
    accepted <+: admitNext admissible accepted candidate := by
  rw [admitNext]
  split
  · exact prefix_append _ _
  · exact prefix_refl _

/-- What was accepted stays so. -/
theorem prefix_admitAll (accepted candidates : List Item) :
    accepted <+: admitAll admissible accepted candidates := by
  induction candidates generalizing accepted with
  | nil => exact prefix_refl _
  | cons candidate rest ih => exact (prefix_admitNext accepted candidate).trans (ih _)

/-- Only candidates are accepted, each at most as often as it is one. -/
theorem admitAll_sublist (accepted candidates : List Item) :
    (admitAll admissible accepted candidates).Sublist (accepted ++ candidates) := by
  induction candidates generalizing accepted with
  | nil =>
    rw [append_nil]
    exact List.Sublist.refl _
  | cons candidate rest ih =>
    refine (ih _).trans ?_
    rw [admitNext]
    split
    · rw [append_assoc]
      exact List.Sublist.refl _
    · exact List.Sublist.append_left (sublist_cons_self _ _) _

variable {accepted candidates : List Item}

/-- Candidates that are admissible together with what was accepted are all accepted. -/
theorem admitAll_eq_append (closed : DownwardClosed admissible)
    (together : admissible (accepted ++ candidates) = true) :
    admitAll admissible accepted candidates = accepted ++ candidates := by
  induction candidates generalizing accepted with
  | nil => exact (append_nil _).symm
  | cons candidate rest ih =>
    have again : accepted ++ candidate :: rest = (accepted ++ [candidate]) ++ rest := by
      rw [append_assoc]
      rfl
    rw [again] at together ⊢
    have accepts : admissible (accepted ++ [candidate]) = true :=
      closed (sublist_append_left _ _).subperm together
    change admitAll admissible (admitNext admissible accepted candidate) rest = _
    rw [admitNext, if_pos accepts]
    exact ih together

/-- A refused candidate cannot be added to the accepted items, nor to more than these. -/
theorem not_admissible_of_refused (closed : DownwardClosed admissible) {candidate : Item}
    (member : candidate ∈ candidates)
    (refused : candidate ∉ admitAll admissible accepted candidates) {more : List Item}
    (contains : (admitAll admissible accepted candidates ++ [candidate]).Subperm more) :
    admissible more = false := by
  induction candidates generalizing accepted with
  | nil => exact absurd member not_mem_nil
  | cons first rest ih =>
    rcases mem_cons.mp member with rfl | isLater
    · rw [Bool.eq_false_iff]
      intro stillAdmissible
      have whole := closed contains stillAdmissible
      have before := @prefix_admitAll _ admissible accepted (candidate :: rest)
      have accepts : admissible (accepted ++ [candidate]) = true :=
        closed (before.sublist.append (List.Sublist.refl _)).subperm whole
      have isAccepted : candidate ∈ admitNext admissible accepted candidate := by
        rw [admitNext, if_pos accepts]
        exact mem_append_right _ mem_cons_self
      exact refused ((prefix_admitAll _ rest).subset isAccepted)
    · exact ih isLater refused contains

end Candidates

end AiHub.Library

import AiHub.Library.Stages
import AiHub.Relaykit.GeminiToChatStream

/-!
# The end of Gemini streams

A Gemini stream may have several candidates, each with a finish reason of its own.  The state of
the stream only knows whether some finish reason has been sent, and the chunk that ends a stream
is one of candidate zero.  A stream is finished once if it has no other candidate and nothing is
said after its end, or if every candidate ends with a reason of its own.
-/

namespace AiHub.Relaykit.GeminiToChat

open AiHub.Library List StreamState

variable {Usage : Type}

/-! ## Choices with a finish reason -/

/-- The choice has a finish reason. -/
def finishes (choice : ChatStreamChoice) : Bool := choice.finishReason.any (· ≠ "")

/-- The choice has content. -/
def speaks (choice : ChatStreamChoice) : Bool :=
  choice.delta.getContentString ≠ "" || choice.delta.getReasoningContent ≠ "" ||
    choice.delta.toolCalls ≠ []

/-- One choice has a finish reason, and there is no content after it. -/
def Ended (choices : List ChatStreamChoice) : Prop :=
  ∃ before last after, choices = before ++ last :: after ∧ finishes last = true ∧
    (∀ other ∈ before, finishes other = false) ∧
    ∀ other ∈ after, finishes other = false ∧ speaks other = false

variable {choices new : List ChatStreamChoice} {candidate : GeminiCandidate}
  {state : StreamState Usage} {input : StreamInput Usage} {chunks : List (ChatStreamChunk Usage)}

theorem Ended.after (ended : Ended choices)
    (silent : ∀ other ∈ new, finishes other = false ∧ speaks other = false) :
    Ended (choices ++ new) := by
  obtain ⟨before, last, after, rfl, isLast, open_, quiet⟩ := ended
  refine ⟨before, last, after ++ new, by simp, isLast, open_, ?_⟩
  intro other member
  exact (mem_append.mp member).elim (quiet other) (silent other)

theorem Ended.before (ended : Ended new) (unfinished : ∀ other ∈ choices, finishes other = false) :
    Ended (choices ++ new) := by
  obtain ⟨before, last, after, rfl, isLast, open_, quiet⟩ := ended
  refine ⟨choices ++ before, last, after, by simp, isLast, ?_, quiet⟩
  intro other member
  exact (mem_append.mp member).elim (unfinished other) (open_ other)

/-! ## One response -/

/-- The candidate has no text and no finish reason of its own. -/
def Silent (candidate : GeminiCandidate) : Prop :=
  (candidate.finishReason = none ∨ candidate.finishReason = some "STOP") ∧
    candidate.parts.length ≤ 1 ∧
      ∀ part ∈ candidate.parts, GeminiPart.isText part = true ∧ part.text = ""

/-- What a response must be like: one candidate, of index zero, that says nothing and gives no
reason of its own once a finish reason has been sent. -/
structure Orderly (state : StreamState Usage) (input : StreamInput Usage) : Prop where
  single : input.candidates.length ≤ 1
  zero : ∀ candidate ∈ input.candidates, candidate.index = 0
  silent : state.finishEmitted = true → ∀ candidate ∈ input.candidates, Silent candidate

theorem assignIndex_finishEmitted (state : StreamState Usage) (candidate : Int)
    (toolCall : ToolCallResponse) :
    (state.assignIndex candidate toolCall).1.finishEmitted = state.finishEmitted := by
  unfold assignIndex
  dsimp only
  split <;> rfl

theorem assignIndexes_finishEmitted (state : StreamState Usage) (choice : ChatStreamChoice) :
    (state.assignIndexes choice).1.finishEmitted = state.finishEmitted := by
  unfold assignIndexes
  dsimp only
  generalize choice.delta.toolCalls = calls
  suffices all : ∀ assigned : StreamState Usage × List ToolCallResponse,
      (calls.foldl (fun assigned toolCall =>
        ((assigned.1.assignIndex choice.index toolCall).1,
          assigned.2 ++ [(assigned.1.assignIndex choice.index toolCall).2]))
        assigned).1.finishEmitted = assigned.1.finishEmitted from all (state, [])
  induction calls with
  | nil => exact fun assigned => rfl
  | cons call rest ih =>
    intro assigned
    rw [foldl_cons, ih]
    rw [assignIndex_finishEmitted]

theorem assignAllIndexes_single (state : StreamState Usage) (choice : ChatStreamChoice) :
    ∃ after assigned, state.assignAllIndexes [choice] = (after, [assigned]) ∧
      assigned.index = choice.index ∧ after.finishEmitted = state.finishEmitted :=
  ⟨_, _, rfl, rfl, assignIndexes_finishEmitted state choice⟩

theorem prepared_single {partialTools after : GoMap Int PartialToolCall}
    {prepared : List GeminiCandidate}
    (done : preparePartialFunctionCalls partialTools [candidate] = .ok (after, prepared)) :
    ∃ parts, prepared = [{ candidate with parts := parts }] := by
  unfold preparePartialFunctionCalls at done
  rw [foldlM_cons] at done
  cases parts : candidate.parts.foldlM (preparePart candidate.index) (partialTools, []) with
  | error err =>
    rw [parts] at done
    cases done
  | ok parts =>
    rw [parts] at done
    cases done
    exact ⟨_, rfl⟩

theorem choiceOf_silent (silent : Silent candidate) (uuids : Nat → String) :
    finishes (choiceOf uuids candidate) = false ∧ speaks (choiceOf uuids candidate) = false := by
  obtain ⟨index, finishReason, parts⟩ := candidate
  obtain ⟨reason, short, empty⟩ := silent
  have noReason : finishReasonOf finishReason = none := by
    rcases reason with rfl | rfl <;> rfl
  match parts with
  | [] => simp [finishes, speaks, choiceOf, writeParts, Writing.initial, noReason,
      ChoiceDelta.getContentString, ChoiceDelta.getReasoningContent]
  | [⟨text, thought, inlineData, functionCall, executableCode, codeExecutionResult⟩] =>
    obtain ⟨isText, rfl⟩ := empty _ (mem_singleton_self _)
    simp only [GeminiPart.isText, Bool.and_eq_true, Option.isNone_iff_eq_none] at isText
    obtain ⟨⟨⟨rfl, rfl⟩, rfl⟩, rfl⟩ := isText
    have written : writeParts uuids [⟨"", thought, none, none, none, none⟩] =
        ⟨"", 1, [], false, thought⟩ := by
      cases thought <;> rfl
    cases thought <;> simp [finishes, speaks, choiceOf, written, noReason,
      ChoiceDelta.getContentString, ChoiceDelta.getReasoningContent]
  | _ :: _ :: _ => simp at short

/-- The finish reason of a tool call may be taken back. -/
theorem takenBack_single (condition : Prop) [Decidable condition] (assigned : ChatStreamChoice) :
    ∃ choice,
      (if condition then
        [assigned].map fun choice =>
          if choice.finishReason = some "tool_calls" then { choice with finishReason := none }
          else choice
      else [assigned]) = [choice] ∧
      choice.index = assigned.index ∧
      (finishes assigned = false ∧ speaks assigned = false →
        finishes choice = false ∧ speaks choice = false) := by
  split
  · rw [map_singleton]
    split
    · exact ⟨_, rfl, rfl, fun quiet => ⟨rfl, quiet.2⟩⟩
    · exact ⟨_, rfl, rfl, id⟩
  · exact ⟨_, rfl, rfl, id⟩

variable {after : StreamState Usage} {final : StreamState Usage} {inputs : List (StreamInput Usage)}

/-- What is sent for a response with one candidate. -/
theorem convertChunk_single (only : input.candidates = [candidate])
    (done : state.convertChunk input = .ok (after, chunks)) :
    ∃ choice, choice.index = candidate.index ∧
      (Silent candidate → finishes choice = false ∧ speaks choice = false) ∧
      ((after.finishEmitted = (state.finishEmitted || finishes choice) ∧
          chunks.flatMap ChatStreamChunk.choices = [choice]) ∨
        (state.finishEmitted = false ∧ finishes choice = false ∧ after.finishEmitted = true ∧
          ∃ terminal, terminal.index = 0 ∧ finishes terminal = true ∧
            chunks.flatMap ChatStreamChunk.choices = [choice, terminal])) := by
  unfold convertChunk at done
  rw [only] at done
  split at done
  · cases done
  rename_i partialTools prepared isPrepared
  obtain ⟨parts, rfl⟩ := prepared_single isPrepared
  have converted : streamResponseGeminiChat2OpenAI input.uuids [{ candidate with parts }] =
      ([choiceOf (input.uuids 0) { candidate with parts }],
        decide (candidate.finishReason = some "STOP")) := by
    simp [streamResponseGeminiChat2OpenAI]
  obtain ⟨counted, assigned, isAssigned, sameIndex, sameFinish⟩ := assignAllIndexes_single
    { state with partialToolByCandidate := partialTools }
    (choiceOf (input.uuids 0) { candidate with parts })
  have quiet : Silent candidate → finishes assigned = false ∧ speaks assigned = false := by
    intro silent
    have isText := fun part member => (silent.2.2 part member).1
    rw [preparePartialFunctionCalls_text _ (forall_mem_singleton.mpr isText)] at isPrepared
    obtain rfl : candidate.parts = parts :=
      congrArg (fun prepared => (prepared.headD candidate).parts)
        (Prod.mk.inj (Except.ok.inj isPrepared)).2
    rw [assignAllIndexes_of_no_calls _ (forall_mem_singleton.mpr
      (choiceOf_spec isText (input.uuids 0)).2.2.1)] at isAssigned
    rw [← singleton_inj.mp (Prod.mk.inj isAssigned).2]
    exact choiceOf_silent silent (input.uuids 0)
  rw [converted] at done
  dsimp only at done
  rw [isAssigned] at done
  generalize @List.any GeminiCandidate _ _ = hasNonStopFinish at done
  obtain ⟨choice, isChosen, chosenIndex, chosenQuiet⟩ :=
    takenBack_single (isToolCall [assigned] ∧ !hasNonStopFinish) assigned
  rw [isChosen] at done
  refine ⟨choice, chosenIndex.trans sameIndex, fun silent => chosenQuiet (quiet silent), ?_⟩
  split at done
  · rename_i stops
    cases done
    have notYet : (state.finishEmitted || finishes choice) = false := by
      simpa [sameFinish, finishes] using stops.2
    obtain ⟨notBefore, notNow⟩ := Bool.or_eq_false_iff.mp notYet
    refine .inr ⟨notBefore, notNow, rfl, _, rfl, ?_, rfl⟩
    split <;> rfl
  · cases done
    simp [sameFinish, finishes]

/-! ## Whole streams -/

/-- The choices that have been sent: all of index zero, and ended if the state says so. -/
structure Told (state : StreamState Usage) (choices : List ChatStreamChoice) : Prop where
  zero : ∀ choice ∈ choices, choice.index = 0
  unfinished : state.finishEmitted = false → ∀ choice ∈ choices, finishes choice = false
  ended : state.finishEmitted = true → Ended choices

theorem Told.convertChunk (told : Told state choices)
    (orderly : Orderly state input) (done : state.convertChunk input = .ok (after, chunks)) :
    Told after (choices ++ chunks.flatMap ChatStreamChunk.choices) := by
  obtain ⟨single, zero, silent⟩ := orderly
  match only : input.candidates with
  | [] =>
    unfold StreamState.convertChunk at done
    rw [only] at done
    cases done
    have same : (state.finishEmitted || false) = state.finishEmitted := Bool.or_false _
    refine ⟨?_, ?_, ?_⟩
    · simpa using told.zero
    · intro isOpen
      simpa using told.unfinished (same.symm.trans isOpen)
    · intro isEnded
      simpa using told.ended (same.symm.trans isEnded)
  | [candidate] =>
    rw [only] at zero silent
    obtain ⟨choice, sameIndex, quiet, (⟨afterFinish, sent⟩ |
      ⟨notBefore, notNow, afterFinish, terminal, isZero, isTerminal, sent⟩)⟩ :=
        convertChunk_single only done
    · have isZero := sameIndex.trans (zero candidate (mem_singleton_self _))
      rw [sent]
      refine ⟨?_, ?_, ?_⟩
      · simpa [or_imp, forall_and, isZero] using told.zero
      · intro isOpen
        rw [afterFinish, Bool.or_eq_false_iff] at isOpen
        simpa [or_imp, forall_and, isOpen.2] using told.unfinished isOpen.1
      · intro isEnded
        cases isBefore : state.finishEmitted with
        | true =>
          refine (told.ended isBefore).after ?_
          rintro _ (_ | ⟨_, ⟨⟩⟩)
          exact quiet (silent isBefore candidate (mem_singleton_self _))
        | false =>
          rw [afterFinish, isBefore] at isEnded
          have last : Ended [choice] := ⟨[], choice, [], rfl, isEnded, by simp, by simp⟩
          exact last.before (told.unfinished isBefore)
    · have isFirstZero := sameIndex.trans (zero candidate (mem_singleton_self _))
      rw [sent]
      refine ⟨?_, ?_, ?_⟩
      · simpa [or_imp, forall_and, isFirstZero, isZero] using told.zero
      · exact fun isOpen => absurd (afterFinish.symm.trans isOpen) (by decide)
      · intro _
        have last : Ended [choice, terminal] :=
          ⟨[choice], terminal, [], rfl, isTerminal, by simpa using notNow, by simp⟩
        exact last.before (told.unfinished notBefore)
  | _ :: _ :: _ =>
    rw [only] at single
    simp at single

/-- Every response of the stream is as it must be. -/
def OrderlyStream (state : StreamState Usage) : List (StreamInput Usage) → Prop
  | [] => True
  | input :: rest => Orderly state input ∧
      ∀ after chunks, state.convertChunk input = .ok (after, chunks) → OrderlyStream after rest

theorem convertAll_cons_ok (done : state.convertAll (input :: inputs) = .ok (after, chunks)) :
    ∃ middle first more, state.convertChunk input = .ok (middle, first) ∧
      middle.convertAll inputs = .ok (after, more) ∧ chunks = first ++ more := by
  rw [convertAll] at done
  split at done
  · cases done
  rename_i middle first converted
  obtain ⟨further, isFurther, same⟩ := exists_ok_of_map done
  cases same
  exact ⟨middle, first, further.2, converted, isFurther, rfl⟩

theorem Told.convertAll (told : Told state choices) (orderly : OrderlyStream state inputs)
    (done : state.convertAll inputs = .ok (after, chunks)) :
    Told after (choices ++ chunks.flatMap ChatStreamChunk.choices) := by
  induction inputs generalizing state choices chunks with
  | nil =>
    cases done
    simpa using told
  | cons input rest ih =>
    obtain ⟨middle, first, more, converted, further, rfl⟩ := convertAll_cons_ok done
    rw [flatMap_append, ← append_assoc]
    exact ih (told.convertChunk orderly.1 converted) (orderly.2 _ _ converted) further

theorem finalize_cases {model : String} (finalized : after.finalize model = .ok (final, chunks)) :
    (after.finishEmitted = true ∧ chunks = []) ∨ (after.finishEmitted = false ∧
      ∃ terminal, terminal.index = 0 ∧ finishes terminal = true ∧
        chunks.flatMap ChatStreamChunk.choices = [terminal]) := by
  unfold finalize at finalized
  split at finalized
  · cases finalized
  split at finalized
  · rename_i emitted
    cases finalized
    exact .inl ⟨emitted, rfl⟩
  · rename_i notEmitted
    cases finalized
    refine .inr ⟨by simpa using notEmitted, _, rfl, ?_, rfl⟩
    split <;> rfl

theorem Told.finalize {model : String}
    (told : Told after choices) (finalized : after.finalize model = .ok (final, chunks)) :
    (∀ choice ∈ choices ++ chunks.flatMap ChatStreamChunk.choices, choice.index = 0) ∧
      Ended (choices ++ chunks.flatMap ChatStreamChunk.choices) := by
  rcases finalize_cases finalized with ⟨emitted, rfl⟩ | ⟨isOpen, terminal, isZero, isEnd, sent⟩
  · simpa using And.intro told.zero (told.ended emitted)
  · rw [sent]
    refine ⟨by simpa [or_imp, forall_and, isZero] using told.zero, ?_⟩
    exact Ended.before ⟨[], terminal, [], rfl, isEnd, by simp, by simp⟩ (told.unfinished isOpen)

/-! ## Candidates with reasons of their own -/

/-- One of the candidates gives a reason, and nothing is said after it. -/
def EndsOnce (candidates : List GeminiCandidate) : Prop :=
  ∃ before last after, candidates = before ++ last :: after ∧ last.finishReason.isSome = true ∧
    (∀ other ∈ before, other.finishReason = none) ∧ ∀ other ∈ after, Silent other

/-- A candidate of texts that does not stop. -/
def Plain (candidate : GeminiCandidate) : Prop :=
  (∀ part ∈ candidate.parts, GeminiPart.isText part = true) ∧ candidate.finishReason ≠ some "STOP"

/-- The candidates of a stream have texts only, and each of them ends once, with a reason of its
own. -/
structure OwnReasons (candidates : List GeminiCandidate) : Prop where
  plain : ∀ candidate ∈ candidates, Plain candidate
  each : ∀ candidate ∈ candidates, EndsOnce (candidates.filter (·.index = candidate.index))

/-- The candidates of a response with the identifiers for their calls. -/
def entriesOf (input : StreamInput Usage) : List (GeminiCandidate × (Nat → String)) :=
  input.candidates.zipIdx.map fun entry => (entry.1, input.uuids entry.2)

def choiceAt (entry : GeminiCandidate × (Nat → String)) : ChatStreamChoice :=
  choiceOf entry.2 entry.1

theorem map_fst_entriesOf (inputs : List (StreamInput Usage)) :
    (inputs.flatMap entriesOf).map Prod.fst = inputs.flatMap StreamInput.candidates := by
  simp [entriesOf, map_flatMap, Function.comp_def]

theorem finishes_choiceOf (plain : Plain candidate) (uuids : Nat → String) :
    finishes (choiceOf uuids candidate) = candidate.finishReason.isSome := by
  rw [finishes, (choiceOf_spec plain.1 uuids).2.2.2]
  cases given : candidate.finishReason with
  | none => rfl
  | some reason =>
    have notStop : reason ≠ "STOP" := fun stop => plain.2 (given.trans (congrArg some stop))
    simp only [finishReasonOf, if_neg notStop]
    split <;> rfl

/-- A response in which no candidate stops is sent as it is. -/
theorem convertChunk_plain (plain : ∀ candidate ∈ input.candidates, Plain candidate)
    (done : state.convertChunk input = .ok (after, chunks)) :
    chunks.flatMap ChatStreamChunk.choices = (entriesOf input).map choiceAt ∧
      after.finishEmitted =
        (state.finishEmitted || ((entriesOf input).map choiceAt).any finishes) := by
  have converted : streamResponseGeminiChat2OpenAI input.uuids input.candidates =
      ((entriesOf input).map choiceAt, false) := by
    simpa [streamResponseGeminiChat2OpenAI, entriesOf, choiceAt] using
      fun candidate member => (plain candidate member).2
  have noCalls : ∀ choice ∈ (entriesOf input).map choiceAt, choice.delta.toolCalls = [] := by
    intro choice member
    obtain ⟨entry, isEntry, rfl⟩ := mem_map.mp member
    obtain ⟨place, isPlace, rfl⟩ := mem_map.mp isEntry
    exact (choiceOf_spec (plain _ (fst_mem_of_mem_zipIdx isPlace)).1 _).2.2.1
  have notTool : isToolCall ((entriesOf input).map choiceAt) = false := by
    cases sent : (entriesOf input).map choiceAt with
    | nil => rfl
    | cons choice rest => simp [isToolCall, noCalls choice (sent ▸ mem_cons_self)]
  unfold convertChunk at done
  rw [preparePartialFunctionCalls_text _ fun candidate member => (plain candidate member).1] at done
  simp only [converted, assignAllIndexes_of_no_calls _ noCalls, notTool, Bool.false_eq_true,
    false_and, if_false] at done
  cases done
  exact ⟨by simp, rfl⟩

theorem convertAll_plain
    (plain : ∀ candidate ∈ inputs.flatMap StreamInput.candidates, Plain candidate)
    (done : state.convertAll inputs = .ok (after, chunks)) :
    chunks.flatMap ChatStreamChunk.choices = (inputs.flatMap entriesOf).map choiceAt ∧
      after.finishEmitted =
        (state.finishEmitted || ((inputs.flatMap entriesOf).map choiceAt).any finishes) := by
  induction inputs generalizing state chunks with
  | nil =>
    cases done
    simp
  | cons input rest ih =>
    rw [flatMap_cons, forall_mem_append] at plain
    obtain ⟨middle, first, more, converted, further, rfl⟩ := convertAll_cons_ok done
    obtain ⟨sent, emitted⟩ := convertChunk_plain plain.1 converted
    obtain ⟨sentAfter, emittedAfter⟩ := ih plain.2 further
    simp [sent, sentAfter, emitted, emittedAfter, Bool.or_assoc]

theorem ended_of_endsOnce {entries : List (GeminiCandidate × (Nat → String))}
    (plain : ∀ entry ∈ entries, Plain entry.1) (ends : EndsOnce (entries.map Prod.fst)) :
    Ended (entries.map choiceAt) := by
  have finish : ∀ entry ∈ entries, finishes (choiceAt entry) = entry.1.finishReason.isSome :=
    fun entry member => finishes_choiceOf (plain entry member) _
  obtain ⟨before, last, after, parts, reason, isOpen, quiet⟩ := ends
  obtain ⟨first, others, rfl, rfl, isRest⟩ := map_eq_append_iff.mp parts
  obtain ⟨entry, rest, rfl, rfl, rfl⟩ := map_eq_cons_iff.mp isRest
  refine ⟨first.map choiceAt, choiceAt entry, rest.map choiceAt, by simp, ?_, ?_, ?_⟩
  · rw [finish entry (by simp), reason]
  · refine forall_mem_map.mpr fun other member => ?_
    rw [finish other (by simp [member]), isOpen _ (mem_map_of_mem member)]
    rfl
  · exact forall_mem_map.mpr fun other member =>
      choiceOf_silent (quiet _ (mem_map_of_mem member)) other.2

/-- Every candidate that was sent has ended with its own reason. -/
theorem OwnReasons.finished {model : String} {last : List (ChatStreamChunk Usage)}
    (own : OwnReasons (inputs.flatMap StreamInput.candidates))
    (start : state.finishEmitted = false)
    (converted : state.convertAll inputs = .ok (after, chunks))
    (finalized : after.finalize model = .ok (final, last)) {choice : ChatStreamChoice}
    (member : choice ∈ (chunks ++ last).flatMap ChatStreamChunk.choices) :
    Ended (((chunks ++ last).flatMap ChatStreamChunk.choices).filter (·.index = choice.index)) := by
  obtain ⟨plain, each⟩ := own
  obtain ⟨sent, emitted⟩ := convertAll_plain plain converted
  rw [start] at emitted
  rw [flatMap_append, sent] at member ⊢
  rw [← map_fst_entriesOf, forall_mem_map] at plain each
  have ended : ∀ entry ∈ inputs.flatMap entriesOf, Ended
      (((inputs.flatMap entriesOf).map choiceAt).filter (·.index = entry.1.index)) := by
    intro entry isEntry
    have ends := each entry isEntry
    rw [filter_map] at ends ⊢
    exact ended_of_endsOnce (fun other isOther => plain other (mem_of_mem_filter isOther)) ends
  rcases finalize_cases finalized with ⟨-, rfl⟩ | ⟨isOpen, terminal, isZero, isEnd, isLast⟩
  · rw [flatMap_nil, append_nil] at member ⊢
    obtain ⟨entry, isEntry, rfl⟩ := mem_map.mp member
    exact ended entry isEntry
  · -- without a finish reason there has been no candidate
    have none : inputs.flatMap entriesOf = [] := by
      refine eq_nil_iff_forall_not_mem.mpr fun entry isEntry => ?_
      obtain ⟨before, finish, rest, parts, isFinish, -⟩ := ended entry isEntry
      have found : finish ∈ (inputs.flatMap entriesOf).map choiceAt :=
        mem_of_mem_filter (parts ▸ mem_append_right _ mem_cons_self)
      rw [isOpen] at emitted
      exact absurd isFinish (by simpa using any_eq_false.mp emitted.symm finish found)
    rw [none, isLast, map_nil, nil_append] at member ⊢
    rw [mem_singleton.mp member, filter_cons_of_pos (by simp)]
    exact ⟨[], terminal, [], rfl, isEnd, by simp, by simp⟩

/-- A stream is finished once if it has one candidate that says nothing after its end, or if its
candidates end with reasons of their own. -/
theorem stream_finished_once (uuid : String) (now : Int) (id : String) (created : Int)
    (inputs : List (StreamInput Usage)) (model : String) (after final : StreamState Usage)
    (chunks last : List (ChatStreamChunk Usage))
    (orderly : OrderlyStream (newGeminiToChatStreamState uuid now id created) inputs ∨
      OwnReasons (inputs.flatMap StreamInput.candidates))
    (converted : (newGeminiToChatStreamState uuid now id created).convertAll inputs =
      .ok (after, chunks))
    (finalized : after.finalize model = .ok (final, last)) :
    let choices := (chunks ++ last).flatMap ChatStreamChunk.choices
    ∀ choice ∈ choices, Ended (choices.filter (·.index = choice.index)) := by
  intro choices choice member
  rcases orderly with orderly | own
  · have told := @Told.convertAll _ [] _ _ _ _
      ⟨by simp, by simp, by simp [newGeminiToChatStreamState]⟩ orderly converted
    rw [nil_append] at told
    obtain ⟨zero, ended⟩ := told.finalize finalized
    rw [← flatMap_append] at zero ended
    have all : choices.filter (·.index = choice.index) = choices := by
      refine filter_eq_self.mpr fun other isOther => ?_
      rw [zero other isOther, zero choice member]
      rfl
    rw [all]
    exact ended
  · exact own.finished rfl converted finalized member

private def answer (index : Int) (text : String) (finishReason : Option String) :
    GeminiCandidate :=
  ⟨index, finishReason, [⟨text, false, none, none, none, none⟩]⟩

private def response (candidates : List GeminiCandidate) : StreamInput Unit :=
  ⟨candidates, "m", none, fun _ _ => ""⟩

/-- A text, and another one with which the stream stops. -/
theorem one_candidate_finished :
    ∃ after chunks final last,
      (newGeminiToChatStreamState "" 1 "s" 1).convertAll
          [response [answer 0 "a" none], response [answer 0 "b" (some "STOP")]] =
        .ok (after, chunks) ∧
      after.finalize "m" = .ok (final, last) ∧
      ∀ choice ∈ (chunks ++ last).flatMap ChatStreamChunk.choices,
        Ended (((chunks ++ last).flatMap ChatStreamChunk.choices).filter
          (·.index = choice.index)) := by
  refine ⟨_, _, _, _, rfl, rfl, ?_⟩
  refine stream_finished_once "" 1 "s" 1
    [response [answer 0 "a" none], response [answer 0 "b" (some "STOP")]] "m" _ _ _ _
    (.inl ⟨⟨by decide, by decide, fun emitted => by cases emitted⟩, ?_⟩) rfl rfl
  intro after chunks converted
  cases converted
  exact ⟨⟨by decide, by decide, fun emitted => by cases emitted⟩, fun _ _ _ => trivial⟩

/-- Two candidates stop, and only one of them is finished. -/
theorem second_candidate_unfinished :
    ∃ after chunks final last,
      (newGeminiToChatStreamState "" 1 "s" 1).convertAll
          [response [answer 0 "a" (some "STOP"), answer 1 "b" (some "STOP")]] =
        .ok (after, chunks) ∧
      after.finalize "m" = .ok (final, last) ∧
      ∃ choice ∈ (chunks ++ last).flatMap ChatStreamChunk.choices,
        speaks choice = true ∧
        ¬ Ended (((chunks ++ last).flatMap ChatStreamChunk.choices).filter
          (·.index = choice.index)) := by
  refine ⟨_, _, _, _, rfl, rfl, _, .tail _ (.head _), by decide, ?_⟩
  rintro ⟨before, last, after, sent, isLast, -⟩
  have some : (before ++ last :: after).any finishes = true :=
    any_eq_true.mpr ⟨last, by simp, isLast⟩
  rw [← sent] at some
  cases some

end AiHub.Relaykit.GeminiToChat

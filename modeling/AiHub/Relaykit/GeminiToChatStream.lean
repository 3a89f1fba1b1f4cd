import AiHub.Relaykit.ChatStream
import AiHub.Relaykit.GeminiPartialArgs
import AiHub.Library.GoMap
import AiHub.Library.Pieces

/-!
# Gemini streams as chat streams

Each response of a Gemini stream becomes a chunk of a chat stream.  The parts of a candidate are
joined with line feeds and, if there is a thought among them, are all sent as reasoning; a part
that is one line feed is dropped.

A stream of texts is preserved exactly if nothing but line feeds stands beside thoughts, and the
line feeds that are dropped and added cancel out before each text that has another character.
-/

namespace AiHub.Relaykit

open AiHub.Library List Piece

/-! ## Gemini responses -/

structure GeminiFunctionCall where
  id : String
  functionName : String
  arguments : JSON
  partialArgs : List GeminiPartialArg
  willContinue : Option Bool
  deriving DecidableEq, Repr

/-- `GeminiPart`, with what the converter reads: inline data by type and data, executable code by
language and code. -/
structure GeminiPart where
  text : String
  thought : Bool
  inlineData : Option (String × String)
  functionCall : Option GeminiFunctionCall
  executableCode : Option (String × String)
  codeExecutionResult : Option String
  deriving DecidableEq, Repr

/-- `GeminiChatCandidate` -/
structure GeminiCandidate where
  index : Int
  finishReason : Option String
  parts : List GeminiPart
  deriving DecidableEq, Repr

open GeminiPart

namespace GeminiToChat

/-! ## One response -/

/-- The identifiers that `GetUUID` gives for the calls of a response, by candidate and part. -/
abbrev UUIDs := Nat → Nat → String

def geminiResponseToolCall (uuid : String) (call : GeminiFunctionCall) : ToolCallResponse :=
  let callID := trimSpace call.id
  ⟨none, if callID = "" then "call_" ++ uuid else callID, call.functionName,
    call.arguments.marshal⟩

/-- What the loop over the parts has written. -/
structure Writing where
  content : String
  appended : Nat
  toolCalls : List ToolCallResponse
  isTools : Bool
  isThought : Bool
  deriving DecidableEq, Repr

def Writing.initial : Writing := ⟨"", 0, [], false, false⟩

/-- `writeSep`, and what is written after it. -/
def Writing.write (writing : Writing) (text : String) : Writing :=
  { writing with
    content := writing.content ++ (if 0 < writing.appended then "\n" else "") ++ text
    appended := writing.appended + 1 }

/-- A pass of the loop over the parts. -/
def Writing.step (writing : Writing) (uuid : String) (part : GeminiPart) : Writing :=
  match part.inlineData, part.functionCall with
  | some (mimeType, data), _ =>
    if "image".toList.isPrefixOf mimeType.toList then
      writing.write ("![image](data:" ++ mimeType ++ ";base64," ++ data ++ ")")
    else writing
  | none, some call =>
    let toolCall := geminiResponseToolCall uuid call
    { writing with
      isTools := true
      toolCalls := writing.toolCalls ++
        [{ toolCall with index := some writing.toolCalls.length }] }
  | none, none =>
    if part.thought then { writing with isThought := true }.write part.text
    else
      match part.executableCode, part.codeExecutionResult with
      | some (language, code), _ =>
        writing.write ("```" ++ language ++ "\n" ++ code ++ "\n```\n")
      | none, some output => writing.write ("```output\n" ++ output ++ "\n```\n")
      | none, none => if part.text = "\n" then writing else writing.write part.text

/-- All parts of a candidate. -/
def writeParts (uuids : Nat → String) (parts : List GeminiPart) : Writing :=
  parts.zipIdx.foldl (fun writing entry => writing.step (uuids entry.2) entry.1) .initial

/-- The finish reason of a candidate, in which the one for an end is left out. -/
def finishReasonOf (finishReason : Option String) : Option String :=
  match finishReason with
  | none => none
  | some reason =>
    if reason = "STOP" then none
    else if reason = "MAX_TOKENS" then some "length"
    else some "content_filter"

def choiceOf (uuids : Nat → String) (candidate : GeminiCandidate) : ChatStreamChoice :=
  let written := writeParts uuids candidate.parts
  let delta : ChoiceDelta :=
    if written.isThought then ⟨none, some written.content, none, written.toolCalls, ""⟩
    else ⟨some written.content, none, none, written.toolCalls, ""⟩
  ⟨candidate.index, "", delta,
    if written.isTools then some "tool_calls" else finishReasonOf candidate.finishReason⟩

/-- `StreamResponseGeminiChat2OpenAI`: the choices, and whether the stream stops. -/
def streamResponseGeminiChat2OpenAI (uuids : UUIDs) (candidates : List GeminiCandidate) :
    List ChatStreamChoice × Bool :=
  (candidates.zipIdx.map fun entry => choiceOf (uuids entry.2) entry.1,
    candidates.any fun candidate => candidate.finishReason = some "STOP")

/-! ## The state of a stream -/

/-- `geminiPartialToolCall` -/
structure PartialToolCall where
  id : String
  name : String
  arguments : JSON
  deriving DecidableEq, Repr

/-- `GeminiToChatStreamState` -/
structure StreamState (Usage : Type) where
  id : String
  created : Int
  sawToolCall : Bool
  finishEmitted : Bool
  latestUsage : Option Usage
  nextToolIndexByCandidate : Int → Nat
  toolIndexByCandidateID : Int → String → Option Nat
  partialToolByCandidate : GoMap Int PartialToolCall

/-- Why a response is refused or a stream may not end. -/
inductive StreamError where
  | changedID (candidate : Int) (before after : String)
  | changedName (candidate : Int) (before after : String)
  | path (error : PathError)
  | traverse (jsonPath : String) (error : TraverseError)
  | missingName (candidate : Int)
  | incompleteCall (candidate : Int) (id name : String)
  deriving DecidableEq, Repr

/-- `NewGeminiToChatStreamState`, with what it takes for an identifier and a time it is not
given. -/
def newGeminiToChatStreamState {Usage : Type} (uuid : String) (now : Int) (id : String)
    (created : Int) : StreamState Usage :=
  ⟨if trimSpace id = "" then "chatcmpl-" ++ uuid else trimSpace id,
    if created = 0 then now else created, false, false, none, fun _ => 0, fun _ _ => none, ∅⟩

/-! ## Function calls in parts -/

/-- A name or an identifier may come once or several times, but may not change. -/
def settle (known given : String) (changed : String → String → StreamError) :
    Except StreamError String :=
  if given = "" then .ok known
  else if known ≠ "" ∧ known ≠ given then .error (changed known given)
  else .ok given

/-- A value at a path of the arguments. -/
def setArgument (arguments : JSON) (partialArg : GeminiPartialArg) : Except StreamError JSON :=
  match parseGeminiPartialArgPath partialArg.jsonPath with
  | .error error => .error (.path error)
  | .ok path =>
    match geminiPartialArgValue partialArg with
    | none => .ok arguments
    | some value =>
      (setGeminiPartialArgValue value partialArg.stringValue.isSome path arguments).mapError
        (.traverse partialArg.jsonPath)

/-- `appendPartialFunctionCall`: the calls that are not complete, and the call if it is. -/
def appendPartialFunctionCall (partialTools : GoMap Int PartialToolCall) (candidate : Int)
    (call : GeminiFunctionCall) :
    Except StreamError (GoMap Int PartialToolCall × Option GeminiFunctionCall) := do
  let current := (partialTools.lookup candidate).getD ⟨"", "", .object []⟩
  let id ← settle current.id (trimSpace call.id) (.changedID candidate)
  let name ← settle current.name (trimSpace call.functionName) (.changedName candidate)
  let arguments ← call.partialArgs.foldlM setArgument current.arguments
  if call.willContinue = some true then
    return (partialTools.insert candidate ⟨id, name, arguments⟩, none)
  else if name = "" then throw (.missingName candidate)
  else return (partialTools.erase candidate, some ⟨id, name, arguments, [], none⟩)

/-- A pass of the inner loop of `preparePartialFunctionCalls`. -/
def preparePart (candidate : Int) (prepared : GoMap Int PartialToolCall × List GeminiPart)
    (part : GeminiPart) : Except StreamError (GoMap Int PartialToolCall × List GeminiPart) :=
  match part.functionCall with
  | none => .ok (prepared.1, prepared.2 ++ [part])
  | some call =>
    if (prepared.1.lookup candidate).isNone ∧ call.willContinue = none ∧
        call.partialArgs = [] then
      .ok (prepared.1, prepared.2 ++ [part])
    else
      (appendPartialFunctionCall prepared.1 candidate call).map fun
        | (partialTools, some completed) =>
          (partialTools, prepared.2 ++ [{ part with functionCall := some completed }])
        | (partialTools, none) => (partialTools, prepared.2)

def preparePartialFunctionCalls (partialTools : GoMap Int PartialToolCall)
    (candidates : List GeminiCandidate) :
    Except StreamError (GoMap Int PartialToolCall × List GeminiCandidate) :=
  candidates.foldlM
    (fun prepared candidate =>
      (candidate.parts.foldlM (preparePart candidate.index) (prepared.1, [])).map fun parts =>
        (parts.1, prepared.2 ++ [{ candidate with parts := parts.2 }]))
    (partialTools, [])

/-! ## The steps of a stream -/

variable {Usage : Type}

/-- The index that a tool call keeps in the stream: the one its identifier has, or the next. -/
def StreamState.assignIndex (state : StreamState Usage) (candidate : Int)
    (toolCall : ToolCallResponse) : StreamState Usage × ToolCallResponse :=
  let callID := trimSpace toolCall.id
  match if callID = "" then none else state.toolIndexByCandidateID candidate callID with
  | some stableIndex => (state, { toolCall with index := some stableIndex })
  | none =>
    let stableIndex := state.nextToolIndexByCandidate candidate
    ({ state with
        nextToolIndexByCandidate :=
          Function.update state.nextToolIndexByCandidate candidate (stableIndex + 1)
        toolIndexByCandidateID :=
          if callID = "" then state.toolIndexByCandidateID
          else
            Function.update state.toolIndexByCandidateID candidate
              (Function.update (state.toolIndexByCandidateID candidate) callID
                (some stableIndex)) },
      { toolCall with index := some stableIndex })

/-- The indexes of all tool calls of a choice. -/
def StreamState.assignIndexes (state : StreamState Usage) (choice : ChatStreamChoice) :
    StreamState Usage × ChatStreamChoice :=
  let (state, toolCalls) := choice.delta.toolCalls.foldl
    (fun assigned toolCall =>
      let (state, toolCall) := assigned.1.assignIndex choice.index toolCall
      (state, assigned.2 ++ [toolCall]))
    (state, [])
  (state, { choice with delta := { choice.delta with toolCalls := toolCalls } })

/-- The indexes of the tool calls of all choices. -/
def StreamState.assignAllIndexes (state : StreamState Usage) (choices : List ChatStreamChoice) :
    StreamState Usage × List ChatStreamChoice :=
  choices.foldl
    (fun assigned choice =>
      let (state, choice) := assigned.1.assignIndexes choice
      (state, assigned.2 ++ [choice]))
    (state, [])

def StreamState.terminalChunk (state : StreamState Usage) (model : String) :
    StreamState Usage × ChatStreamChunk Usage :=
  ({ state with finishEmitted := true },
    ⟨state.id, state.created, model,
      [⟨0, "", .empty, some (if state.sawToolCall then "tool_calls" else "stop")⟩],
      state.latestUsage⟩)

def isToolCall (choices : List ChatStreamChoice) : Bool :=
  match choices.head? with
  | none => false
  | some choice => choice.delta.toolCalls ≠ []

/-- A response of the stream, with the model and the usage that go with it. -/
structure StreamInput (Usage : Type) where
  candidates : List GeminiCandidate
  model : String
  usage : Option Usage
  uuids : UUIDs

def StreamState.convertChunk (state : StreamState Usage) (input : StreamInput Usage) :
    Except StreamError (StreamState Usage × List (ChatStreamChunk Usage)) :=
  match preparePartialFunctionCalls state.partialToolByCandidate input.candidates with
  | .error error => .error error
  | .ok (partialTools, candidates) =>
    let hasNonStopFinish := candidates.any fun candidate =>
      match candidate.finishReason with
      | none => false
      | some reason => reason ≠ "" && reason ≠ "STOP"
    let (choices, isStop) := streamResponseGeminiChat2OpenAI input.uuids candidates
    let (state, choices) :=
      { state with partialToolByCandidate := partialTools }.assignAllIndexes choices
    let choices :=
      if isToolCall choices ∧ !hasNonStopFinish then
        choices.map fun choice =>
          if choice.finishReason = some "tool_calls" then { choice with finishReason := none }
          else choice
      else choices
    let state := { state with
      sawToolCall := state.sawToolCall || isToolCall choices
      latestUsage := input.usage.or state.latestUsage
      finishEmitted := state.finishEmitted ||
        choices.any fun choice => choice.finishReason.any (· ≠ "") }
    let response : ChatStreamChunk Usage :=
      ⟨state.id, state.created, input.model, choices, input.usage⟩
    if isStop ∧ !state.finishEmitted then
      let (state, terminal) := state.terminalChunk input.model
      .ok (state, [response, terminal])
    else .ok (state, [response])

def StreamState.finalize (state : StreamState Usage) (model : String) :
    Except StreamError (StreamState Usage × List (ChatStreamChunk Usage)) :=
  match (state.partialToolByCandidate.keys.insertionSort (· ≤ ·)).head? with
  | some candidate =>
    let incomplete := (state.partialToolByCandidate.lookup candidate).getD ⟨"", "", .null⟩
    .error (.incompleteCall candidate incomplete.id incomplete.name)
  | none =>
    if state.finishEmitted then .ok (state, [])
    else
      let (state, terminal) := state.terminalChunk model
      .ok (state, [terminal])

/-- The chunks that a sequence of responses is converted to. -/
def StreamState.convertAll (state : StreamState Usage) :
    List (StreamInput Usage) →
      Except StreamError (StreamState Usage × List (ChatStreamChunk Usage))
  | [] => .ok (state, [])
  | input :: rest =>
    match state.convertChunk input with
    | .error error => .error error
    | .ok (state, chunks) =>
      (state.convertAll rest).map fun after => (after.1, chunks ++ after.2)

/-! ## Texts of a stream -/

/-- A part is a text or a thought. -/
def GeminiPart.isText (part : GeminiPart) : Bool :=
  part.inlineData.isNone && part.functionCall.isNone && part.executableCode.isNone &&
    part.codeExecutionResult.isNone

/-- A response has one candidate, of which all parts are texts. -/
def TextResponse (input : StreamInput Usage) : Prop :=
  ∃ candidate, input.candidates = [candidate] ∧
    ∀ part ∈ candidate.parts, GeminiPart.isText part

/-- All parts of a response. -/
def partsOf (input : StreamInput Usage) : List GeminiPart :=
  input.candidates.flatMap GeminiCandidate.parts

/-- The texts that are no thoughts, in order. -/
def textOf (inputs : List (StreamInput Usage)) : String :=
  String.join (((inputs.flatMap partsOf).filter fun part => !part.thought).map GeminiPart.text)

/-- The thoughts, in order. -/
def thoughtOf (inputs : List (StreamInput Usage)) : String :=
  String.join (((inputs.flatMap partsOf).filter GeminiPart.thought).map GeminiPart.text)

/-- The content deltas of all chunks. -/
def contentOf (chunks : List (ChatStreamChunk Usage)) : String :=
  String.join ((chunks.flatMap ChatStreamChunk.choices).map fun choice =>
    choice.delta.getContentString)

/-- The reasoning deltas of all chunks. -/
def reasoningOf (chunks : List (ChatStreamChunk Usage)) : String :=
  String.join ((chunks.flatMap ChatStreamChunk.choices).map fun choice =>
    choice.delta.getReasoningContent)

/-! ## The pieces of the texts -/

/-- The pieces of parts that are joined, when the own parts are the ones that are to arrive; so
many have been joined before. -/
def joinedPieces (own : GeminiPart → Bool) : Nat → List GeminiPart → List (Piece Char)
  | _, [] => []
  | written, part :: rest =>
    if !part.thought ∧ part.text = "\n" then
      (if own part then [.lost part.text.toList] else []) ++ joinedPieces own written rest
    else
      (if 0 < written then [.added ['\n']] else []) ++
        (if own part then .kept part.text.toList else .added part.text.toList) ::
          joinedPieces own (written + 1) rest

/-- The pieces of the texts of a response: beside a thought they are all lost. -/
def contentPieces (parts : List GeminiPart) : List (Piece Char) :=
  if parts.any GeminiPart.thought then
    (parts.filter fun part => !part.thought).map fun part => .lost part.text.toList
  else joinedPieces (fun part => !part.thought) 0 parts

/-- The pieces of the thoughts of a response: texts beside them are added. -/
def reasoningPieces (parts : List GeminiPart) : List (Piece Char) :=
  if parts.any GeminiPart.thought then joinedPieces GeminiPart.thought 0 parts else []

theorem sent_joinedPieces (own : GeminiPart → Bool) (written : Nat) (parts : List GeminiPart) :
    (joinedPieces own written parts).flatMap sent =
      (parts.filter own).flatMap fun part => part.text.toList := by
  induction parts generalizing written with
  | nil => rfl
  | cons part rest ih =>
    rw [joinedPieces]
    by_cases isDropped : (!part.thought) = true ∧ part.text = "\n"
    · rw [if_pos isDropped]
      cases isOwn : own part <;> simp [sent, isOwn, ih]
    · rw [if_neg isDropped]
      cases isOwn : own part <;> by_cases first : 0 < written <;>
        simp [sent, isOwn, first, ih]

theorem sent_contentPieces (parts : List GeminiPart) :
    (contentPieces parts).flatMap sent =
      (parts.filter fun part => !part.thought).flatMap fun part => part.text.toList := by
  unfold contentPieces
  split_ifs
  · rw [flatMap_map]
    rfl
  · exact sent_joinedPieces _ _ _

theorem sent_reasoningPieces (parts : List GeminiPart) :
    (reasoningPieces parts).flatMap sent =
      (parts.filter thought).flatMap fun part => part.text.toList := by
  unfold reasoningPieces
  split_ifs with some
  · exact sent_joinedPieces _ _ _
  · have none : parts.filter thought = [] := by
      rw [filter_eq_nil_iff]
      intro part member isThought
      exact some (any_eq_true.mpr ⟨part, member, isThought⟩)
    rw [none]
    rfl

variable {parts : List GeminiPart} {written : Nat} {letters : List Char} {part : GeminiPart}
  {Source : Type} {candidate : GeminiCandidate} (inputs : List (StreamInput Usage))
  (state : StreamState Usage)

/-- Where all parts are to arrive only line feeds are added. -/
theorem added_joinedPieces {own : GeminiPart → Bool} (all : ∀ part ∈ parts, own part = true)
    (member : .added letters ∈ joinedPieces own written parts) :
    letters = ['\n'] := by
  induction parts generalizing written with
  | nil => cases member
  | cons part rest ih =>
    obtain ⟨isOwn, all⟩ := forall_mem_cons.mp all
    rw [joinedPieces] at member
    split_ifs at member <;> simp at member
    · exact ih all member
    · rcases member with added | member
      · exact added
      · exact ih all member
    · exact ih all member

/-- If no part that is to arrive is dropped, nothing is lost. -/
theorem lost_joinedPieces : .lost letters ∉ joinedPieces thought written parts := by
  intro member
  induction parts generalizing written with
  | nil => cases member
  | cons part rest ih =>
    rw [joinedPieces] at member
    by_cases isDropped : (!part.thought) = true ∧ part.text = "\n"
    · rw [if_pos isDropped, if_neg (by simpa using isDropped.1)] at member
      exact ih member
    · split_ifs at member <;> simp at member <;> exact ih member

/-! ## What a response of texts is converted to -/

/-- A pass over a part that is a text. -/
def Writing.text (writing : Writing) (part : GeminiPart) : Writing :=
  if part.thought then { writing with isThought := true }.write part.text
  else if part.text = "\n" then writing
  else writing.write part.text

theorem Writing.step_eq_text (isText : GeminiPart.isText part = true) (writing : Writing)
    (uuid : String) : writing.step uuid part = writing.text part := by
  simp only [GeminiPart.isText, Bool.and_eq_true, Option.isNone_iff_eq_none] at isText
  obtain ⟨⟨⟨noData, noCall⟩, noCode⟩, noResult⟩ := isText
  simp only [Writing.step, Writing.text, noData, noCall, noCode, noResult]

theorem writeParts_eq (isText : ∀ part ∈ parts, GeminiPart.isText part) (uuids : Nat → String) :
    writeParts uuids parts = parts.foldl Writing.text .initial := by
  have from' : ∀ (start : Nat) (writing : Writing),
      (parts.zipIdx start).foldl (fun writing entry => writing.step (uuids entry.2) entry.1)
        writing = parts.foldl Writing.text writing := by
    induction parts with
    | nil => exact fun _ _ => rfl
    | cons part rest ih =>
      obtain ⟨first, isText⟩ := forall_mem_cons.mp isText
      intro start writing
      rw [zipIdx_cons, foldl_cons, foldl_cons, ih isText, Writing.step_eq_text first]
  exact from' 0 .initial

theorem Writing.text_written (writing : Writing)
    (isKept : ¬ ((!part.thought) = true ∧ part.text = "\n")) :
    (writing.text part).content.toList = writing.content.toList ++
        ((if 0 < writing.appended then ['\n'] else []) ++ part.text.toList) ∧
      (writing.text part).appended = writing.appended + 1 ∧
      (writing.text part).isThought = (writing.isThought || part.thought) ∧
      (writing.text part).toolCalls = writing.toolCalls ∧
      (writing.text part).isTools = writing.isTools := by
  cases isThought : part.thought with
  | true =>
    simp only [Writing.text, isThought, if_true, Writing.write]
    split_ifs <;> simp
  | false =>
    have notFeed : part.text ≠ "\n" := by simpa [isThought] using isKept
    simp only [Writing.text, isThought, Bool.false_eq_true, if_false, if_neg notFeed, Writing.write]
    split_ifs <;> simp

/-- What the parts write are the pieces of them that arrive. -/
theorem foldl_text (own : GeminiPart → Bool) (parts : List GeminiPart) (writing : Writing) :
    (parts.foldl Writing.text writing).content.toList =
        writing.content.toList ++ (joinedPieces own writing.appended parts).flatMap arrived ∧
      (parts.foldl Writing.text writing).isThought = (writing.isThought || parts.any thought) ∧
      (parts.foldl Writing.text writing).toolCalls = writing.toolCalls ∧
      (parts.foldl Writing.text writing).isTools = writing.isTools := by
  induction parts generalizing writing with
  | nil => simp [joinedPieces]
  | cons part rest ih =>
    rw [foldl_cons]
    obtain ⟨content, isThought, toolCalls, isTools⟩ := ih (writing.text part)
    rw [content, isThought, toolCalls, isTools, joinedPieces]
    by_cases isDropped : (!part.thought) = true ∧ part.text = "\n"
    · have noThought : part.thought = false := by simpa using isDropped.1
      have same : writing.text part = writing := by simp [Writing.text, noThought, isDropped.2]
      rw [if_pos isDropped, same]
      cases own part <;> simp [arrived, noThought]
    · obtain ⟨text, appended, thought, sameCalls, sameTools⟩ :=
        writing.text_written isDropped
      rw [if_neg isDropped, text, appended, thought, sameCalls, sameTools]
      cases own part <;> by_cases first : 0 < writing.appended <;>
        simp [arrived, first, Bool.or_assoc]

theorem arrived_lost (sources : List Source) (letters : Source → List Char) :
    (sources.map fun source => lost (letters source)).flatMap arrived = [] := by
  simp [flatMap_map, arrived]

/-- The choice of a candidate of texts sends the pieces that arrive, and no calls. -/
theorem choiceOf_spec (isText : ∀ part ∈ candidate.parts, GeminiPart.isText part)
    (uuids : Nat → String) :
    (choiceOf uuids candidate).delta.getContentString.toList =
        (contentPieces candidate.parts).flatMap arrived ∧
      (choiceOf uuids candidate).delta.getReasoningContent.toList =
        (reasoningPieces candidate.parts).flatMap arrived ∧
      (choiceOf uuids candidate).delta.toolCalls = [] ∧
      (choiceOf uuids candidate).finishReason = finishReasonOf candidate.finishReason := by
  have written := fun own => foldl_text own candidate.parts .initial
  simp only [choiceOf, writeParts_eq isText]
  obtain ⟨_, isThought, noCalls, noTools⟩ := written thought
  rw [isThought]
  simp only [Writing.initial, Bool.false_or] at noCalls noTools ⊢
  simp only [noTools, Bool.false_eq_true, if_false]
  unfold contentPieces reasoningPieces
  split_ifs with some
  · simp only [arrived_lost]
    refine ⟨rfl, ?_, noCalls, trivial⟩
    simpa [Writing.initial, ChoiceDelta.getReasoningContent] using (written thought).1
  · refine ⟨?_, rfl, noCalls, trivial⟩
    simpa [Writing.initial, ChoiceDelta.getContentString] using
      (written fun part => !part.thought).1

theorem foldlM_preparePart_text {index : Int} {partialTools : GoMap Int PartialToolCall}
    {parts : List GeminiPart} (isText : ∀ part ∈ parts, GeminiPart.isText part)
    (done : List GeminiPart) :
    parts.foldlM (preparePart index) (partialTools, done) = .ok (partialTools, done ++ parts) := by
  induction parts generalizing done with
  | nil => simp [pure, Except.pure]
  | cons part rest ih =>
    obtain ⟨first, isText⟩ := forall_mem_cons.mp isText
    have noCall : part.functionCall = none := by
      simp only [GeminiPart.isText, Bool.and_eq_true, Option.isNone_iff_eq_none] at first
      exact first.1.1.2
    have prepared : preparePart index (partialTools, done) part =
        .ok (partialTools, done ++ [part]) := by
      rw [preparePart, noCall]
    have after := ih isText (done ++ [part])
    rw [append_assoc, singleton_append] at after
    rw [foldlM_cons, prepared]
    exact after

theorem preparePartialFunctionCalls_text (partialTools : GoMap Int PartialToolCall)
    {candidates : List GeminiCandidate}
    (isText : ∀ candidate ∈ candidates, ∀ part ∈ candidate.parts, GeminiPart.isText part) :
    preparePartialFunctionCalls partialTools candidates = .ok (partialTools, candidates) := by
  suffices all : ∀ done, candidates.foldlM (fun prepared candidate =>
      (candidate.parts.foldlM (preparePart candidate.index) (prepared.1, [])).map fun parts =>
        (parts.1, prepared.2 ++ [{ candidate with parts := parts.2 }])) (partialTools, done) =
      .ok (partialTools, done ++ candidates) from all []
  induction candidates with
  | nil => simp [pure, Except.pure]
  | cons candidate rest ih =>
    obtain ⟨first, isText⟩ := forall_mem_cons.mp isText
    intro done
    have after := ih isText (done ++ [candidate])
    rw [append_assoc, singleton_append] at after
    rw [foldlM_cons, foldlM_preparePart_text first]
    exact after

theorem assignAllIndexes_of_no_calls {choices : List ChatStreamChoice}
    (noCalls : ∀ choice ∈ choices, choice.delta.toolCalls = []) :
    state.assignAllIndexes choices = (state, choices) := by
  suffices all : ∀ done, choices.foldl (fun assigned choice =>
      ((assigned.1.assignIndexes choice).1, assigned.2 ++ [(assigned.1.assignIndexes choice).2]))
      (state, done) = (state, done ++ choices) from all []
  induction choices with
  | nil => simp
  | cons choice rest ih =>
    obtain ⟨first, noCalls⟩ := forall_mem_cons.mp noCalls
    intro done
    have same : state.assignIndexes choice = (state, choice) := by
      simp only [StreamState.assignIndexes, first, foldl_nil]
      rw [← first]
    rw [foldl_cons, same]
    simpa using ih noCalls (done ++ [choice])

/-- A response of texts is converted to chunks that have the pieces that arrive. -/
theorem convertChunk_text {input : StreamInput Usage} (isText : TextResponse input) :
    ∃ after chunks, state.convertChunk input = .ok (after, chunks) ∧
      (contentOf chunks).toList = (contentPieces (partsOf input)).flatMap arrived ∧
      (reasoningOf chunks).toList = (reasoningPieces (partsOf input)).flatMap arrived := by
  obtain ⟨candidate, isOnly, isText⟩ := isText
  obtain ⟨content, reasoning, noCalls, -⟩ := choiceOf_spec isText (input.uuids 0)
  have parts : partsOf input = candidate.parts := by simp [partsOf, isOnly]
  have notTool : isToolCall [choiceOf (input.uuids 0) candidate] = false := by
    simp [isToolCall, noCalls]
  have choices : (streamResponseGeminiChat2OpenAI input.uuids [candidate]).1 =
      [choiceOf (input.uuids 0) candidate] := rfl
  unfold StreamState.convertChunk
  rw [isOnly, preparePartialFunctionCalls_text _ (forall_mem_singleton.mpr isText), parts,
    ← content, ← reasoning]
  simp only [choices, assignAllIndexes_of_no_calls _ (forall_mem_singleton.mpr noCalls),
    notTool, Bool.false_eq_true, false_and, if_false]
  split_ifs
  all_goals
    refine ⟨_, _, rfl, ?_, ?_⟩
    · simp [contentOf, StreamState.terminalChunk, ChoiceDelta.empty, ChoiceDelta.getContentString]
    · simp [reasoningOf, StreamState.terminalChunk, ChoiceDelta.empty,
        ChoiceDelta.getReasoningContent]

/-- All responses of texts are converted to chunks that have the pieces that arrive. -/
theorem convertAll_text {inputs : List (StreamInput Usage)}
    (texts : ∀ input ∈ inputs, TextResponse input) :
    ∃ after chunks, state.convertAll inputs = .ok (after, chunks) ∧
      (contentOf chunks).toList =
        (inputs.flatMap fun input => contentPieces (partsOf input)).flatMap arrived ∧
      (reasoningOf chunks).toList =
        (inputs.flatMap fun input => reasoningPieces (partsOf input)).flatMap arrived := by
  induction inputs generalizing state with
  | nil => exact ⟨state, [], rfl, rfl, rfl⟩
  | cons input rest ih =>
    obtain ⟨first, texts⟩ := forall_mem_cons.mp texts
    obtain ⟨middle, chunks, converted, content, reasoning⟩ := convertChunk_text state first
    obtain ⟨after, more, convertedMore, moreContent, moreReasoning⟩ := ih middle texts
    refine ⟨after, chunks ++ more, ?_, ?_, ?_⟩
    · simp only [StreamState.convertAll, converted, convertedMore]
      rfl
    · simp only [flatMap_cons, flatMap_append, ← content, ← moreContent]
      simp [contentOf]
    · simp only [flatMap_cons, flatMap_append, ← reasoning, ← moreReasoning]
      simp [reasoningOf]

theorem toList_join_map (sources : List Source) (text : Source → String) :
    (String.join (sources.map text)).toList =
      sources.flatMap fun source => (text source).toList := by
  simp [String.toList_join, flatMap_map]

theorem toList_textOf :
    (textOf inputs).toList =
      (inputs.flatMap fun input => contentPieces (partsOf input)).flatMap sent := by
  rw [textOf, toList_join_map, flatMap_assoc, filter_flatMap, flatMap_assoc]
  exact flatMap_congr fun input _ => (sent_contentPieces (partsOf input)).symm

theorem toList_thoughtOf :
    (thoughtOf inputs).toList =
      (inputs.flatMap fun input => reasoningPieces (partsOf input)).flatMap sent := by
  rw [thoughtOf, toList_join_map, flatMap_assoc, filter_flatMap, flatMap_assoc]
  exact flatMap_congr fun input _ => (sent_reasoningPieces (partsOf input)).symm

/-- Of texts only line feeds are added. -/
theorem oneSided_contentPieces :
    Piece.OneSided '\n' (inputs.flatMap fun input => contentPieces (partsOf input)) := by
  refine .inl fun letters member => ?_
  obtain ⟨input, _, member⟩ := mem_flatMap.mp member
  unfold contentPieces at member
  split_ifs at member with some
  · obtain ⟨part, _, same⟩ := mem_map.mp member
    cases same
  · have all : ∀ part ∈ partsOf input, (!part.thought) = true := by
      simpa using some
    rw [added_joinedPieces all member]
    exact fun letter only => mem_singleton.mp only

/-- Of thoughts nothing is lost. -/
theorem oneSided_reasoningPieces :
    Piece.OneSided '\n' (inputs.flatMap fun input => reasoningPieces (partsOf input)) := by
  refine .inr fun letters member => ?_
  obtain ⟨input, _, member⟩ := mem_flatMap.mp member
  unfold reasoningPieces at member
  split_ifs at member
  · exact absurd member lost_joinedPieces
  · exact absurd member not_mem_nil

/-- A stream of texts is preserved exactly if the pieces of its texts and of its thoughts are
balanced. -/
theorem texts_preserved_iff (state : StreamState Usage) {inputs : List (StreamInput Usage)}
    (texts : ∀ input ∈ inputs, TextResponse input) :
    (∃ after chunks, state.convertAll inputs = .ok (after, chunks) ∧
        contentOf chunks = textOf inputs ∧ reasoningOf chunks = thoughtOf inputs) ↔
      Piece.Balanced '\n' 0 (inputs.flatMap fun input => contentPieces (partsOf input)) ∧
        Piece.Balanced '\n' 0 (inputs.flatMap fun input => reasoningPieces (partsOf input)) := by
  obtain ⟨after, chunks, converted, content, reasoning⟩ := convertAll_text state texts
  rw [← Piece.arrived_eq_sent_iff (oneSided_contentPieces inputs),
    ← Piece.arrived_eq_sent_iff (oneSided_reasoningPieces inputs), ← content, ← reasoning,
    ← toList_textOf, ← toList_thoughtOf, String.toList_inj, String.toList_inj]
  constructor
  · rintro ⟨other, otherChunks, alsoConverted, preserved⟩
    rw [converted] at alsoConverted
    obtain rfl : chunks = otherChunks := congrArg Prod.snd (Except.ok.inj alsoConverted)
    exact preserved
  · intro preserved
    exact ⟨after, chunks, converted, preserved⟩

private def textPart (thought : Bool) (text : String) : GeminiPart :=
  ⟨text, thought, none, none, none, none⟩

private def textInput (parts : List GeminiPart) : StreamInput Unit :=
  ⟨[⟨0, none, parts⟩], "m", none, fun _ _ => ""⟩

/-- A thought, a text, and two texts with a line feed between them. -/
theorem separate_texts_preserved :
    ∃ after chunks, (newGeminiToChatStreamState "" 1 "s" 1).convertAll
        [textInput [textPart true "a"], textInput [textPart false "b"],
          textInput [textPart false "c", textPart false "\n", textPart false "d"]] =
          .ok (after, chunks) ∧
      contentOf chunks = "bc\nd" ∧ reasoningOf chunks = "a" := by
  refine (texts_preserved_iff _ ?_).mpr (by decide)
  simp only [forall_mem_cons]
  refine ⟨⟨_, rfl, by decide⟩, ⟨_, rfl, by decide⟩, ⟨_, rfl, by decide⟩,
    fun _ member => absurd member not_mem_nil⟩

/-- A text beside a thought is sent as reasoning, with a line feed before it. -/
theorem text_beside_thought_misplaced :
    ∃ after chunks, (newGeminiToChatStreamState "" 1 "s" 1).convertAll
        [textInput [textPart true "a", textPart false "b"]] = .ok (after, chunks) ∧
      contentOf chunks = "" ∧ reasoningOf chunks = "a\nb" ∧
      textOf [textInput [textPart true "a", textPart false "b"]] = "b" ∧
      thoughtOf [textInput [textPart true "a", textPart false "b"]] = "a" :=
  ⟨_, _, rfl, by decide, by decide, by decide, by decide⟩

end GeminiToChat

end AiHub.Relaykit

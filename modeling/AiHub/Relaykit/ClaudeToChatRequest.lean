import AiHub.Relaykit.ClaudeRequest
import AiHub.Library.Selection

/-!
# Claude requests as chat requests

A message of blocks becomes the tool messages of its results, followed by one message that has
its calls or its text and images.

Calls and results are all kept.  Text and images are kept exactly if no message has them beside a
call.
-/

namespace AiHub.Relaykit

open AiHub.Library List

/-- `ClaudeRequest`, with what the messages of the chat request are made of. -/
structure ClaudeRequest where
  system : Option ClaudeMessageContent
  messages : List ClaudeMessage
  deriving DecidableEq, Repr

def ClaudeBlock.idAndName : ClaudeBlock → String × String
  | .toolUse id name _ | .other _ id name => (id, name)
  | .toolResult _ name _ => ("", name)
  | .text _ _ | .image _ _ | .document _ _ => ("", "")

/-- `ParseContent`, where its error is ignored. -/
def ClaudeMessage.parsedBlocks (message : ClaudeMessage) : List ClaudeBlock :=
  match message.content with
  | .text _ => []
  | .blocks blocks => blocks

def ClaudeRequest.searchToolNameByToolCallId (request : ClaudeRequest) (toolCallId : String) :
    String :=
  match (request.messages.flatMap ClaudeMessage.parsedBlocks).find? fun block =>
      block.idAndName.1 = toolCallId with
  | some block => block.idAndName.2
  | none => ""

namespace ClaudeToChat

/-! ## The source -/

/-- The text that is sent for the content of a result that is not a string: that of
`ParseMediaContent` in JSON. -/
abbrev Encode := ChatContent → String

def getText (text : Option String) : String := text.getD ""

/-- The system messages of `ClaudeMessagesRequestToOpenAIChat`. -/
def systemMessages (isOpenRouterClaude : Bool) (request : ClaudeRequest) : List Message :=
  match request.system with
  | none | some (.blocks []) => []
  | some (.text text) => if text = "" then [] else [⟨"system", .text text, none, none, ""⟩]
  | some (.blocks systems) =>
    if isOpenRouterClaude then
      [⟨"system", .media (systems.map fun
        | .text text cacheControl => .text (getText text) cacheControl
        | _ => .text "" ""), none, none, ""⟩]
    else
      [⟨"system", .text (String.join (systems.map fun
        | .text text _ => getText text
        | _ => "")), none, none, ""⟩]

/-- What the loop over the blocks of a message has collected. -/
structure Collected where
  toolCalls : List ToolCallRequest
  mediaMessages : List MediaContent
  openAIMessages : List Message
  deriving DecidableEq, Repr

/-- The data URL of an image. -/
def imageData (mediaType data : String) : String := "data:" ++ mediaType ++ ";base64," ++ data

def toolMessage (encode : Encode) (request : ClaudeRequest) (toolUseId name : String)
    (content : ChatContent) : Message :=
  let toolName := if name = "" then request.searchToolNameByToolCallId toolUseId else name
  ⟨"tool", .text (match content with
    | .text text => text
    | content => encode content), some toolName, none, toolUseId⟩

/-- A pass of the loop over the blocks. -/
def Collected.step (encode : Encode) (request : ClaudeRequest) (collected : Collected) :
    ClaudeBlock → Collected
  | .text text cacheControl =>
    { collected with
      mediaMessages := collected.mediaMessages ++ [.text (getText text) cacheControl] }
  | .image mediaType data =>
    { collected with
      mediaMessages := collected.mediaMessages ++ [.imageUrl (imageData mediaType data) ""] }
  | .toolUse id name input =>
    { collected with
      toolCalls := collected.toolCalls ++ [⟨id, "function", name, input.marshal, ""⟩] }
  | .toolResult toolUseId name content =>
    { collected with
      openAIMessages :=
        collected.openAIMessages ++ [toolMessage encode request toolUseId name content] }
  | .document _ _ | .other _ _ _ => collected

/-- The message of the blocks, after the loop over them. -/
def Collected.message (role : String) (collected : Collected) : Message :=
  ⟨role,
    if collected.mediaMessages ≠ [] ∧ collected.toolCalls = [] then
      .media collected.mediaMessages
    else .null,
    none, if collected.toolCalls = [] then none else some collected.toolCalls, ""⟩

/-- A pass of the loop over the messages. -/
def convertMessage (encode : Encode) (request : ClaudeRequest) (openAIMessages : List Message)
    (claudeMessage : ClaudeMessage) : List Message :=
  let (openAIMessages, openAIMessage) : List Message × Message :=
    match claudeMessage.content with
    | .text text => (openAIMessages, ⟨claudeMessage.role, .text text, none, none, ""⟩)
    | .blocks blocks =>
      let collected := blocks.foldl (Collected.step encode request) ⟨[], [], openAIMessages⟩
      (collected.openAIMessages, collected.message claudeMessage.role)
  if openAIMessage.parseContent ≠ [] ∨ openAIMessage.toolCalls.isSome then
    openAIMessages ++ [openAIMessage]
  else openAIMessages

def claudeMessagesRequestToOpenAIChat (encode : Encode) (isOpenRouterClaude : Bool)
    (request : ClaudeRequest) : List Message :=
  request.messages.foldl (convertMessage encode request)
    (systemMessages isOpenRouterClaude request)

/-! ## What a request says and what the messages say -/

/-- Text and images, calls, and results, each kind in its order. -/
@[ext] structure Contents where
  texts : List String
  images : List String
  toolCalls : List (String × String × String)
  toolResults : List String
  deriving DecidableEq, Repr

/-- The contents of several messages one after the other. -/
def Contents.concat (contents : List Contents) : Contents :=
  ⟨contents.flatMap texts, contents.flatMap images, contents.flatMap toolCalls,
    contents.flatMap toolResults⟩

def textOf : ClaudeBlock → Option String
  | .text text _ => some (getText text)
  | _ => none

def imageOf : ClaudeBlock → Option String
  | .image mediaType data => some (imageData mediaType data)
  | _ => none

/-- A call with its input in JSON. -/
def toolCallOf : ClaudeBlock → Option (String × String × String)
  | .toolUse id name input => some (id, name, input.marshal)
  | _ => none

def toolResultOf : ClaudeBlock → Option String
  | .toolResult toolUseId _ _ => some toolUseId
  | _ => none

/-- The contents of a Claude message. -/
def contentsOf (message : ClaudeMessage) : Contents :=
  match message.content with
  | .text text => ⟨[text], [], [], []⟩
  | .blocks blocks =>
    ⟨blocks.filterMap textOf, blocks.filterMap imageOf, blocks.filterMap toolCallOf,
      blocks.filterMap toolResultOf⟩

def mediaText : MediaContent → Option String
  | .text text _ => some text
  | _ => none

def mediaImage : MediaContent → Option String
  | .imageUrl url _ => some url
  | _ => none

/-- The contents of a chat message; only tool messages have a name. -/
def chatContents (message : Message) : Contents :=
  if message.name.isSome then
    ⟨[], [], [], if message.role = "tool" then [message.toolCallId] else []⟩
  else
    ⟨message.parseContent.filterMap mediaText, message.parseContent.filterMap mediaImage,
      message.parseToolCalls.map fun toolCall => (toolCall.id, toolCall.name, toolCall.arguments),
      []⟩

/-- After the system messages, the messages have all contents of the request exactly once, and
each kind of them in its order. -/
def KeepsContents (isOpenRouterClaude : Bool) (request : ClaudeRequest)
    (messages : List Message) : Prop :=
  ∃ rest, messages = systemMessages isOpenRouterClaude request ++ rest ∧
    Contents.concat (rest.map chatContents) = .concat (request.messages.map contentsOf)

/-- No text or image stands beside a call. -/
def Separate (message : ClaudeMessage) : Prop :=
  (contentsOf message).toolCalls = [] ∨
    (contentsOf message).texts = [] ∧ (contentsOf message).images = []

/-! ## What is converted -/

@[simp] theorem Contents.concat_append (contents more : List Contents) :
    Contents.concat (contents ++ more) = .concat [.concat contents, .concat more] := by
  simp [Contents.concat]

/-- The part of a content that a block becomes. -/
def blockMedia : ClaudeBlock → Option MediaContent
  | .text text cacheControl => some (.text (getText text) cacheControl)
  | .image mediaType data => some (.imageUrl (imageData mediaType data) "")
  | _ => none

def blockCall : ClaudeBlock → Option ToolCallRequest
  | .toolUse id name input => some ⟨id, "function", name, input.marshal, ""⟩
  | _ => none

def blockMessage (encode : Encode) (request : ClaudeRequest) : ClaudeBlock → Option Message
  | .toolResult toolUseId name content => some (toolMessage encode request toolUseId name content)
  | _ => none

variable (encode : Encode) (request : ClaudeRequest) (blocks : List ClaudeBlock)

theorem foldl_collected (collected : Collected) :
    blocks.foldl (Collected.step encode request) collected =
      ⟨collected.toolCalls ++ blocks.filterMap blockCall,
        collected.mediaMessages ++ blocks.filterMap blockMedia,
        collected.openAIMessages ++ blocks.filterMap (blockMessage encode request)⟩ := by
  induction blocks generalizing collected with
  | nil => simp
  | cons block rest ih =>
    rw [foldl_cons, ih]
    cases block <;>
      simp [Collected.step, filterMap_cons, blockCall, blockMedia, blockMessage]

/-- The message that has the calls, or the text and the images, of the blocks. -/
def ownMessages (role : String) (blocks : List ClaudeBlock) : List Message :=
  let own := Collected.message role ⟨blocks.filterMap blockCall, blocks.filterMap blockMedia, []⟩
  if own.parseContent ≠ [] ∨ own.toolCalls.isSome then [own] else []

def convertedMessages (encode : Encode) (request : ClaudeRequest) (message : ClaudeMessage) :
    List Message :=
  match message.content with
  | .text text => [⟨message.role, .text text, none, none, ""⟩]
  | .blocks blocks =>
    blocks.filterMap (blockMessage encode request) ++ ownMessages message.role blocks

theorem convertMessage_eq (openAIMessages : List Message) (message : ClaudeMessage) :
    convertMessage encode request openAIMessages message =
      openAIMessages ++ convertedMessages encode request message := by
  unfold convertMessage convertedMessages
  cases message.content with
  | text text => simp [Message.parseContent]
  | blocks blocks =>
    simp only [foldl_collected, nil_append, ownMessages, Collected.message]
    split_ifs <;> simp

theorem claudeMessagesRequestToOpenAIChat_eq (isOpenRouterClaude : Bool) (request : ClaudeRequest) :
    claudeMessagesRequestToOpenAIChat encode isOpenRouterClaude request =
      systemMessages isOpenRouterClaude request ++
        request.messages.flatMap (convertedMessages encode request) := by
  unfold claudeMessagesRequestToOpenAIChat
  generalize systemMessages isOpenRouterClaude request = start
  induction request.messages generalizing start with
  | nil => simp
  | cons message rest ih =>
    rw [foldl_cons, ih, convertMessage_eq, flatMap_cons, append_assoc]

/-! ## What is kept of one message -/

/-- Beside calls, text and images are lost. -/
def Contents.converted (contents : Contents) : Contents :=
  if contents.toolCalls = [] then contents else { contents with texts := [], images := [] }

theorem filterMap_blockMedia :
    (blocks.filterMap blockMedia).filterMap mediaText = blocks.filterMap textOf ∧
      (blocks.filterMap blockMedia).filterMap mediaImage = blocks.filterMap imageOf := by
  simp only [filterMap_filterMap]
  constructor
  all_goals
    refine filterMap_congr fun block _ => ?_
    cases block <;> rfl

theorem map_blockCall :
    (blocks.filterMap blockCall).map
        (fun toolCall => (toolCall.id, toolCall.name, toolCall.arguments)) =
      blocks.filterMap toolCallOf := by
  rw [map_filterMap]
  refine filterMap_congr fun block _ => ?_
  cases block <;> rfl

/-- The tool messages have the results and nothing else. -/
theorem contents_toolMessages :
    Contents.concat ((blocks.filterMap (blockMessage encode request)).map chatContents) =
      ⟨[], [], [], blocks.filterMap toolResultOf⟩ := by
  induction blocks with
  | nil => rfl
  | cons block rest ih =>
    cases block with
    | toolResult toolUseId name content =>
      simp only [Contents.concat, Contents.mk.injEq] at ih
      simp [Contents.concat, blockMessage, toolResultOf, chatContents, toolMessage, ih]
    | _ => simpa [filterMap_cons, blockMessage, toolResultOf] using ih

/-- The own message of the blocks has everything else that is kept. -/
theorem contents_ownMessages (role : String) (blocks : List ClaudeBlock) :
    Contents.concat ((ownMessages role blocks).map chatContents) =
      Contents.converted ⟨blocks.filterMap textOf, blocks.filterMap imageOf,
        blocks.filterMap toolCallOf, []⟩ := by
  obtain ⟨texts, images⟩ := filterMap_blockMedia blocks
  have calls := map_blockCall blocks
  rw [Contents.converted, ← texts, ← images, ← calls]
  unfold ownMessages Collected.message
  generalize blocks.filterMap blockMedia = media
  generalize blocks.filterMap blockCall = toolCalls
  cases toolCalls <;> cases media <;>
    simp [Contents.concat, chatContents, Message.parseContent, Message.parseToolCalls]

theorem contents_convertedMessages (message : ClaudeMessage) :
    Contents.concat ((convertedMessages encode request message).map chatContents) =
      (contentsOf message).converted := by
  unfold convertedMessages contentsOf
  cases message.content with
  | text text =>
    simp [Contents.concat, Contents.converted, chatContents, Message.parseContent,
      Message.parseToolCalls, mediaText, mediaImage]
  | blocks blocks =>
    simp only [map_append, Contents.concat_append, contents_toolMessages, contents_ownMessages]
    unfold Contents.converted
    split_ifs <;> simp [Contents.concat]

theorem Contents.concat_flatMap {Source : Type} (sources : List Source)
    (parts : Source → List Contents) :
    Contents.concat (sources.flatMap parts) =
      .concat (sources.map fun source => .concat (parts source)) := by
  simp [Contents.concat, flatMap_assoc, flatMap_map]

/-- The contents of each message are kept exactly if text and images are apart from calls. -/
theorem converted_eq_iff (message : ClaudeMessage) :
    (contentsOf message).converted = contentsOf message ↔ Separate message := by
  unfold Contents.converted Separate
  split_ifs with noCalls
  · simp [noCalls]
  · simp only [noCalls, false_or]
    constructor
    · intro same
      rw [← same]
      exact ⟨rfl, rfl⟩
    · rintro ⟨noTexts, noImages⟩
      exact Contents.ext noTexts.symm noImages.symm rfl rfl

/-- No kind of contents gets more. -/
theorem Contents.converted_le (contents : Contents) :
    contents.converted.texts.length ≤ contents.texts.length ∧
      contents.converted.images.length ≤ contents.images.length ∧
      contents.converted.toolCalls = contents.toolCalls ∧
      contents.converted.toolResults = contents.toolResults := by
  unfold Contents.converted
  split_ifs <;> simp

/-- All contents of a request are kept exactly if in each message text and images are apart from
calls. -/
theorem contents_kept_iff (encode : Encode) (isOpenRouterClaude : Bool) (request : ClaudeRequest) :
    KeepsContents isOpenRouterClaude request
        (claudeMessagesRequestToOpenAIChat encode isOpenRouterClaude request) ↔
      ∀ message ∈ request.messages, Separate message := by
  have kept : KeepsContents isOpenRouterClaude request
        (claudeMessagesRequestToOpenAIChat encode isOpenRouterClaude request) ↔
      Contents.concat (request.messages.map fun message => (contentsOf message).converted) =
        .concat (request.messages.map contentsOf) := by
    unfold KeepsContents
    simp only [claudeMessagesRequestToOpenAIChat_eq, append_cancel_left_eq,
      exists_eq_left', map_flatMap, Contents.concat_flatMap, contents_convertedMessages]
  have each : ∀ message, (contentsOf message).converted = contentsOf message ↔
      (contentsOf message).converted.texts = (contentsOf message).texts ∧
        (contentsOf message).converted.images = (contentsOf message).images := by
    intro message
    obtain ⟨_, _, sameCalls, sameResults⟩ := (contentsOf message).converted_le
    simp [Contents.ext_iff, sameCalls, sameResults]
  have lengths := fun message => (contentsOf message).converted_le
  rw [kept]
  simp only [← converted_eq_iff, each, Contents.concat, Contents.mk.injEq, flatMap_map,
    (lengths _).2.2.1, (lengths _).2.2.2, and_true]
  rw [flatMap_eq_iff_of_length_le fun message _ => (lengths message).1,
    flatMap_eq_iff_of_length_le fun message _ => (lengths message).2.1]
  exact forall₂_and.symm

/-- The text beside a call is lost. -/
theorem text_beside_call_lost :
    let request : ClaudeRequest := ⟨none,
      [⟨"assistant", .blocks [.text (some "a") "", .toolUse "1" "f" (.object [])]⟩]⟩
    claudeMessagesRequestToOpenAIChat (fun _ => "") false request =
        [⟨"assistant", .null, none, some [⟨"1", "function", "f", "\x7b\x7d", ""⟩], ""⟩] ∧
      ¬ KeepsContents false request
        (claudeMessagesRequestToOpenAIChat (fun _ => "") false request) := by
  intro request
  have converted : claudeMessagesRequestToOpenAIChat (fun _ => "") false request =
      [⟨"assistant", .null, none, some [⟨"1", "function", "f", "\x7b\x7d", ""⟩], ""⟩] := by
    decide
  refine ⟨converted, ?_⟩
  rw [converted]
  rintro ⟨rest, isRest, keeps⟩
  rw [← show _ = rest from isRest] at keeps
  revert keeps
  decide

end ClaudeToChat

end AiHub.Relaykit

import AiHub.Relaykit.ClaudeRequest
import Mathlib.Tactic

/-!
# Chat requests as Claude requests

The messages of a chat request are first formatted: roles are normalised, neighbours of one role
with string contents become one message, and empty contents are filled.  The formatted messages
then become Claude messages, in which the results of tools join the message of the user before
them.

All texts and all results of tools are kept.  The tool calls are kept exactly if no message that
is joined to the next one has any.
-/

namespace AiHub.Relaykit

open AiHub.Library List

namespace ChatToClaude

/-! ## Formatting -/

/-- The role of a message after the switch of the first loop. -/
def formatRole (message : Message) : String :=
  if message.role = "" then "user"
  else if message.role = "developer" then "system"
  else if message.role = "function" then if message.toolCallId ≠ "" then "tool" else "user"
  else if message.role = "tool" then if message.toolCallId = "" then "user" else "tool"
  else if message.role ∈ ["system", "user", "assistant"] then message.role
  else "user"

/-- The state of the first loop: `formatMessages` and `lastMessage`. -/
structure Formatting where
  formatMessages : List Message
  lastMessage : Message
  deriving DecidableEq, Repr

def Formatting.initial : Formatting := ⟨[], ⟨"tool", .null, none, none, ""⟩⟩

/-- A message whose content is empty says nothing in three dots. -/
def fill (message : Message) : Message :=
  if message.content = .null ∨ message.content = .text "" then
    { message with content := .text "..." }
  else message

/-- The message that a message is formatted to, before its content is set. -/
def fmtMessage (message : Message) : Message :=
  ⟨formatRole message, message.content, none,
    if formatRole message = "assistant" then message.toolCalls else none,
    if formatRole message = "tool" then message.toolCallId else ""⟩

/-- The message that two neighbours become. -/
def joinedMessage (last message : Message) : Message :=
  { fmtMessage message with
    content := .text (last.stringContent ++ " " ++ message.stringContent) }

/-- A pass of the first loop. -/
def Formatting.step (formatting : Formatting) (message : Message) : Formatting :=
  let last := formatting.lastMessage
  if (last.role = formatRole message ∧ last.role ≠ "tool") ∧ last.isStringContent ∧
      message.isStringContent then
    let joined := fill (joinedMessage last message)
    ⟨formatting.formatMessages.dropLast ++ [joined], joined⟩
  else ⟨formatting.formatMessages ++ [fill (fmtMessage message)], fill (fmtMessage message)⟩

/-! ## Conversion -/

/-- `ToFileSource`: the data and the type that a file is resolved from. -/
def toFileSource : MediaContent → Option (String × String)
  | .text _ _ => none
  | .imageUrl url _ | .videoUrl url => if url = "" then none else some (url, "")
  | .inputAudio data format =>
    if data = "" then none else some (data, if format = "" then "" else "audio/" ++ format)
  | .file _ fileData _ => if fileData = "" then none else some (fileData, "")

/-- `ResolveBase64Data` gives the data of a file and its type, or says why there are none. -/
abbrev Resolve := String × String → Except String (String × String)

def fileBlock (data mimeType : String) : ClaudeBlock :=
  if "application/pdf".toList.isPrefixOf mimeType.toList then .document mimeType data
  else .image mimeType data

/-- One part of the loop over the content of a message. -/
def mediaBlocks (resolve : Resolve) : MediaContent → Except String (List ClaudeBlock)
  | .text text _ => .ok (if text = "" then [] else [.text (some text) ""])
  | media =>
    match toFileSource media with
    | none => .ok []
    | some source =>
      match resolve source with
      | .error error => .error ("get file data failed: " ++ error)
      | .ok (data, mimeType) => .ok [fileBlock data mimeType]

/-- The input of a tool call; arguments that are no object are left out. -/
def toolInput (arguments : String) : JSON :=
  if arguments = "" then .object []
  else
    match JSON.unmarshalMap arguments with
    | none => .object []
    | some none => .null
    | some (some members) => .object members

def toolUse (toolCall : ToolCallRequest) : ClaudeBlock :=
  .toolUse toolCall.id toolCall.name (toolInput toolCall.arguments)

/-- The blocks of a message that is not only a string. -/
def messageBlocks (resolve : Resolve) (message : Message) : Except String (List ClaudeBlock) :=
  match message.parseContent.mapM (mediaBlocks resolve) with
  | .error error => .error error
  | .ok media => .ok (media.flatten ++ message.parseToolCalls.map toolUse)

/-- The content of a message with its string as a block. -/
def contentBlocks : ClaudeMessageContent → List ClaudeBlock
  | .text text => [.text (some text) ""]
  | .blocks blocks => blocks

def placeholderUserMessage : ClaudeMessage := ⟨"user", .blocks [.text (some "...") ""]⟩

/-- The state of the second loop. -/
structure Converting where
  claudeMessages : List ClaudeMessage
  systemMessages : List String
  isFirstMessage : Bool
  deriving DecidableEq, Repr

def systemTexts (message : Message) : List String :=
  if message.isStringContent then
    if message.stringContent = "" then [] else [message.stringContent]
  else
    message.parseContent.filterMap fun
      | .text text _ => if text = "" then none else some text
      | _ => none

/-- The result of a tool joins the message of the user before it. -/
def appendToolResult (claudeMessages : List ClaudeMessage) (message : Message) :
    List ClaudeMessage :=
  let result : ClaudeBlock := .toolResult message.toolCallId "" message.content
  match claudeMessages.getLast? with
  | some last =>
    if last.role = "user" then
      claudeMessages.dropLast ++ [⟨last.role, .blocks (contentBlocks last.content ++ [result])⟩]
    else claudeMessages ++ [⟨"user", .blocks [result]⟩]
  | none => claudeMessages ++ [⟨"user", .blocks [result]⟩]

/-- A pass of the second loop. -/
def Converting.step (resolve : Resolve) (converting : Converting) (message : Message) :
    Except String Converting :=
  if message.role = "system" then
    .ok { converting with
      systemMessages := converting.systemMessages ++ systemTexts message }
  else
    let claudeMessages :=
      if converting.isFirstMessage ∧ message.role ≠ "user" then
        converting.claudeMessages ++ [placeholderUserMessage]
      else converting.claudeMessages
    if message.role = "tool" then
      .ok ⟨appendToolResult claudeMessages message, converting.systemMessages, false⟩
    else if message.isStringContent ∧ message.toolCalls = none then
      let text := if message.stringContent = "" then "..." else message.stringContent
      .ok ⟨claudeMessages ++ [⟨message.role, .text text⟩], converting.systemMessages, false⟩
    else
      (messageBlocks resolve message).map fun blocks =>
        ⟨claudeMessages ++ [⟨message.role, .blocks blocks⟩], converting.systemMessages, false⟩

/-- The messages and the system texts of `OpenAIChatRequestToClaudeMessages`. -/
def openAIChatRequestToClaudeMessages (resolve : Resolve) (messages : List Message) :
    Except String (List ClaudeMessage × List String) :=
  let formatted := (messages.foldl Formatting.step .initial).formatMessages
  (formatted.foldlM (Converting.step resolve) ⟨[], [], true⟩).map fun converting =>
    (if converting.claudeMessages = [] ∧ converting.systemMessages ≠ [] then
        [placeholderUserMessage]
      else converting.claudeMessages,
      converting.systemMessages)

/-! ## The tool history -/

/-- A call of a tool, or the result of one. -/
inductive ToolEvent where
  | use (id name : String) (input : JSON)
  | result (toolUseId : String)
  deriving DecidableEq, Repr

/-- What a message of a role says about tools. -/
def toolEvents (role : String) (message : Message) : List ToolEvent :=
  if role = "assistant" then
    message.parseToolCalls.map fun toolCall =>
      .use toolCall.id toolCall.name ((JSON.unmarshal toolCall.arguments).getD .null)
  else if role = "tool" then [.result message.toolCallId]
  else []

def blockEvent : ClaudeBlock → Option ToolEvent
  | .toolUse id name input => some (.use id name input)
  | .toolResult toolUseId _ _ => some (.result toolUseId)
  | _ => none

def blockText : ClaudeBlock → Option String
  | .text text _ => text
  | _ => none

def mediaText : MediaContent → Option String
  | .text text _ => some text
  | _ => none

def messageTexts (message : Message) : List String := message.parseContent.filterMap mediaText

/-- The blocks of all messages in their order. -/
def allBlocks (claudeMessages : List ClaudeMessage) : List ClaudeBlock :=
  claudeMessages.flatMap fun message => contentBlocks message.content

/-- A text is part of one of the texts; the empty one is part of everything. -/
def Occurs (text : String) (shown : List String) : Prop :=
  text = "" ∨ ∃ other ∈ shown, text.toList <:+: other.toList

/-- The blocks have the calls and the results of the messages in their order, and show their
texts. -/
structure KeepsToolHistory (messages : List Message) (claudeMessages : List ClaudeMessage) :
    Prop where
  events : (allBlocks claudeMessages).filterMap blockEvent =
    messages.flatMap fun message => toolEvents (formatRole message) message
  texts : ∀ message ∈ messages, formatRole message = "user" ∨ formatRole message = "assistant" →
    ∀ text ∈ messageTexts message, Occurs text ((allBlocks claudeMessages).filterMap blockText)

/-- The arguments of all tool calls are objects. -/
def ObjectArguments (message : Message) : Prop :=
  ∀ toolCall ∈ message.parseToolCalls, ∃ members,
    JSON.unmarshal toolCall.arguments = some (.object members)

/-- The files of the message can be had. -/
def Resolvable (resolve : Resolve) (message : Message) : Prop :=
  ∀ media ∈ message.parseContent, ∀ source, toFileSource media = some source →
    ∃ file, resolve source = .ok file

/-- Neighbours that become one message. -/
def joins (first second : Message) : Bool :=
  formatRole first = formatRole second && formatRole first ≠ "tool" &&
    (first.isStringContent || first.content = .null) && second.isStringContent

/-- If the neighbours become one message, no call is lost. -/
def LosesNoCall (first second : Message) : Prop :=
  joins first second → formatRole first = "assistant" → first.parseToolCalls = []

/-! ## What formatting keeps -/

variable {shown : List String} {message formatted last first : Message} {resolve : Resolve}
  {messages : List Message}

theorem Occurs.mono {text : String} {more : List String} (occurs : Occurs text shown)
    (kept : ∀ other ∈ shown, Occurs other more) : Occurs text more := by
  rcases occurs with rfl | ⟨other, member, within⟩
  · exact .inl rfl
  rcases kept other member with rfl | ⟨wider, isWider, within'⟩
  · refine .inl (String.ext ?_)
    exact eq_nil_of_infix_nil within
  · exact .inr ⟨wider, isWider, within.trans within'⟩

theorem Occurs.of_mem {text : String} (member : text ∈ shown) : Occurs text shown :=
  .inr ⟨text, member, infix_rfl⟩

theorem fill_fields (message : Message) :
    (fill message).role = message.role ∧ (fill message).toolCalls = message.toolCalls ∧
      (fill message).toolCallId = message.toolCallId := by
  unfold fill
  split_ifs <;> exact ⟨rfl, rfl, rfl⟩

/-- Only what is empty is filled. -/
theorem fill_cases (message : Message) :
    (fill message = message ∧ message.content ≠ .null) ∨
      (fill message).content = .text "..." ∧
        (message.content = .null ∨ message.content = .text "") := by
  unfold fill
  split_ifs with isEmpty
  · exact .inr ⟨rfl, isEmpty⟩
  · exact .inl ⟨rfl, (not_or.mp isEmpty).1⟩

theorem isStringContent_fill (message : Message) :
    (fill message).isStringContent = (message.isStringContent || message.content = .null) := by
  rcases fill_cases message with ⟨same, present⟩ | ⟨filled, empty | empty⟩
  · simp [same, present]
  all_goals simp [Message.isStringContent, filled, empty]

theorem messageTexts_fill (message : Message) :
    ∀ text ∈ messageTexts message, Occurs text (messageTexts (fill message)) := by
  intro text member
  rcases fill_cases message with ⟨same, _⟩ | ⟨_, empty | empty⟩
  · rw [same]
    exact .of_mem member
  all_goals
    simp [messageTexts, Message.parseContent, empty, mediaText] at member
  exact .inl member

/-- What a formatted message keeps of the message that it comes from. -/
structure FormattedFrom (message formatted : Message) : Prop where
  role : formatted.role = formatRole message
  events : toolEvents formatted.role formatted = toolEvents (formatRole message) message
  calls : ∀ toolCall ∈ formatted.parseToolCalls,
    formatted.role = "assistant" ∧ toolCall ∈ message.parseToolCalls
  isString : formatted.isStringContent = (message.isStringContent || message.content = .null)
  texts : ∀ text ∈ messageTexts message, Occurs text (messageTexts formatted)
  media : ∀ media ∈ formatted.parseContent,
    media ∈ message.parseContent ∨ toFileSource media = none

theorem parseContent_of_text {text : String} (isText : message.content = .text text) :
    message.parseContent = [.text text ""] := by
  rw [Message.parseContent, isText]

/-- Only the content of a formatted message depends on its neighbours. -/
theorem FormattedFrom.of_fields (role : formatted.role = formatRole message)
    (toolCalls : formatted.toolCalls = (fmtMessage message).toolCalls)
    (toolCallId : formatted.toolCallId = (fmtMessage message).toolCallId)
    (isString : formatted.isStringContent = (message.isStringContent || message.content = .null))
    (texts : ∀ text ∈ messageTexts message, Occurs text (messageTexts formatted))
    (media : ∀ media ∈ formatted.parseContent,
      media ∈ message.parseContent ∨ toFileSource media = none) :
    FormattedFrom message formatted := by
  refine ⟨role, ?_, fun toolCall member => ?_, isString, texts, media⟩
  · rw [role]
    simp only [toolEvents, Message.parseToolCalls, toolCalls, toolCallId, fmtMessage]
    split_ifs <;> rfl
  · rw [Message.parseToolCalls, toolCalls] at member
    rw [role]
    simp only [fmtMessage] at member
    split_ifs at member with isAssistant
    · exact ⟨isAssistant, member⟩
    · exact absurd member not_mem_nil

theorem formattedFrom_fill (message : Message) :
    FormattedFrom message (fill (fmtMessage message)) := by
  obtain ⟨role, toolCalls, toolCallId⟩ := fill_fields (fmtMessage message)
  refine .of_fields role toolCalls toolCallId (isStringContent_fill (fmtMessage message))
    (messageTexts_fill (fmtMessage message)) fun media member => ?_
  rcases fill_cases (fmtMessage message) with ⟨same, _⟩ | ⟨filled, _⟩
  · rw [same] at member
    exact .inl member
  · rw [parseContent_of_text filled] at member
    exact .inr (by rw [mem_singleton.mp member, toFileSource])

theorem fill_joinedMessage (last message : Message) :
    fill (joinedMessage last message) = joinedMessage last message := by
  refine if_neg fun isEmpty => ?_
  rcases isEmpty with isNull | isEmpty
  · cases isNull
  · have same := congrArg String.length (ChatContent.text.inj isEmpty)
    simp [String.length_append] at same

theorem messageTexts_of_isStringContent (isString : message.isStringContent = true) :
    messageTexts message = [message.stringContent] := by
  unfold Message.isStringContent at isString
  cases isContent : message.content with
  | text text =>
    simp [messageTexts, parseContent_of_text isContent, Message.stringContent, isContent, mediaText]
  | _ => simp [isContent] at isString

/-- A joined message shows the text of both. -/
theorem joinedMessage_texts (lastString : last.isStringContent = true)
    (isString : message.isStringContent = true) :
    ∀ text ∈ messageTexts last ++ messageTexts message,
      Occurs text (messageTexts (joinedMessage last message)) := by
  intro text member
  rw [messageTexts_of_isStringContent lastString,
    messageTexts_of_isStringContent isString] at member
  refine .inr ⟨_, mem_singleton_self _, ?_⟩
  rcases mem_pair.mp member with rfl | rfl
  · exact ⟨[], " ".toList ++ message.stringContent.toList, by simp⟩
  · exact ⟨last.stringContent.toList ++ " ".toList, [], by simp⟩

theorem formattedFrom_joinedMessage (lastString : last.isStringContent = true)
    (isString : message.isStringContent = true) :
    FormattedFrom message (joinedMessage last message) := by
  refine .of_fields rfl rfl rfl ?_ (fun text member => ?_) fun media member => .inr ?_
  · rw [isString]
    rfl
  · exact joinedMessage_texts lastString isString text (mem_append_right _ member)
  · rw [mem_singleton.mp member, toFileSource]

/-- The calls and results that are left after formatting. -/
def keptEvents : List Message → List ToolEvent
  | [] => []
  | [message] => toolEvents (formatRole message) message
  | first :: second :: rest =>
    (if joins first second then [] else toolEvents (formatRole first) first) ++
      keptEvents (second :: rest)

/-- A pass either joins the message to the last one or adds it. -/
theorem Formatting.step_cases (earlier : List Message) (second : Message)
    (isFrom : FormattedFrom first last) :
    joins first second = true ∧ last.isStringContent = true ∧ last.role = formatRole second ∧
        second.isStringContent = true ∧
        Formatting.step ⟨earlier ++ [last], last⟩ second =
          ⟨earlier ++ [joinedMessage last second], joinedMessage last second⟩ ∨
      joins first second = false ∧
        Formatting.step ⟨earlier ++ [last], last⟩ second =
          ⟨earlier ++ [last] ++ [fill (fmtMessage second)], fill (fmtMessage second)⟩ := by
  have sameJoins : joins first second = true ↔
      (last.role = formatRole second ∧ last.role ≠ "tool") ∧
        last.isStringContent ∧ second.isStringContent := by
    rw [isFrom.role, isFrom.isString]
    simp [joins, and_assoc]
  unfold Formatting.step
  by_cases isJoined : joins first second = true
  · obtain ⟨⟨sameRole, notTool⟩, lastString, isString⟩ := sameJoins.mp isJoined
    refine .inl ⟨isJoined, lastString, sameRole, isString, ?_⟩
    rw [if_pos ⟨⟨sameRole, notTool⟩, lastString, isString⟩]
    simp only [fill_joinedMessage, dropLast_concat]
  · exact .inr ⟨Bool.eq_false_iff.mpr isJoined, if_neg (isJoined ∘ sameJoins.mpr)⟩

/-- What the messages at the end of the formatted ones are, from the last one on: `last` comes
from `first` and may yet be joined to what follows. -/
structure Formats (first last : Message) (rest tail : List Message) : Prop where
  isFrom : ∀ formatted ∈ tail, ∃ message ∈ first :: rest, FormattedFrom message formatted
  events : tail.flatMap (fun formatted => toolEvents formatted.role formatted) =
    keptEvents (first :: rest)
  lastTexts : ∃ formatted ∈ tail, formatted.role = last.role ∧
    ∀ text ∈ messageTexts last, Occurs text (messageTexts formatted)
  texts : ∀ message ∈ rest, ∃ formatted ∈ tail, formatted.role = formatRole message ∧
    ∀ text ∈ messageTexts message, Occurs text (messageTexts formatted)

theorem Formats.single (isFrom : FormattedFrom first last) : Formats first last [] [last] where
  isFrom formatted member := ⟨first, mem_singleton_self _, mem_singleton.mp member ▸ isFrom⟩
  events := by simp [keptEvents, isFrom.events]
  lastTexts := ⟨last, mem_singleton_self _, rfl, fun _ member => .of_mem member⟩
  texts _ member := absurd member not_mem_nil

theorem Formats.shows_second {second : Message} {rest tail : List Message}
    (formats : Formats second last rest tail) (isFrom : FormattedFrom second last) :
    ∀ message ∈ second :: rest, ∃ formatted ∈ tail, formatted.role = formatRole message ∧
      ∀ text ∈ messageTexts message, Occurs text (messageTexts formatted) := by
  intro message member
  rcases mem_cons.mp member with rfl | member
  · obtain ⟨formatted, isFormatted, sameRole, shows⟩ := formats.lastTexts
    exact ⟨formatted, isFormatted, sameRole.trans isFrom.role,
      fun text member => (isFrom.texts text member).mono shows⟩
  · exact formats.texts message member

theorem foldl_formats (rest earlier : List Message) (isFrom : FormattedFrom first last) :
    ∃ tail, (rest.foldl Formatting.step ⟨earlier ++ [last], last⟩).formatMessages =
      earlier ++ tail ∧ Formats first last rest tail := by
  induction rest generalizing earlier first last with
  | nil => exact ⟨[last], rfl, .single isFrom⟩
  | cons second rest ih =>
    rw [foldl_cons]
    rcases Formatting.step_cases earlier second isFrom with
      ⟨isJoined, lastString, sameRole, isString, stepped⟩ | ⟨notJoined, stepped⟩
    · have joinedFrom : FormattedFrom second (joinedMessage last second) :=
        formattedFrom_joinedMessage lastString isString
      rw [stepped]
      obtain ⟨tail, isTail, formats⟩ := ih _ joinedFrom
      refine ⟨tail, isTail, ?_, ?_, ?_, formats.shows_second joinedFrom⟩
      · intro formatted member
        obtain ⟨message, isMessage, comes⟩ := formats.isFrom formatted member
        exact ⟨message, mem_cons_of_mem _ isMessage, comes⟩
      · rw [formats.events, keptEvents, if_pos isJoined, nil_append]
      · obtain ⟨formatted, isFormatted, role, shows⟩ := formats.lastTexts
        refine ⟨formatted, isFormatted, (role.trans joinedFrom.role).trans sameRole.symm, ?_⟩
        intro text member
        exact (joinedMessage_texts lastString isString text (mem_append_left _ member)).mono shows
    · have secondFrom : FormattedFrom second (fill (fmtMessage second)) :=
        formattedFrom_fill second
      rw [stepped]
      obtain ⟨tail, isTail, formats⟩ := ih _ secondFrom
      refine ⟨last :: tail, ?_, ?_, ?_, ?_, ?_⟩
      · rw [isTail, append_assoc, singleton_append]
      · intro formatted member
        rcases mem_cons.mp member with rfl | member
        · exact ⟨first, mem_cons_self, isFrom⟩
        · obtain ⟨message, isMessage, comes⟩ := formats.isFrom formatted member
          exact ⟨message, mem_cons_of_mem _ isMessage, comes⟩
      · rw [flatMap_cons, isFrom.events, formats.events, keptEvents,
          if_neg (Bool.eq_false_iff.mp notJoined)]
      · exact ⟨last, mem_cons_self, rfl, fun _ member => .of_mem member⟩
      · intro message member
        obtain ⟨formatted, isFormatted, shown⟩ :=
          formats.shows_second secondFrom message member
        exact ⟨formatted, mem_cons_of_mem _ isFormatted, shown⟩

/-- What is left of the messages after formatting. -/
theorem formatMessages_spec (messages : List Message) :
    (∀ formatted ∈ (messages.foldl Formatting.step .initial).formatMessages,
        ∃ message ∈ messages, FormattedFrom message formatted) ∧
      (messages.foldl Formatting.step .initial).formatMessages.flatMap
        (fun formatted => toolEvents formatted.role formatted) = keptEvents messages ∧
      ∀ message ∈ messages, ∃ formatted ∈
        (messages.foldl Formatting.step .initial).formatMessages,
        formatted.role = formatRole message ∧
          ∀ text ∈ messageTexts message, Occurs text (messageTexts formatted) := by
  cases messages with
  | nil => simp [Formatting.initial, keptEvents]
  | cons first rest =>
    have started : Formatting.initial.step first =
        ⟨[fill (fmtMessage first)], fill (fmtMessage first)⟩ :=
      if_neg fun joined => joined.1.2 rfl
    have isFrom := formattedFrom_fill first
    rw [foldl_cons, started]
    obtain ⟨tail, isTail, formats⟩ := foldl_formats rest [] isFrom
    rw [nil_append] at isTail
    rw [isTail, nil_append]
    exact ⟨formats.isFrom, formats.events, formats.shows_second isFrom⟩

/-- Nothing is lost in formatting exactly if no joined message has calls. -/
theorem keptEvents_eq_iff (messages : List Message) :
    keptEvents messages = (messages.flatMap fun message =>
        toolEvents (formatRole message) message) ↔
      messages.IsChain LosesNoCall := by
  have shorter : ∀ messages : List Message, (keptEvents messages).length ≤
      (messages.flatMap fun message => toolEvents (formatRole message) message).length := by
    intro messages
    induction messages using keptEvents.induct with
    | case1 => exact le_rfl
    | case2 message => simp [keptEvents]
    | case3 first second rest ih =>
      rw [keptEvents, flatMap_cons, length_append, length_append]
      refine Nat.add_le_add ?_ ih
      split_ifs
      · exact Nat.zero_le _
      · exact le_rfl
  induction messages using keptEvents.induct with
  | case1 => simp [keptEvents]
  | case2 message => simp [keptEvents]
  | case3 first second rest ih =>
    have restIff : _ ↔ _ := ih
    rw [keptEvents, flatMap_cons, isChain_cons_cons, ← restIff]
    by_cases isJoined : joins first second = true
    · have notTool : formatRole first ≠ "tool" := by
        simp [joins] at isJoined
        exact isJoined.1.1.2
      have losesNone : LosesNoCall first second ↔ toolEvents (formatRole first) first = [] := by
        simp [LosesNoCall, isJoined, toolEvents, notTool]
      rw [if_pos isJoined, nil_append, losesNone]
      constructor
      · intro same
        have isEmpty : toolEvents (formatRole first) first = [] := by
          have lengths := congrArg List.length same
          have bound := shorter (second :: rest)
          rw [length_append] at lengths
          exact length_eq_zero_iff.mp (by omega)
        exact ⟨isEmpty, by rw [same, isEmpty, nil_append]⟩
      · rintro ⟨isEmpty, same⟩
        rw [isEmpty, same, nil_append]
    · rw [if_neg isJoined, append_cancel_left_eq]
      exact ⟨fun same => ⟨fun joined => absurd joined isJoined, same⟩, And.right⟩

/-! ## What conversion keeps -/

theorem Occurs.append {text : String} (occurs : Occurs text shown) (before after : List String) :
    Occurs text (before ++ shown ++ after) :=
  occurs.mono fun _ member => .of_mem (mem_append_left _ (mem_append_right _ member))

/-- A part of a content becomes blocks that show its text and are no calls or results. -/
theorem mediaBlocks_spec {media : MediaContent}
    (resolvable : ∀ source, toFileSource media = some source → ∃ file, resolve source = .ok file) :
    ∃ blocks, mediaBlocks resolve media = .ok blocks ∧ blocks.filterMap blockEvent = [] ∧
      ∀ text, mediaText media = some text → Occurs text (blocks.filterMap blockText) := by
  cases isSource : toFileSource media with
  | none =>
    cases media with
    | text text cacheControl =>
      refine ⟨_, rfl, ?_, fun shown isShown => ?_⟩
      · split_ifs <;> rfl
      · obtain rfl : text = shown := Option.some.inj isShown
        split_ifs with isEmpty
        · exact .inl isEmpty
        · exact .of_mem (mem_singleton_self _)
    | _ => exact ⟨[], by simp only [mediaBlocks, isSource], rfl, by simp [mediaText]⟩
  | some source =>
    obtain ⟨⟨data, mimeType⟩, resolved⟩ := resolvable source isSource
    have noEvent : [fileBlock data mimeType].filterMap blockEvent = [] := by
      unfold fileBlock
      split_ifs <;> rfl
    cases media with
    | text text cacheControl => cases isSource
    | _ =>
      exact ⟨[fileBlock data mimeType], by simp only [mediaBlocks, isSource, resolved],
        noEvent, by simp [mediaText]⟩

theorem mapM_mediaBlocks_spec {contents : List MediaContent}
    (resolvable : ∀ media ∈ contents, ∀ source, toFileSource media = some source →
      ∃ file, resolve source = .ok file) :
    ∃ blocks, contents.mapM (mediaBlocks resolve) = .ok blocks ∧
      blocks.flatten.filterMap blockEvent = [] ∧
      ∀ text ∈ contents.filterMap mediaText, Occurs text (blocks.flatten.filterMap blockText) := by
  induction contents with
  | nil => exact ⟨[], rfl, rfl, fun _ member => absurd member not_mem_nil⟩
  | cons media rest ih =>
    obtain ⟨first, isFirst, noFirst, firstShows⟩ :=
      mediaBlocks_spec (resolvable media mem_cons_self)
    obtain ⟨blocks, isBlocks, noEvent, shows⟩ :=
      ih fun other member => resolvable other (mem_cons_of_mem _ member)
    refine ⟨first :: blocks, ?_, ?_, fun text member => ?_⟩
    · rw [mapM_cons, isFirst, isBlocks]
      rfl
    · rw [flatten_cons, filterMap_append, noFirst, noEvent, append_nil]
    · obtain ⟨other, isOther, isText⟩ := mem_filterMap.mp member
      rcases mem_cons.mp isOther with rfl | isOther
      · simpa using (firstShows text isText).append [] (blocks.flatten.filterMap blockText)
      · simpa using (shows text (mem_filterMap.mpr ⟨other, isOther, isText⟩)).append
          (first.filterMap blockText) []

/-- What the conversion needs of a formatted message. -/
structure Convertible (resolve : Resolve) (message : Message) : Prop where
  role : message.role ∈ ["system", "user", "assistant", "tool"]
  calls : message.role ≠ "assistant" → message.parseToolCalls = []
  objects : ObjectArguments message
  resolvable : Resolvable resolve message

theorem toolUse_event (objects : ObjectArguments message) :
    (message.parseToolCalls.map toolUse).filterMap blockEvent = toolEvents "assistant" message := by
  rw [filterMap_map, toolEvents, if_pos rfl, ← filterMap_eq_map]
  refine filterMap_congr fun toolCall member => ?_
  obtain ⟨members, isObject⟩ := objects toolCall member
  have notEmpty : toolCall.arguments ≠ "" := by
    intro isEmpty
    have nothing : JSON.unmarshal "" = none := by decide
    rw [isEmpty, nothing] at isObject
    cases isObject
  simp [toolUse, blockEvent, toolInput, notEmpty, JSON.unmarshalMap, isObject]

/-- Blocks are added that have the calls and the results and show the texts. -/
def Adds (before after : List ClaudeMessage) (events : List ToolEvent) (texts : List String) :
    Prop :=
  ∃ added, allBlocks after = allBlocks before ++ added ∧
    added.filterMap blockEvent = events ∧
    ∀ text ∈ texts, Occurs text (added.filterMap blockText)

variable (claudeMessages : List ClaudeMessage)

theorem Adds.refl : Adds claudeMessages claudeMessages [] [] :=
  ⟨[], by simp, rfl, fun _ member => absurd member not_mem_nil⟩

theorem Adds.trans {before middle after : List ClaudeMessage} {events moreEvents : List ToolEvent}
    {texts moreTexts : List String} (adds : Adds before middle events texts)
    (addsMore : Adds middle after moreEvents moreTexts) :
    Adds before after (events ++ moreEvents) (texts ++ moreTexts) := by
  obtain ⟨added, isAdded, hasEvents, shows⟩ := adds
  obtain ⟨more, isMore, hasMore, showsMore⟩ := addsMore
  refine ⟨added ++ more, ?_, ?_, fun text member => ?_⟩
  · rw [isMore, isAdded, append_assoc]
  · rw [filterMap_append, hasEvents, hasMore]
  · rcases mem_append.mp member with member | member
    · simpa using (shows text member).append [] (more.filterMap blockText)
    · simpa using (showsMore text member).append (added.filterMap blockText) []

theorem allBlocks_append (more : List ClaudeMessage) :
    allBlocks (claudeMessages ++ more) = allBlocks claudeMessages ++ allBlocks more :=
  flatMap_append

theorem allBlocks_appendToolResult (message : Message) :
    allBlocks (appendToolResult claudeMessages message) =
      allBlocks claudeMessages ++ [.toolResult message.toolCallId "" message.content] := by
  have added : allBlocks (claudeMessages ++
        [⟨"user", .blocks [.toolResult message.toolCallId "" message.content]⟩]) =
      allBlocks claudeMessages ++ [.toolResult message.toolCallId "" message.content] := by
    rw [allBlocks_append]
    rfl
  unfold appendToolResult
  cases isLast : claudeMessages.getLast? with
  | none => exact added
  | some last =>
    simp only
    split_ifs
    · obtain ⟨earlier, rfl⟩ := getLast?_eq_some_iff.mp isLast
      simp [allBlocks, contentBlocks]
    · exact added

/-- The texts of a message that is not one of the system or of a tool. -/
def spokenTexts (message : Message) : List String :=
  if message.role = "user" ∨ message.role = "assistant" then messageTexts message else []

/-- The first of the messages is one of the user. -/
theorem Adds.start (converting : Converting) (message : Message) :
    Adds converting.claudeMessages
      (if converting.isFirstMessage ∧ message.role ≠ "user" then
        converting.claudeMessages ++ [placeholderUserMessage]
      else converting.claudeMessages) [] [] := by
  split_ifs
  · exact ⟨[.text (some "...") ""], allBlocks_append _ _, rfl,
      fun _ member => absurd member not_mem_nil⟩
  · exact .refl _

theorem Adds.toolResult (isTool : message.role = "tool") :
    Adds claudeMessages (appendToolResult claudeMessages message)
      (toolEvents message.role message) (spokenTexts message) := by
  refine ⟨_, allBlocks_appendToolResult claudeMessages message, ?_, ?_⟩
  · simp [toolEvents, isTool, blockEvent]
  · simp [spokenTexts, isTool]

theorem Adds.text (claudeMessages : List ClaudeMessage) (isString : message.isStringContent = true)
    (noCalls : message.toolCalls = none) (notTool : message.role ≠ "tool") :
    Adds claudeMessages (claudeMessages ++ [⟨message.role,
        .text (if message.stringContent = "" then "..." else message.stringContent)⟩])
      (toolEvents message.role message) (spokenTexts message) := by
  refine ⟨_, allBlocks_append claudeMessages _, ?_, fun text member => ?_⟩
  · simp [toolEvents, notTool, Message.parseToolCalls, noCalls, allBlocks, contentBlocks,
      blockEvent]
  · unfold spokenTexts at member
    split_ifs at member
    · rw [messageTexts_of_isStringContent isString] at member
      rw [mem_singleton.mp member]
      split_ifs with isEmpty
      · exact .inl isEmpty
      · exact .of_mem (mem_singleton_self _)
    · exact absurd member not_mem_nil

theorem messageBlocks_spec (convertible : Convertible resolve message)
    (notTool : message.role ≠ "tool") (claudeMessages : List ClaudeMessage) :
    ∃ blocks, messageBlocks resolve message = .ok blocks ∧
      Adds claudeMessages (claudeMessages ++ [⟨message.role, .blocks blocks⟩])
        (toolEvents message.role message) (spokenTexts message) := by
  obtain ⟨media, isMedia, noEvent, shows⟩ := mapM_mediaBlocks_spec convertible.resolvable
  refine ⟨_, by rw [messageBlocks, isMedia], ?_⟩
  refine ⟨media.flatten ++ message.parseToolCalls.map toolUse, ?_, ?_, fun text member => ?_⟩
  · simp [allBlocks, contentBlocks]
  · rw [filterMap_append, noEvent, nil_append]
    by_cases isAssistant : message.role = "assistant"
    · rw [toolUse_event convertible.objects, isAssistant]
    · simp [convertible.calls isAssistant, toolEvents, isAssistant, notTool]
  · unfold spokenTexts at member
    split_ifs at member
    · simpa using (shows text member).append []
        ((message.parseToolCalls.map toolUse).filterMap blockText)
    · exact absurd member not_mem_nil

theorem Converting.step_adds (converting : Converting) (convertible : Convertible resolve message) :
    ∃ after, converting.step resolve message = .ok after ∧
      Adds converting.claudeMessages after.claudeMessages (toolEvents message.role message)
        (spokenTexts message) := by
  unfold Converting.step
  by_cases isSystem : message.role = "system"
  · refine ⟨_, if_pos isSystem, ?_⟩
    have silent : toolEvents message.role message = [] ∧ spokenTexts message = [] := by
      simp [toolEvents, spokenTexts, isSystem]
    rw [silent.1, silent.2]
    exact .refl _
  rw [if_neg isSystem]
  have start := Adds.start converting message
  by_cases isTool : message.role = "tool"
  · rw [if_pos isTool]
    exact ⟨_, rfl, start.trans (.toolResult _ isTool)⟩
  rw [if_neg isTool]
  by_cases isText : message.isStringContent = true ∧ message.toolCalls = none
  · rw [if_pos isText]
    exact ⟨_, rfl, start.trans (.text _ isText.1 isText.2 isTool)⟩
  · rw [if_neg isText]
    obtain ⟨blocks, isBlocks, adds⟩ := messageBlocks_spec convertible isTool
      (if converting.isFirstMessage ∧ message.role ≠ "user" then
        converting.claudeMessages ++ [placeholderUserMessage]
      else converting.claudeMessages)
    rw [isBlocks]
    exact ⟨_, rfl, start.trans adds⟩

theorem foldlM_step_adds (convertible : ∀ message ∈ messages, Convertible resolve message)
    (converting : Converting) :
    ∃ after, messages.foldlM (Converting.step resolve) converting = .ok after ∧
      Adds converting.claudeMessages after.claudeMessages
        (messages.flatMap fun message => toolEvents message.role message)
        (messages.flatMap spokenTexts) := by
  induction messages generalizing converting with
  | nil => exact ⟨converting, rfl, .refl _⟩
  | cons message rest ih =>
    obtain ⟨middle, isMiddle, adds⟩ :=
      converting.step_adds (convertible message mem_cons_self)
    obtain ⟨after, isAfter, addsRest⟩ :=
      ih (fun other member => convertible other (mem_cons_of_mem _ member)) middle
    refine ⟨after, ?_, adds.trans addsRest⟩
    rw [foldlM_cons, isMiddle]
    exact isAfter

/-! ## The conversion as a whole -/

theorem formatRole_mem (message : Message) :
    formatRole message ∈ ["system", "user", "assistant", "tool"] := by
  unfold formatRole
  split_ifs with _ _ _ _ _ _ known
  on_goal 7 =>
    rw [mem_cons, mem_pair] at known
    rcases known with known | known | known <;> rw [known] <;> decide
  all_goals decide

theorem FormattedFrom.convertible (isFrom : FormattedFrom message formatted)
    (objects : ObjectArguments message) (resolvable : Resolvable resolve message) :
    Convertible resolve formatted := by
  refine ⟨?_, fun notAssistant => ?_, fun toolCall member => ?_, fun media member => ?_⟩
  · rw [isFrom.role]
    exact formatRole_mem message
  · exact eq_nil_iff_forall_not_mem.mpr fun toolCall member =>
      notAssistant (isFrom.calls toolCall member).1
  · exact objects toolCall (isFrom.calls toolCall member).2
  · intro source isSource
    rcases isFrom.media media member with member | noSource
    · exact resolvable media member source isSource
    · rw [noSource] at isSource
      cases isSource

/-- What is converted has the calls and results that formatting leaves, and shows all texts. -/
theorem openAIChatRequestToClaudeMessages_spec
    (objects : ∀ message ∈ messages, ObjectArguments message)
    (resolvable : ∀ message ∈ messages, Resolvable resolve message) :
    ∃ claudeMessages systemMessages,
      openAIChatRequestToClaudeMessages resolve messages = .ok (claudeMessages, systemMessages) ∧
      (allBlocks claudeMessages).filterMap blockEvent = keptEvents messages ∧
      ∀ message ∈ messages, formatRole message = "user" ∨ formatRole message = "assistant" →
        ∀ text ∈ messageTexts message,
          Occurs text ((allBlocks claudeMessages).filterMap blockText) := by
  obtain ⟨isFrom, events, shows⟩ := formatMessages_spec messages
  obtain ⟨after, isAfter, added, isAdded, hasEvents, showsAdded⟩ :=
    @foldlM_step_adds resolve _ (fun formatted member => by
      obtain ⟨message, isMessage, comes⟩ := isFrom formatted member
      exact comes.convertible (objects message isMessage) (resolvable message isMessage))
      ⟨[], [], true⟩
  refine ⟨_, _, by rw [openAIChatRequestToClaudeMessages, isAfter]; rfl, ?_⟩
  -- A request that is only of the system gets a message that says nothing.
  have blocksOf : ∀ claudeMessages : List ClaudeMessage,
      claudeMessages = after.claudeMessages ∨
        after.claudeMessages = [] ∧ claudeMessages = [placeholderUserMessage] →
      (allBlocks claudeMessages).filterMap blockEvent = keptEvents messages ∧
        ∀ text ∈ added.filterMap blockText,
          text ∈ (allBlocks claudeMessages).filterMap blockText := by
    rintro claudeMessages (rfl | ⟨isEmpty, rfl⟩)
    · rw [isAdded, ← events, ← hasEvents]
      exact ⟨rfl, fun _ member => member⟩
    · rw [isEmpty] at isAdded
      obtain rfl : added = [] := isAdded.symm
      rw [← events, ← hasEvents]
      exact ⟨rfl, fun _ member => absurd member not_mem_nil⟩
  obtain ⟨sameEvents, kept⟩ := blocksOf (if after.claudeMessages = [] ∧
    after.systemMessages ≠ [] then [placeholderUserMessage] else after.claudeMessages) (by
      split_ifs with isEmpty
      · exact .inr ⟨isEmpty.1, rfl⟩
      · exact .inl rfl)
  refine ⟨sameEvents, fun message member role text isText => ?_⟩
  obtain ⟨formatted, isFormatted, sameRole, showsText⟩ := shows message member
  refine (showsText text isText).mono fun other isOther => ?_
  refine (showsAdded other (mem_flatMap.mpr ⟨formatted, isFormatted, ?_⟩)).mono
    fun wider isWider => .of_mem (kept wider isWider)
  rw [spokenTexts, sameRole, if_pos role]
  exact isOther

/-- The tool history is kept exactly if no message that is joined to the next one has calls. -/
theorem tool_history_kept_iff {resolve : Resolve} {messages : List Message}
    (objects : ∀ message ∈ messages, ObjectArguments message)
    (resolvable : ∀ message ∈ messages, Resolvable resolve message) :
    (∃ claudeMessages systemMessages,
        openAIChatRequestToClaudeMessages resolve messages = .ok (claudeMessages, systemMessages) ∧
        KeepsToolHistory messages claudeMessages) ↔
      messages.IsChain LosesNoCall := by
  obtain ⟨claudeMessages, systemMessages, converted, events, shows⟩ :=
    openAIChatRequestToClaudeMessages_spec objects resolvable
  rw [← keptEvents_eq_iff]
  constructor
  · rintro ⟨others, otherSystem, alsoConverted, keeps⟩
    obtain rfl : claudeMessages = others := by
      rw [converted] at alsoConverted
      exact congrArg Prod.fst (Except.ok.inj alsoConverted)
    rw [← events, keeps.events]
  · intro same
    exact ⟨claudeMessages, systemMessages, converted, events.trans same, shows⟩

private def resolvesNothing : Resolve := fun _ => .error "unavailable"

private def calling (content : ChatContent) : Message :=
  ⟨"assistant", content, none, some [⟨"1", "function", "f", "\x7b\x7d", ""⟩], ""⟩

private def saying (role text : String) : Message := ⟨role, .text text, none, none, ""⟩

private theorem objectArguments_calling (content : ChatContent) :
    ObjectArguments (calling content) := by
  intro toolCall member
  rw [mem_singleton.mp member]
  exact ⟨[], by decide⟩

private theorem resolvable_of_isStringContent {text : String}
    (isText : message.content = .text text) : Resolvable resolvesNothing message := by
  intro media member source isSource
  rw [parseContent_of_text isText, mem_singleton] at member
  rw [member] at isSource
  cases isSource

/-- A call and its result between texts. -/
theorem call_and_result_kept :
    ∃ claudeMessages systemMessages,
      openAIChatRequestToClaudeMessages resolvesNothing
          [saying "user" "a", calling (.text "b"), ⟨"tool", .text "c", none, none, "1"⟩,
            saying "assistant" "d"] = .ok (claudeMessages, systemMessages) ∧
        KeepsToolHistory [saying "user" "a", calling (.text "b"),
          ⟨"tool", .text "c", none, none, "1"⟩, saying "assistant" "d"] claudeMessages := by
  refine (tool_history_kept_iff ?_ ?_).mpr ?_
  · simp only [forall_mem_cons]
    refine ⟨?_, objectArguments_calling _, ?_, ?_, fun _ member => absurd member not_mem_nil⟩
    all_goals exact fun _ member => absurd member not_mem_nil
  · simp only [forall_mem_cons]
    refine ⟨?_, ?_, ?_, ?_, fun _ member => absurd member not_mem_nil⟩
    all_goals exact resolvable_of_isStringContent rfl
  · simp only [isChain_cons_cons, isChain_singleton, and_true]
    refine ⟨fun joined => ?_, fun joined => ?_, fun joined => ?_⟩
    all_goals exact absurd joined (by decide)

/-- Of two neighbours of the assistant the calls of the first are lost. -/
theorem calls_of_joined_message_lost :
    (∀ message ∈ [calling (.text "a"), saying "assistant" "b"], ObjectArguments message) ∧
      openAIChatRequestToClaudeMessages resolvesNothing
          [calling (.text "a"), saying "assistant" "b"] =
        .ok ([placeholderUserMessage, ⟨"assistant", .text "a b"⟩], []) ∧
      ¬ KeepsToolHistory [calling (.text "a"), saying "assistant" "b"]
        [placeholderUserMessage, ⟨"assistant", .text "a b"⟩] := by
  refine ⟨?_, by decide, fun keeps => absurd keeps.events (by decide)⟩
  simp only [forall_mem_cons]
  exact ⟨objectArguments_calling _, fun _ member => absurd member not_mem_nil,
    fun _ member => absurd member not_mem_nil⟩

end ChatToClaude

end AiHub.Relaykit

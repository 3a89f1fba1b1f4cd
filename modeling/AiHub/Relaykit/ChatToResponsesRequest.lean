import AiHub.Relaykit.ResponsesToChatRequest

/-!
# Chat requests as Responses requests

The messages of a chat request become the instructions and the items of a Responses input.  A
message with tool calls becomes several items, which the converter back folds into one message
again.

Texts of users and assistants, calls and tool results come back as they were.  A tool result that
is a list of parts comes back as the JSON text of the list.
-/

namespace AiHub.Relaykit

open AiHub.Library List

namespace ChatToResponses

open ResponsesRequest

/-! ## Content -/

/-- The members of a struct that are left out if they are empty. -/
def omitEmpty (members : List (String × String)) : List (String × JSON) :=
  (members.filter fun member => member.2 ≠ "").map fun member => (member.1, .string member.2)

/-- `MessageImageUrl` -/
def imageJSON (url detail : String) : JSON :=
  .object (("MimeType", .string "") :: omitEmpty [("detail", detail)] ++ [("url", .string url)])

/-- `MessageInputAudio` -/
def audioJSON (data format : String) : JSON :=
  .object [("data", .string data), ("format", .string format)]

/-- `MessageFile` -/
def fileJSON (fileName fileData fileID : String) : JSON :=
  .object (omitEmpty [("file_data", fileData), ("file_id", fileID), ("filename", fileName)])

/-- `MessageVideoUrl` -/
def videoJSON (url : String) : JSON := .object [("url", .string url)]

/-- `MediaContent` -/
def mediaJSON : MediaContent → JSON
  | .text text cacheControl =>
    .object ((if cacheControl = "" then []
      else [("cache_control", (JSON.unmarshal cacheControl).getD .null)]) ++
        omitEmpty [("text", text)] ++ [("type", .string "text")])
  | .imageUrl url detail =>
    .object [("image_url", imageJSON url detail), ("type", .string "image_url")]
  | .inputAudio data format =>
    .object [("input_audio", audioJSON data format), ("type", .string "input_audio")]
  | .file fileName fileData fileID =>
    .object [("file", fileJSON fileName fileData fileID), ("type", .string "file")]
  | .videoUrl url => .object [("type", .string "video_url"), ("video_url", videoJSON url)]

/-- The content of a message as it is encoded. -/
def contentJSON : ChatContent → JSON
  | .null => .null
  | .text text => .string text
  | .parts parts => .array parts
  | .media media => .array (media.map mediaJSON)
  | .other value => value

def normalizeChatImageURLToString (url detail : String) : JSON :=
  if url ≠ "" then .string url else imageJSON url detail

def contentPart (role : String) : MediaContent → JSON
  | .text text _ =>
    .object [("text", .string text),
      ("type", .string (if role = "assistant" then "output_text" else "input_text"))]
  | .imageUrl url detail =>
    .object [("image_url", normalizeChatImageURLToString url detail),
      ("type", .string "input_image")]
  | .inputAudio data format =>
    .object [("input_audio", audioJSON data format), ("type", .string "input_audio")]
  | .file fileName fileData fileID =>
    .object [("file", fileJSON fileName fileData fileID), ("type", .string "input_file")]
  | .videoUrl url => .object [("type", .string "input_video"), ("video_url", videoJSON url)]

def itemContent (role : String) (message : Message) : JSON :=
  match message.content with
  | .null => .string ""
  | .text text => .string text
  | _ => .array (message.parseContent.map (contentPart role))

/-! ## Items -/

/-- The item of a tool call; others than those of functions are left out. -/
def callItem (toolCall : ToolCallRequest) : Option InputItem :=
  if trimSpace toolCall.id = "" ∨ toolCall.type ≠ "" ∧ toolCall.type ≠ "function" ∨
      trimSpace toolCall.name = "" then none
  else
    some [("arguments", .string toolCall.arguments), ("call_id", .string toolCall.id),
      ("name", .string (trimSpace toolCall.name)), ("type", .string "function_call")]

def toolOutput (message : Message) : String :=
  match message.content with
  | .null => ""
  | .text text => text
  | content => (contentJSON content).marshal

def messageItems (message : Message) : List InputItem :=
  let role := trimSpace message.role
  if role = "" ∨ role = "system" ∨ role = "developer" then []
  else if role = "tool" ∨ role = "function" then
    let callID := trimSpace message.toolCallId
    if callID = "" then
      [[("content", .string ("[tool_output_missing_call_id] " ++ toolOutput message)),
        ("role", .string "user")]]
    else
      [[("call_id", .string callID), ("output", .string (toolOutput message)),
        ("type", .string "function_call_output")]]
  else
    [("content", itemContent role message), ("role", .string role)] ::
      if role = "assistant" then message.parseToolCalls.filterMap callItem else []

/-- The text of a part, if it is one of text. -/
def mediaText : MediaContent → String
  | .text text _ => text
  | _ => ""

def instructionText (message : Message) : String :=
  match message.content with
  | .null => ""
  | .text text => trimSpace text
  | _ => trimSpace ("\n".intercalate
      ((message.parseContent.map mediaText).filter fun text => trimSpace text ≠ ""))

/-- What a message adds to the instructions. -/
def instructionPart (message : Message) : Option String :=
  let role := trimSpace message.role
  if (role = "system" ∨ role = "developer") ∧ instructionText message ≠ "" then
    some (instructionText message)
  else none

/-- The instructions and the input that `ChatCompletionsRequestToResponsesRequest` makes of the
messages. -/
def convert (messages : List Message) : Option String × List InputItem :=
  let instructionsParts := messages.filterMap instructionPart
  (if instructionsParts = [] then none else some ("\n\n".intercalate instructionsParts),
    messages.flatMap messageItems)

/-- Raw JSON that decodes to the instructions and the input. -/
structure Encodes (request : Option String × List InputItem) (instructions input : String) :
    Prop where
  absent : request.1 = none → instructions = ""
  present : ∀ text ∈ request.1,
    rawJSONPresent instructions = true ∧ responsesJSONString instructions = some text
  isArray : getJsonType input = .array
  items : unmarshalItems input = some request.2

/-! ## What comes back -/

/-- What is said by a message: its role, its text, its calls and the call it answers. -/
abbrev View := String × String × List Call × String

/-- The text of a message: that of its parts, or nothing. -/
def messageText (message : Message) : String :=
  String.join (message.parseContent.map mediaText)

def view (message : Message) : View :=
  (message.role, messageText message, message.parseToolCalls.map call,
    if message.role = "tool" then message.toolCallId else "")

/-- What is to come back: the same, but for a tool message its output. -/
def expected (message : Message) : View :=
  if message.role = "tool" then ("tool", toolOutput message, [], message.toolCallId)
  else view message

abbrev Trimmed (text : String) : Prop := text ≠ "" ∧ trimSpace text = text

def isText : MediaContent → Bool
  | .text _ _ => true
  | _ => false

/-- A message with a text as content, whose calls, if it is one of an assistant, are calls of
functions. -/
structure Convertible (message : Message) : Prop where
  role : message.role ∈ ["system", "developer", "user", "assistant", "tool"]
  content : ∀ media ∈ message.parseContent, isText media = true
  calls : ∀ toolCall ∈ message.parseToolCalls, message.role = "assistant" ∧
    toolCall.type = "function" ∧ Trimmed toolCall.id ∧ Trimmed toolCall.name
  answers : message.role = "tool" → Trimmed message.toolCallId

section Items

variable {message : Message} {messages : List Message}

theorem textOfPart_contentPart (role text cacheControl : String) :
    textOfPart (contentPart role (.text text cacheControl)) = some text := by
  have isText {kind : String} (known : trimSpace kind ∈ ["input_text", "output_text", "text"]) :
      textOfPart (.object [("text", .string text), ("type", .string kind)]) = some text := by
    have isType : trimmed [("text", .string text), ("type", .string kind)] "type" =
        trimSpace kind := rfl
    rw [textOfPart, isType, if_pos known]
    rfl
  rw [contentPart]
  split
  · exact isText (by decide +kernel)
  · exact isText (by decide +kernel)

/-- The text of the content comes back. -/
theorem chatContent_itemContent (convertible : Convertible message) (role : String) :
    responsesInputContentToChatContent (itemContent role message) =
      .text (messageText message) := by
  have texts : ∀ media ∈ message.parseContent,
      textOfPart (contentPart role media) = some (mediaText media) := by
    intro media member
    have isText := convertible.content media member
    cases media with
    | text text cacheControl => exact textOfPart_contentPart role text cacheControl
    | _ => cases isText
  have joined : responsesContentPartsToChatContent
      (message.parseContent.map (contentPart role)) = .text (messageText message) := by
    unfold responsesContentPartsToChatContent
    rw [if_pos, filterMap_map, messageText, ← filterMap_eq_map]
    · exact congrArg (fun texts => ChatContent.text (String.join texts)) (filterMap_congr texts)
    · simp only [all_map, all_eq_true, Function.comp_apply]
      exact fun media member => by rw [texts media member]; rfl
  unfold itemContent
  split
  · rename_i isNull
    simp [messageText, Message.parseContent, isNull, responsesInputContentToChatContent]
  · rename_i text isText
    simp [messageText, Message.parseContent, isText, responsesInputContentToChatContent, mediaText]
  · exact joined

/-- A message of a user or an assistant. -/
theorem messageItem_converted (convertible : Convertible message) {role : String}
    (isTrimmed : Trimmed role) :
    responsesInputItemToChatMessages messages
        [("content", itemContent role message), ("role", .string role)] =
      .ok (messages ++ [⟨role, .text (messageText message), none, none, ""⟩]) := by
  have noType : trimmed [("content", itemContent role message), ("role", .string role)] "type" =
      "" := by with_unfolding_all rfl
  have isRole : trimmed [("content", itemContent role message), ("role", .string role)] "role" =
      role := isTrimmed.2
  unfold responsesInputItemToChatMessages otherMessage
  rw [noType, isRole, if_neg isTrimmed.1]
  exact congrArg (fun content => Except.ok (messages ++ [⟨role, content, none, none, ""⟩]))
    (chatContent_itemContent convertible role)

/-- The item of a call adds it to the last message. -/
theorem callItem_converted {toolCall : ToolCallRequest} (isFunction : toolCall.type = "function")
    (isID : Trimmed toolCall.id) (isName : Trimmed toolCall.name) :
    ∃ item, callItem toolCall = some item ∧ ∃ converted, call converted = call toolCall ∧
      ∀ messages, responsesInputItemToChatMessages messages item =
        .ok (appendToolCallToLastAssistant messages converted) := by
  refine ⟨_, if_neg ?_, ⟨toolCall.id, "function", toolCall.name, toolCall.arguments, ""⟩, rfl,
    fun messages => ?_⟩
  · rw [isID.2, isName.2, isFunction]
    simp [isID.1, isName.1]
  · generalize isItem : [("arguments", JSON.string toolCall.arguments), _, _, _] = item
    have isType : trimmed item "type" = "function_call" := by
      subst isItem
      exact show trimSpace "function_call" = "function_call" by decide +kernel
    have itsID : trimmed item "call_id" = toolCall.id := isItem ▸ isID.2
    have itsName : trimmed item "name" = toolCall.name := by
      subst isItem
      exact (trimSpace_trimSpace _).trans isName.2
    unfold responsesInputItemToChatMessages responsesFunctionCallItemToChatToolCall responsesCallID
    rw [if_pos isType, itsID, itsName, if_neg isName.1, if_pos isID.1]
    subst isItem
    rfl

/-- The items of the calls of an assistant add them to the last message. -/
theorem callItems_converted {last : Message} (isAssistant : last.role = "assistant")
    {toolCalls : List ToolCallRequest}
    (functions : ∀ toolCall ∈ toolCalls, toolCall.type = "function" ∧ Trimmed toolCall.id ∧
      Trimmed toolCall.name) :
    ∃ after, (toolCalls.filterMap callItem).foldlM responsesInputItemToChatMessages
        (messages ++ [last]) = .ok (messages ++ [{ last with toolCalls := after }]) ∧
      (after.getD []).map call = last.parseToolCalls.map call ++ toolCalls.map call := by
  induction toolCalls generalizing last with
  | nil => exact ⟨last.toolCalls, rfl, by simp [Message.parseToolCalls]⟩
  | cons toolCall rest ih =>
    obtain ⟨first, functions⟩ := forall_mem_cons.mp functions
    obtain ⟨item, isItem, converted, same, adds⟩ :=
      callItem_converted first.1 first.2.1 first.2.2
    have appended : appendToolCallToLastAssistant (messages ++ [last]) converted =
        messages ++ [addToolCall last converted] := by
      simp [appendToolCallToLastAssistant, isAssistant]
    obtain ⟨after, folded, calls⟩ := @ih (addToolCall last converted) isAssistant functions
    refine ⟨after, ?_, ?_⟩
    · rw [filterMap_cons_some isItem, foldlM_cons, adds, appended]
      exact folded
    · rw [calls]
      simp [addToolCall, Message.parseToolCalls, same]

/-- The roles of the messages that become instructions. -/
def isSystem (message : Message) : Bool := message.role = "system" || message.role = "developer"

theorem messageItems_speaker (isRole : message.role = "user" ∨ message.role = "assistant") :
    messageItems message =
      [("content", itemContent message.role message), ("role", .string message.role)] ::
        if message.role = "assistant" then message.parseToolCalls.filterMap callItem else [] := by
  have isTrimmed : trimSpace message.role = message.role := by
    rcases isRole with isRole | isRole <;> rw [isRole] <;> decide +kernel
  unfold messageItems
  rw [isTrimmed]
  rcases isRole with isRole | isRole <;> simp [isRole]

theorem messageItems_tool (isTool : message.role = "tool")
    (isTrimmed : Trimmed message.toolCallId) :
    messageItems message =
      [[("call_id", .string message.toolCallId), ("output", .string (toolOutput message)),
        ("type", .string "function_call_output")]] := by
  have isRole : trimSpace message.role = "tool" := by
    rw [isTool]
    decide +kernel
  unfold messageItems
  rw [isRole, isTrimmed.2]
  simp [isTrimmed.1]

theorem view_text (role text toolCallId : String) (toolCalls : Option (List ToolCallRequest)) :
    view ⟨role, .text text, none, toolCalls, toolCallId⟩ =
      (role, text, (toolCalls.getD []).map call, if role = "tool" then toolCallId else "") := by
  simp [view, messageText, Message.parseContent, mediaText, Message.parseToolCalls]

/-- The items of a message give one message back, which says the same. -/
theorem messageItems_converted (convertible : Convertible message)
    (notSystem : isSystem message = false) :
    ∃ back, (messageItems message).foldlM responsesInputItemToChatMessages messages =
      .ok (messages ++ [back]) ∧ view back = expected message := by
  have isRole := convertible.role
  simp only [isSystem, Bool.or_eq_false_iff, decide_eq_false_iff_not] at notSystem
  simp only [mem_cons, not_mem_nil, or_false, notSystem.1, notSystem.2, false_or] at isRole
  have noCalls (notAssistant : message.role ≠ "assistant") : message.parseToolCalls = [] :=
    eq_nil_iff_forall_not_mem.mpr fun toolCall member =>
      notAssistant (convertible.calls toolCall member).1
  rcases isRole with isUser | isAssistant | isTool
  · rw [messageItems_speaker (.inl isUser), isUser, foldlM_cons,
      messageItem_converted convertible (by decide +kernel)]
    refine ⟨_, rfl, ?_⟩
    rw [view_text, expected, view, isUser, noCalls (by simp [isUser])]
    rfl
  · rw [messageItems_speaker (.inr isAssistant), isAssistant, if_pos rfl, foldlM_cons,
      messageItem_converted convertible (by decide +kernel)]
    obtain ⟨after, folded, calls⟩ := @callItems_converted messages
      ⟨"assistant", .text (messageText message), none, none, ""⟩ rfl message.parseToolCalls
      fun toolCall member => (convertible.calls toolCall member).2
    refine ⟨⟨"assistant", .text (messageText message), none, after, ""⟩, folded, ?_⟩
    rw [view_text, expected, view, isAssistant, calls]
    rfl
  · have isTrimmed := convertible.answers isTool
    rw [messageItems_tool isTool isTrimmed, foldlM_cons]
    generalize isItem : [("call_id", JSON.string message.toolCallId), _, _] = item
    have isType : trimmed item "type" = "function_call_output" := by
      subst isItem
      exact show trimSpace "function_call_output" = "function_call_output" by decide +kernel
    have itsID : trimmed item "call_id" = message.toolCallId := isItem ▸ isTrimmed.2
    have isOutput : responsesArgumentsString (JSON.member item "output") = toolOutput message := by
      subst isItem
      rfl
    unfold responsesInputItemToChatMessages
    rw [isType, itsID, isOutput]
    refine ⟨_, rfl, ?_⟩
    rw [expected, if_pos isTool]
    rfl

theorem messageItems_system (isIt : isSystem message = true) : messageItems message = [] := by
  simp only [isSystem, Bool.or_eq_true, decide_eq_true_eq] at isIt
  unfold messageItems
  rcases isIt with isRole | isRole <;> rw [isRole] <;> exact if_pos (by decide +kernel)

/-- The items of all messages give the messages back that are no instructions. -/
theorem items_converted (start : List Message)
    (convertible : ∀ message ∈ messages, Convertible message) :
    ∃ back, (messages.flatMap messageItems).foldlM responsesInputItemToChatMessages start =
        .ok (start ++ back) ∧
      back.map view = (messages.filter fun message => !isSystem message).map expected := by
  induction messages generalizing start with
  | nil => exact ⟨[], by simp [pure, Except.pure], rfl⟩
  | cons message rest ih =>
    obtain ⟨first, convertible⟩ := forall_mem_cons.mp convertible
    rw [flatMap_cons, foldlM_append]
    cases isIt : isSystem message with
    | true =>
      rw [messageItems_system isIt, filter_cons_of_neg (by simp [isIt])]
      exact ih start convertible
    | false =>
      obtain ⟨back, folded, same⟩ := @messageItems_converted message start first isIt
      obtain ⟨more, foldedMore, sameMore⟩ := ih (start ++ [back]) convertible
      refine ⟨back :: more, ?_, ?_⟩
      · rw [folded]
        rw [append_assoc] at foldedMore
        exact foldedMore
      · rw [filter_cons_of_pos (by simp [isIt]), map_cons, map_cons, same, sameMore]

end Items

/-! ## The round trip -/

theorem instructionPart_nonblank {message : Message} {text : String}
    (isPart : instructionPart message = some text) : trimSpace text ≠ "" := by
  have isTrimmed : trimSpace (instructionText message) = instructionText message := by
    unfold instructionText
    split
    · decide
    · exact trimSpace_trimSpace _
    · exact trimSpace_trimSpace _
  unfold instructionPart at isPart
  dsimp only at isPart
  split at isPart
  · rename_i isInstruction
    cases isPart
    rw [isTrimmed]
    exact isInstruction.2
  · cases isPart

/-- Joined texts are not blank if the first is not. -/
theorem intercalate_nonblank {separator first : String} {rest : List String}
    (nonblank : trimSpace first ≠ "") :
    trimSpace (separator.intercalate (first :: rest)) ≠ "" := by
  rw [Ne, trimSpace_eq_empty_iff] at nonblank ⊢
  intro all
  refine nonblank fun char member => all char ?_
  cases rest with
  | nil => simpa [List.intercalate] using member
  | cons second rest => simp [List.intercalate, member]

/-- The leading message that the system and developer messages are joined to. -/
def systemView (messages : List Message) : List View :=
  (convert messages).1.toList.map fun text => ("system", text, [], "")

/-- Messages with texts, calls of functions and tool results come back from a Responses request,
with one leading message for the system. -/
theorem chat_round_trip (messages : List Message) (instructions input : String)
    (convertible : ∀ message ∈ messages, Convertible message)
    (encodes : Encodes (convert messages) instructions input) :
    ∃ back, responsesRequestMessagesToChat instructions input = .ok back ∧
      back.map view = systemView messages ++
        (messages.filter fun message => !isSystem message).map expected := by
  obtain ⟨start, isStart, sameStart⟩ : ∃ start, instructionMessages instructions = .ok start ∧
      start.map view = systemView messages := by
    unfold systemView instructionMessages
    cases isText : (convert messages).1 with
    | none =>
      rw [encodes.absent isText]
      exact ⟨[], by decide, rfl⟩
    | some text =>
      have encoded := encodes.present text isText
      have nonblank : trimSpace text ≠ "" := by
        unfold convert at isText
        dsimp only at isText
        split at isText
        · cases isText
        rename_i nonempty
        cases isText
        obtain ⟨first, rest, parts⟩ := exists_cons_of_ne_nil nonempty
        have isFirst : first ∈ messages.filterMap instructionPart := by simp [parts]
        obtain ⟨message, -, isPart⟩ := mem_filterMap.mp isFirst
        rw [parts]
        exact intercalate_nonblank (instructionPart_nonblank isPart)
      rw [if_pos encoded.1, encoded.2]
      dsimp only
      rw [if_pos nonblank]
      exact ⟨_, rfl, by rw [map_singleton, view_text]; rfl⟩
  obtain ⟨back, folded, same⟩ := items_converted start convertible
  refine ⟨start ++ back, ?_, by rw [map_append, sameStart, same]⟩
  rw [messages_of_array isStart encodes.isArray encodes.items]
  exact folded

/-- A system message, a call and its result. -/
private def conversation : List Message :=
  [⟨"system", .text " s ", none, none, ""⟩,
    ⟨"assistant", .null, none, some [⟨"c", "function", "f", "a", ""⟩], ""⟩,
    ⟨"tool", .text "o", none, none, "c"⟩]

theorem conversation_round_trip :
    systemView conversation = [("system", "s", [], "")] ∧
      ∃ back, responsesRequestMessagesToChat "\"s\""
          ("[\x7b\"content\":\"\",\"role\":\"assistant\"\x7d,\x7b\"arguments\":\"a\"," ++
            "\"call_id\":\"c\",\"name\":\"f\",\"type\":\"function_call\"\x7d," ++
            "\x7b\"call_id\":\"c\",\"output\":\"o\",\"type\":\"function_call_output\"\x7d]") =
          .ok back ∧
        back.map view = systemView conversation ++
          (conversation.filter fun message => !isSystem message).map expected := by
  refine ⟨by with_unfolding_all rfl, chat_round_trip conversation _ _ ?_
    ⟨by decide +kernel, by decide +kernel, by decide +kernel, by decide +kernel⟩⟩
  rintro message (_ | ⟨_, _ | ⟨_, _ | ⟨_, ⟨⟩⟩⟩⟩) <;>
    exact ⟨by decide +kernel, by decide +kernel, by decide +kernel, by decide +kernel⟩

/-- A tool result that is a list of one text comes back as JSON. -/
theorem tool_parts_encoded :
    let message : Message :=
      ⟨"tool", .parts [.object [("text", .string "o"), ("type", .string "text")]], none, none, "c"⟩
    let input := "[\x7b\"call_id\":\"c\",\"output\":\"[\x7b\\\"text\\\":\\\"o\\\"," ++
      "\\\"type\\\":\\\"text\\\"\x7d]\",\"type\":\"function_call_output\"\x7d]"
    Convertible message ∧ Encodes (convert [message]) "" input ∧
      messageText message = "o" ∧
      (responsesRequestMessagesToChat "" input).map (List.map messageText) =
        .ok ["[\x7b\"text\":\"o\",\"type\":\"text\"\x7d]"] := by
  intro message input
  have encodes : Encodes (convert [message]) "" input := by
    refine ⟨?_, ?_, ?_, ?_⟩ <;> decide +kernel
  have start : instructionMessages "" = .ok [] := by decide
  refine ⟨⟨by decide +kernel, by decide +kernel, by decide +kernel, by decide +kernel⟩, encodes,
    by decide +kernel, ?_⟩
  rw [messages_of_array start encodes.isArray encodes.items]
  decide +kernel

end ChatToResponses

end AiHub.Relaykit

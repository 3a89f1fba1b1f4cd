import AiHub.Relaykit.ChatMessage
import AiHub.Library.Selection

/-!
# Responses requests as chat requests

The items of a Responses input become chat messages: calls are added to the last assistant
message, outputs become tool messages, and everything else becomes a message of its own.

The tool protocol is kept if the calls, and the messages that are not only there to carry calls,
are those of the items.  That is so exactly if all items are calls, outputs of functions and
messages, with identifiers and names that need no trimming: reasoning and the outputs of custom
tools become messages of a user.
-/

namespace AiHub.Relaykit

open AiHub.Library List

inductive JsonType where
  | unknown | object | array | string | boolean | null | number
  deriving DecidableEq, Repr

def getJsonType (data : String) : JsonType :=
  match (trimSpace data).toList.head? with
  | none => .unknown
  | some first =>
    if first = '\x7b' then .object
    else if first = '[' then .array
    else if first = '"' then .string
    else if first = 't' ∨ first = 'f' then .boolean
    else if first = 'n' then .null
    else .number

namespace ResponsesRequest

/-- The errors of the conversion; those of `encoding/json` are not told apart. -/
inductive MessagesError where
  | invalidInstructions
  | invalidInputString
  | invalidInputArray
  | unsupportedInputType (type : JsonType)
  | missingName
  deriving DecidableEq, Repr

/-- The members of an item of the input. -/
abbrev InputItem := List (String × JSON)

def rawJSONPresent (raw : String) : Bool := raw ≠ "" && getJsonType raw ≠ .null

def responsesJSONString (raw : String) : Option String :=
  if getJsonType raw ≠ .string then some raw
  else (JSON.unmarshal raw).bind JSON.string?

/-- A member as a trimmed string. -/
def trimmed (item : InputItem) (key : String) : String :=
  trimSpace (interface2String (JSON.member item key))

def responsesCallID (item : InputItem) : String :=
  if trimmed item "call_id" ≠ "" then trimmed item "call_id" else trimmed item "id"

/-- `responsesArgumentsString`, and `responseToolOutputToChatContent`, which does the same. -/
def responsesArgumentsString : JSON → String
  | .null => ""
  | .string text => text
  | value => value.marshal

/-! ## Content -/

/-- Those members of a part that are among the keys; the whole part if there are none. -/
def pickMembers (part : InputItem) (keys : List String) : JSON :=
  let picked := keys.filterMap fun key => (JSON.member? part key).map (key, ·)
  .object (if picked = [] then part else picked)

def responsesImagePartToChatImageURL (part : InputItem) : JSON :=
  (JSON.member? part "image_url").getD (pickMembers part ["url", "file_id", "detail"])

def responsesFilePartToChatFile (part : InputItem) : JSON :=
  (JSON.member? part "file").getD
    (pickMembers part ["file_id", "file_data", "filename", "file_url"])

def responsesPartPayload (part : InputItem) (key : String) : JSON :=
  (JSON.member? part key).getD (.object (part.filter fun entry => entry.1 ≠ "type"))

def responsesVideoPartToChatVideoURL (part : InputItem) : JSON :=
  match JSON.member? part "video_url" with
  | some (.object video) =>
    if interface2String (JSON.member video "url") ≠ "" then
      .string (interface2String (JSON.member video "url"))
    else .object video
  | some video => video
  | none =>
    if interface2String (JSON.member part "url") ≠ "" then
      .string (interface2String (JSON.member part "url"))
    else responsesPartPayload part "video_url"

def textOfPart : JSON → Option String
  | .object part =>
    if trimmed part "type" ∈ ["input_text", "output_text", "text"] then
      some (interface2String (JSON.member part "text"))
    else none
  | _ => none

/-- One part of the loop in `responsesContentPartsToChatContent`. -/
def chatPart (rawPart : JSON) : JSON :=
  match textOfPart rawPart, rawPart with
  | some text, _ => .object [("type", .string "text"), ("text", .string text)]
  | none, .object part =>
    if trimmed part "type" = "input_image" then
      .object [("type", .string "image_url"),
        ("image_url", responsesImagePartToChatImageURL part)]
    else if trimmed part "type" = "input_file" then
      .object [("type", .string "file"), ("file", responsesFilePartToChatFile part)]
    else if trimmed part "type" = "input_audio" then
      .object [("type", .string "input_audio"),
        ("input_audio", responsesPartPayload part "input_audio")]
    else if trimmed part "type" = "input_video" then
      .object [("type", .string "video_url"),
        ("video_url", responsesVideoPartToChatVideoURL part)]
    else .object part
  | none, _ => rawPart

def responsesContentPartsToChatContent (parts : List JSON) : ChatContent :=
  if parts.all fun part => (textOfPart part).isSome then
    .text (String.join (parts.filterMap textOfPart))
  else .parts (parts.map chatPart)

def responsesInputContentToChatContent : JSON → ChatContent
  | .null => .text ""
  | .string text => .text text
  | .array parts => responsesContentPartsToChatContent parts
  | content => .other content

/-! ## Items -/

def responsesFunctionCallItemToChatToolCall (item : InputItem) :
    Except MessagesError ToolCallRequest :=
  if trimmed item "name" = "" then .error .missingName
  else
    .ok ⟨responsesCallID item, "function", trimmed item "name",
      responsesArgumentsString (JSON.member item "arguments"), ""⟩

def responsesCustomToolCallItemToChatToolCall (item : InputItem) : ToolCallRequest :=
  ⟨responsesCallID item, "custom", trimmed item "name",
    responsesArgumentsString (JSON.member item "input"), (JSON.object item).marshal⟩

/-- A message with one more tool call. -/
def addToolCall (message : Message) (toolCall : ToolCallRequest) : Message :=
  { message with toolCalls := some (message.parseToolCalls ++ [toolCall]) }

def appendToolCallToLastAssistant (messages : List Message) (toolCall : ToolCallRequest) :
    List Message :=
  let assistant : Message := ⟨"assistant", .null, none, none, ""⟩
  match messages.getLast? with
  | some last =>
    if last.role = "assistant" then messages.dropLast ++ [addToolCall last toolCall]
    else messages ++ [addToolCall assistant toolCall]
  | none => messages ++ [addToolCall assistant toolCall]

/-- The message of an item that is neither a call nor the output of a function. -/
def otherMessage (item : InputItem) : Message :=
  ⟨if trimmed item "role" = "" then "user" else trimmed item "role",
    responsesInputContentToChatContent (JSON.member item "content"), none, none, ""⟩

def responsesInputItemToChatMessages (messages : List Message) (item : InputItem) :
    Except MessagesError (List Message) :=
  if trimmed item "type" = "function_call" then
    (responsesFunctionCallItemToChatToolCall item).map (appendToolCallToLastAssistant messages)
  else if trimmed item "type" = "custom_tool_call" then
    .ok (appendToolCallToLastAssistant messages (responsesCustomToolCallItemToChatToolCall item))
  else if trimmed item "type" = "function_call_output" then
    .ok (messages ++ [⟨"tool", .text (responsesArgumentsString (JSON.member item "output")), none,
      none, trimmed item "call_id"⟩])
  else .ok (messages ++ [otherMessage item])

/-- The items of an array; what is null is read as an item without members. -/
def inputItem : JSON → Option InputItem
  | .object item => some item
  | .null => some []
  | _ => none

/-- `json.Unmarshal` into a list of maps. -/
def unmarshalItems (input : String) : Option (List InputItem) :=
  match JSON.unmarshal input with
  | some (.array items) => items.mapM inputItem
  | _ => none

def instructionMessages (instructions : String) : Except MessagesError (List Message) :=
  if rawJSONPresent instructions then
    match responsesJSONString instructions with
    | none => .error .invalidInstructions
    | some text =>
      .ok (if trimSpace text ≠ "" then [⟨"system", .text text, none, none, ""⟩] else [])
  else .ok []

def responsesRequestMessagesToChat (instructions input : String) :
    Except MessagesError (List Message) :=
  match instructionMessages instructions with
  | .error error => .error error
  | .ok messages =>
    if rawJSONPresent input then
      match getJsonType input with
      | .string =>
        match responsesJSONString input with
        | none => .error .invalidInputString
        | some text => .ok (messages ++ [⟨"user", .text text, none, none, ""⟩])
      | .array =>
        match unmarshalItems input with
        | none => .error .invalidInputArray
        | some items => items.foldlM responsesInputItemToChatMessages messages
      | type => .error (.unsupportedInputType type)
    else .ok messages

/-! ## What the messages say -/

/-- A call: its identifier, the name of the tool and the arguments. -/
abbrev Call := String × String × String

/-- What a message says apart from its calls: its role, the call it answers, and its text. -/
abbrev Statement := String × String × String

def call (toolCall : ToolCallRequest) : Call := (toolCall.id, toolCall.name, toolCall.arguments)

/-- All calls of the messages in order. -/
def calls (messages : List Message) : List Call :=
  messages.flatMap fun message => message.parseToolCalls.map call

/-- A message that is there to carry calls has no content. -/
def carriesOnly (message : Message) : Bool := message.content = .null

def statement (message : Message) : Statement :=
  (message.role, message.toolCallId, message.stringContent)

/-- What is said by the messages that do not only carry calls. -/
def statements (messages : List Message) : List Statement :=
  (messages.filter fun message => !carriesOnly message).map statement

/-! ## What the items say -/

/-- The kinds of items of the protocol. -/
inductive ItemKind where
  | message | functionCall | functionCallOutput | customToolCall | customToolCallOutput | reasoning
  deriving DecidableEq, Repr

/-- An item without a type is a message. -/
def itemTypes : List (String × ItemKind) :=
  [("message", .message), ("", .message), ("function_call", .functionCall),
    ("function_call_output", .functionCallOutput), ("custom_tool_call", .customToolCall),
    ("custom_tool_call_output", .customToolCallOutput), ("reasoning", .reasoning)]

def itemKind (item : InputItem) : Option ItemKind :=
  (itemTypes.find? fun entry => entry.1 = interface2String (JSON.member item "type")).map Prod.snd

def itemText : JSON → String
  | .string text => text
  | .array parts => String.join (parts.filterMap textOfPart)
  | _ => ""

/-- A member that is a string. -/
def text (item : InputItem) (key : String) : String := (JSON.member item key).string?.getD ""

def itemCall (item : InputItem) : Option Call :=
  match itemKind item with
  | some .functionCall =>
    some (text item "call_id", text item "name",
      responsesArgumentsString (JSON.member item "arguments"))
  | some .customToolCall =>
    some (text item "call_id", text item "name",
      responsesArgumentsString (JSON.member item "input"))
  | _ => none

def itemStatement (item : InputItem) : Option Statement :=
  match itemKind item with
  | some .functionCallOutput | some .customToolCallOutput =>
    some ("tool", text item "call_id", responsesArgumentsString (JSON.member item "output"))
  | some .message =>
    some ((otherMessage item).role, "", itemText (JSON.member item "content"))
  | _ => none

/-- An item of the protocol: calls and outputs have an identifier, and calls have a name. -/
def protocolItem (item : InputItem) : Bool :=
  match itemKind item with
  | none => false
  | some .message | some .reasoning => true
  | some .functionCall | some .customToolCall =>
    text item "call_id" ≠ "" && text item "name" ≠ ""
  | some .functionCallOutput | some .customToolCallOutput => text item "call_id" ≠ ""

structure ProtocolItem (item : InputItem) : Prop where
  known : itemKind item ≠ none
  identified : itemKind item ≠ some .message → itemKind item ≠ some .reasoning →
    ∃ callID, JSON.member item "call_id" = .string callID ∧ callID ≠ ""
  named : itemKind item = some .functionCall ∨ itemKind item = some .customToolCall →
    ∃ name, JSON.member item "name" = .string name ∧ name ≠ ""

/-- The messages say what the items say after what was there at the start, and nothing else. -/
structure KeepsToolProtocol (start : List Message) (items : List InputItem)
    (messages : List Message) : Prop where
  calls : calls messages = items.filterMap itemCall
  statements : statements messages = statements start ++ items.filterMap itemStatement
  carriers : ∀ message ∈ messages, carriesOnly message → message.parseToolCalls ≠ []

/-- The items that the conversion keeps. -/
def convertible (item : InputItem) : Bool :=
  match itemKind item with
  | some .message => true
  | some .functionCall | some .customToolCall =>
    trimSpace (text item "call_id") = text item "call_id" &&
      trimSpace (text item "name") = text item "name"
  | some .functionCallOutput => trimSpace (text item "call_id") = text item "call_id"
  | _ => false

/-! ## Appending -/

theorem calls_append (first second : List Message) :
    calls (first ++ second) = calls first ++ calls second := flatMap_append

theorem statements_append (first second : List Message) :
    statements (first ++ second) = statements first ++ statements second := by
  rw [statements, filter_append, map_append, statements, statements]

theorem calls_addToolCall (message : Message) (toolCall : ToolCallRequest) :
    calls [addToolCall message toolCall] = calls [message] ++ [call toolCall] := by
  simp [calls, addToolCall, Message.parseToolCalls]

theorem statements_addToolCall (message : Message) (toolCall : ToolCallRequest) :
    statements [addToolCall message toolCall] = statements [message] := by
  have sameContent : carriesOnly (addToolCall message toolCall) = carriesOnly message := rfl
  have sameStatement : statement (addToolCall message toolCall) = statement message := rfl
  cases only : carriesOnly message <;> simp [statements, sameContent, sameStatement, only]

/-- A call is added at the end, and nothing else is said. -/
theorem appendToolCall_spec (messages : List Message) (toolCall : ToolCallRequest) :
    calls (appendToolCallToLastAssistant messages toolCall) = calls messages ++ [call toolCall] ∧
      statements (appendToolCallToLastAssistant messages toolCall) = statements messages := by
  unfold appendToolCallToLastAssistant
  have added : ∀ assistant : Message, assistant.parseToolCalls = [] → carriesOnly assistant →
      calls (messages ++ [addToolCall assistant toolCall]) = calls messages ++ [call toolCall] ∧
        statements (messages ++ [addToolCall assistant toolCall]) = statements messages := by
    intro assistant silent only
    rw [calls_append, calls_addToolCall, statements_append, statements_addToolCall]
    constructor
    · simp [calls, silent]
    · simp [statements, only]
  cases isLast : messages.getLast? with
  | none => exact added _ rfl rfl
  | some last =>
    simp only
    split
    · have whole : messages = messages.dropLast ++ [last] :=
        (dropLast_append_getLast? last isLast).symm
      rw [calls_append, calls_addToolCall, statements_append, statements_addToolCall,
        ← append_assoc, ← calls_append, ← statements_append, ← whole]
      exact ⟨rfl, rfl⟩
    · exact added _ rfl rfl

/-- The messages that only carry calls have some. -/
def Carrying (messages : List Message) : Prop :=
  ∀ message ∈ messages, carriesOnly message → message.parseToolCalls ≠ []

theorem Carrying.append {first second : List Message} (before : Carrying first)
    (after : Carrying second) : Carrying (first ++ second) := by
  intro message member
  rcases mem_append.mp member with left | right
  · exact before message left
  · exact after message right

theorem Carrying.addToolCall (message : Message) (toolCall : ToolCallRequest) :
    Carrying [addToolCall message toolCall] := by
  intro other member _
  rw [mem_singleton.mp member]
  simp [ResponsesRequest.addToolCall, Message.parseToolCalls]

variable {messages : List Message} {item : InputItem}

theorem Carrying.appendToolCall (carrying : Carrying messages) (toolCall : ToolCallRequest) :
    Carrying (appendToolCallToLastAssistant messages toolCall) := by
  unfold appendToolCallToLastAssistant
  cases isLast : messages.getLast? with
  | none => exact carrying.append (.addToolCall _ _)
  | some last =>
    simp only
    split
    · refine Carrying.append (fun message member => ?_) (.addToolCall _ _)
      exact carrying message (mem_of_mem_dropLast member)
    · exact carrying.append (.addToolCall _ _)

/-! ## The text of a message -/

theorem join_filterMap {Item : Type} (text : Item → Option String) (items : List Item) :
    String.join (items.filterMap text) =
      String.join (items.map fun item => (text item).getD "") := by
  induction items with
  | nil => rfl
  | cons item rest ih =>
    cases found : text item with
    | none => simp [found, ih]
    | some found => simp [*]

theorem partText_chatPart (part : JSON) : partText (chatPart part) = (textOfPart part).getD "" := by
  unfold chatPart
  cases isText : textOfPart part with
  | some text => simp [partText, JSON.member, JSON.member?, JSON.string?]
  | none =>
    cases part with
    | object members =>
      have notText : JSON.member members "type" ≠ .string "text" := by
        intro same
        have among : trimmed members "type" ∈ ["input_text", "output_text", "text"] := by
          rw [trimmed, same]
          decide
        simp [textOfPart, among] at isText
      simp only
      split_ifs
      on_goal 5 => exact if_neg notText
      all_goals simp [partText, JSON.member, JSON.member?]
    | _ => rfl

/-- The text of a message item is the text of its message. -/
theorem stringContent_otherMessage (item : InputItem) :
    (otherMessage item).stringContent = itemText (JSON.member item "content") := by
  simp only [otherMessage, Message.stringContent]
  cases JSON.member item "content" with
  | array parts =>
    simp only [responsesInputContentToChatContent, responsesContentPartsToChatContent, itemText]
    split_ifs
    · rfl
    · simp only
      rw [join_filterMap, map_map]
      exact congrArg String.join (map_congr_left fun part _ => partText_chatPart part)
  | _ => rfl

/-! ## One item and all items -/

def convertedCall (item : InputItem) : Option Call :=
  if trimmed item "type" = "function_call" then
    some (responsesCallID item, trimmed item "name",
      responsesArgumentsString (JSON.member item "arguments"))
  else if trimmed item "type" = "custom_tool_call" then
    some (call (responsesCustomToolCallItemToChatToolCall item))
  else none

/-- What the message says that an item is converted to. -/
def convertedStatement (item : InputItem) : Option Statement :=
  if trimmed item "type" = "function_call" ∨ trimmed item "type" = "custom_tool_call" then none
  else if trimmed item "type" = "function_call_output" then
    some ("tool", trimmed item "call_id", responsesArgumentsString (JSON.member item "output"))
  else some (statement (otherMessage item))

/-- The messages are those from before with what an item has added. -/
structure Adds (messages : List Message) (newCalls : List Call) (newStatements : List Statement)
    (after : List Message) : Prop where
  calls : calls after = ResponsesRequest.calls messages ++ newCalls
  statements : statements after = ResponsesRequest.statements messages ++ newStatements
  carrying : Carrying messages → Carrying after

theorem Adds.toolCall (messages : List Message) (toolCall : ToolCallRequest) :
    Adds messages [call toolCall] [] (appendToolCallToLastAssistant messages toolCall) := by
  obtain ⟨newCalls, sameStatements⟩ := appendToolCall_spec messages toolCall
  exact ⟨newCalls, by rw [sameStatements, append_nil],
    fun carrying => carrying.appendToolCall toolCall⟩

theorem Adds.message (messages : List Message) {message : Message}
    (content : message.content ≠ .null) (noCalls : message.parseToolCalls = []) :
    Adds messages [] [statement message] (messages ++ [message]) := by
  refine ⟨?_, ?_, fun carrying => carrying.append fun other member only => ?_⟩
  · simp [ResponsesRequest.calls, noCalls]
  · simp [ResponsesRequest.statements, carriesOnly, content]
  · rw [mem_singleton.mp member, carriesOnly, decide_eq_true_eq] at only
    exact absurd only content

theorem otherMessage_content (item : InputItem) : (otherMessage item).content ≠ .null := by
  simp only [otherMessage]
  cases JSON.member item "content" with
  | array parts =>
    simp only [responsesInputContentToChatContent, responsesContentPartsToChatContent]
    split_ifs <;> simp
  | _ => simp [responsesInputContentToChatContent]

theorem call_responsesFunctionCallItem {toolCall : ToolCallRequest}
    (converted : responsesFunctionCallItemToChatToolCall item = .ok toolCall) :
    call toolCall = (responsesCallID item, trimmed item "name",
      responsesArgumentsString (JSON.member item "arguments")) := by
  unfold responsesFunctionCallItemToChatToolCall at converted
  split_ifs at converted
  simp only [← Except.ok.inj converted, call]

theorem responsesInputItemToChatMessages_adds {after : List Message}
    (converted : responsesInputItemToChatMessages messages item = .ok after) :
    Adds messages (convertedCall item).toList (convertedStatement item).toList after := by
  unfold responsesInputItemToChatMessages at converted
  unfold convertedCall convertedStatement
  by_cases isCall : trimmed item "type" = "function_call"
  · rw [if_pos isCall] at converted
    rw [if_pos isCall, if_pos (.inl isCall)]
    cases isToolCall : responsesFunctionCallItemToChatToolCall item with
    | error error =>
      rw [isToolCall] at converted
      cases converted
    | ok toolCall =>
      rw [isToolCall] at converted
      rw [← call_responsesFunctionCallItem isToolCall, ← Except.ok.inj converted]
      exact .toolCall messages toolCall
  by_cases isCustom : trimmed item "type" = "custom_tool_call"
  · rw [if_neg isCall, if_pos isCustom] at converted
    rw [if_neg isCall, if_pos isCustom, if_pos (.inr isCustom), ← Except.ok.inj converted]
    exact .toolCall messages (responsesCustomToolCallItemToChatToolCall item)
  rw [if_neg isCall, if_neg isCustom] at converted
  rw [if_neg isCall, if_neg isCustom, if_neg (not_or.mpr ⟨isCall, isCustom⟩)]
  by_cases isOutput : trimmed item "type" = "function_call_output"
  · rw [if_pos isOutput] at converted
    rw [if_pos isOutput, ← Except.ok.inj converted]
    exact @Adds.message messages ⟨"tool",
      .text (responsesArgumentsString (JSON.member item "output")), none, none,
      trimmed item "call_id"⟩ (fun same => by cases same) rfl
  · rw [if_neg isOutput] at converted
    rw [if_neg isOutput, ← Except.ok.inj converted]
    exact Adds.message messages (otherMessage_content item) rfl

/-- All items add what each of them adds. -/
theorem foldlM_adds {items : List InputItem} {after : List Message}
    (converted : items.foldlM responsesInputItemToChatMessages messages = .ok after) :
    Adds messages (items.filterMap convertedCall) (items.filterMap convertedStatement) after := by
  induction items generalizing messages with
  | nil =>
    cases converted
    exact ⟨by simp, by simp, id⟩
  | cons item rest ih =>
    rw [foldlM_cons] at converted
    cases first : responsesInputItemToChatMessages messages item with
    | error error =>
      rw [first] at converted
      cases converted
    | ok middle =>
      rw [first] at converted
      have head := responsesInputItemToChatMessages_adds first
      have tail := ih converted
      refine ⟨?_, ?_, tail.carrying ∘ head.carrying⟩
      · rw [tail.calls, head.calls, append_assoc, filterMap_cons]
        cases convertedCall item <;> rfl
      · rw [tail.statements, head.statements, append_assoc, filterMap_cons]
        cases convertedStatement item <;> rfl

/-- The conversion succeeds if the functions that are called have names. -/
theorem foldlM_ok {items : List InputItem}
    (named : ∀ item ∈ items, trimmed item "type" = "function_call" → trimmed item "name" ≠ "")
    (messages : List Message) :
    ∃ after, items.foldlM responsesInputItemToChatMessages messages = .ok after := by
  induction items generalizing messages with
  | nil => exact ⟨messages, rfl⟩
  | cons item rest ih =>
    have first : ∃ middle, responsesInputItemToChatMessages messages item = .ok middle := by
      unfold responsesInputItemToChatMessages
      split_ifs with isCall
      · rw [responsesFunctionCallItemToChatToolCall, if_neg (named item mem_cons_self isCall)]
        exact ⟨_, rfl⟩
      all_goals exact ⟨_, rfl⟩
    obtain ⟨middle, isMiddle⟩ := first
    obtain ⟨after, isAfter⟩ :=
      ih (fun other member => named other (mem_cons_of_mem _ member)) middle
    refine ⟨after, ?_⟩
    rw [foldlM_cons, isMiddle]
    exact isAfter

/-! ## The tool protocol -/

theorem trimSpace_itemTypes : ∀ entry ∈ itemTypes, trimSpace entry.1 = entry.1 := by
  decide +kernel

theorem type_of_itemKind {kind : ItemKind} (isKind : itemKind item = some kind) :
    ∃ entry ∈ itemTypes, entry.2 = kind ∧ trimmed item "type" = entry.1 := by
  obtain ⟨entry, found, sameKind⟩ := Option.map_eq_some_iff.mp isKind
  have same := find?_some found
  simp only [decide_eq_true_eq] at same
  have member := mem_of_find?_eq_some found
  refine ⟨entry, member, sameKind, ?_⟩
  rw [trimmed, ← same]
  exact trimSpace_itemTypes entry member

theorem exists_string_of_text {key : String} (nonempty : text item key ≠ "") :
    ∃ found, JSON.member item key = .string found ∧ found ≠ "" := by
  rw [text] at nonempty
  cases given : JSON.member item key with
  | string found =>
    rw [given] at nonempty
    exact ⟨found, rfl, nonempty⟩
  | _ =>
    rw [given] at nonempty
    exact absurd rfl nonempty

theorem ProtocolItem.of_protocolItem (isItem : protocolItem item) : ProtocolItem item := by
  unfold protocolItem at isItem
  cases isKind : itemKind item with
  | none => simp [isKind] at isItem
  | some kind =>
    refine ⟨by simp [isKind], fun notMessage notReasoning => ?_, fun isCall => ?_⟩
    · refine exists_string_of_text ?_
      cases kind <;> simp_all
    · refine exists_string_of_text ?_
      cases kind <;> simp_all

/-- The identifier of an item is kept exactly if it needs no trimming. -/
theorem responsesCallID_eq_iff {callID : String}
    (given : JSON.member item "call_id" = .string callID) (nonempty : callID ≠ "") :
    responsesCallID item = callID ↔ trimSpace callID = callID := by
  have isTrimmed : trimmed item "call_id" = trimSpace callID := by rw [trimmed, given]; rfl
  rw [responsesCallID, isTrimmed]
  split_ifs with kept
  · rfl
  · rw [not_not.mp kept]
    constructor
    · intro same
      rw [← not_not.mp kept, ← same, trimmed, trimSpace_trimSpace]
    · exact fun same => absurd same.symm nonempty

/-- For each kind of item, what the conversion makes of it. -/
theorem converted_of_kind {kind : ItemKind} (isKind : itemKind item = some kind) :
    convertedCall item =
        (match kind with
        | .functionCall =>
          some (responsesCallID item, trimmed item "name",
            responsesArgumentsString (JSON.member item "arguments"))
        | .customToolCall =>
          some (responsesCallID item, trimmed item "name",
            responsesArgumentsString (JSON.member item "input"))
        | _ => none) ∧
      convertedStatement item =
        (match kind with
        | .functionCall | .customToolCall => none
        | .functionCallOutput =>
          some ("tool", trimmed item "call_id",
            responsesArgumentsString (JSON.member item "output"))
        | _ => some (statement (otherMessage item))) := by
  obtain ⟨entry, member, sameKind, isType⟩ := type_of_itemKind isKind
  unfold convertedCall convertedStatement
  rw [isType]
  simp only [itemTypes, mem_cons, not_mem_nil, or_false] at member
  rcases member with rfl | rfl | rfl | rfl | rfl | rfl | rfl <;> subst sameKind <;>
    simp [call, responsesCustomToolCallItemToChatToolCall]

theorem ProtocolItem.convertible_iff (protocol : ProtocolItem item) :
    convertible item ↔
      convertedCall item = itemCall item ∧ convertedStatement item = itemStatement item := by
  obtain ⟨kind, isKind⟩ := Option.ne_none_iff_exists'.mp protocol.known
  obtain ⟨isCall, isStatement⟩ := converted_of_kind isKind
  have identified := protocol.identified
  have named := protocol.named
  rw [isCall, isStatement, convertible, itemCall, itemStatement]
  simp only [isKind, text] at identified named ⊢
  cases kind with
  | message =>
    simp only [statement, stringContent_otherMessage, true_iff]
    exact ⟨trivial, rfl⟩
  | reasoning => simp
  | functionCall | customToolCall =>
    obtain ⟨callID, isCallID, nonempty⟩ := identified (by simp) (by simp)
    obtain ⟨name, isName, -⟩ := named (by simp)
    have isTrimmed : trimmed item "name" = trimSpace name := by rw [trimmed, isName]; rfl
    simp [isCallID, isName, JSON.string?, isTrimmed, responsesCallID_eq_iff isCallID nonempty]
  | functionCallOutput =>
    obtain ⟨callID, isCallID, nonempty⟩ := identified (by simp) (by simp)
    have isTrimmed : trimmed item "call_id" = trimSpace callID := by rw [trimmed, isCallID]; rfl
    simp [isCallID, JSON.string?, isTrimmed]
  | customToolCallOutput =>
    obtain ⟨callID, isCallID, nonempty⟩ := identified (by simp) (by simp)
    simp [isCallID, JSON.string?, statement, otherMessage, nonempty.symm]

/-- What is expected of an item is made of it in some form. -/
theorem ProtocolItem.counted (protocol : ProtocolItem item) :
    (convertedCall item = none → itemCall item = none) ∧
      (convertedStatement item = none → itemStatement item = none) := by
  obtain ⟨kind, isKind⟩ := Option.ne_none_iff_exists'.mp protocol.known
  obtain ⟨isCall, isStatement⟩ := converted_of_kind isKind
  rw [isCall, isStatement, itemCall, itemStatement]
  simp only [isKind]
  cases kind <;> simp

/-- A function that is called in a convertible item has a name. -/
theorem ProtocolItem.named_of_convertible (protocol : ProtocolItem item)
    (isConvertible : convertible item) (isCall : trimmed item "type" = "function_call") :
    trimmed item "name" ≠ "" := by
  obtain ⟨kind, isKind⟩ := Option.ne_none_iff_exists'.mp protocol.known
  obtain ⟨entry, member, sameKind, isType⟩ := type_of_itemKind isKind
  rw [isCall] at isType
  have isFunction : kind = .functionCall := by
    simp only [itemTypes, mem_cons, not_mem_nil, or_false] at member
    rcases member with rfl | rfl | rfl | rfl | rfl | rfl | rfl
    on_goal 3 => exact sameKind.symm
    all_goals exact absurd isType (by decide)
  subst isFunction
  obtain ⟨name, isName, nonempty⟩ := protocol.named (.inl isKind)
  simp only [convertible, isKind, text, isName, JSON.string?, Option.getD_some,
    Bool.and_eq_true, decide_eq_true_eq] at isConvertible
  rw [trimmed, isName]
  exact fun empty => nonempty (isConvertible.2.symm.trans empty)

/-- The instructions give no assistant message, so no call is added to theirs. -/
theorem instructionMessages_cases {instructions : String} {start : List Message}
    (given : instructionMessages instructions = .ok start) :
    calls start = [] ∧ Carrying start := by
  have silent : ∀ messages : List Message, (∀ message ∈ messages,
      message.parseToolCalls = [] ∧ message.content ≠ .null) →
      calls messages = [] ∧ Carrying messages := by
    intro messages plain
    refine ⟨flatMap_eq_nil_iff.mpr fun message member => ?_, fun message member only => ?_⟩
    · rw [(plain message member).1, map_nil]
    · rw [carriesOnly, decide_eq_true_eq] at only
      exact absurd only (plain message member).2
  unfold instructionMessages at given
  split at given
  · split at given
    · cases given
    · rw [← Except.ok.inj given]
      refine silent _ fun message member => ?_
      split at member
      · rw [mem_singleton.mp member]
        exact ⟨rfl, fun same => by cases same⟩
      · exact absurd member not_mem_nil
  · cases given
    exact silent _ fun message member => absurd member not_mem_nil

/-- Items of an array are converted one after another, after the instructions. -/
theorem messages_of_array {instructions input : String} {start : List Message}
    {items : List InputItem} (given : instructionMessages instructions = .ok start)
    (isArray : getJsonType input = .array) (read : unmarshalItems input = some items) :
    responsesRequestMessagesToChat instructions input =
      items.foldlM responsesInputItemToChatMessages start := by
  have present : rawJSONPresent input = true := by
    have nonempty : input ≠ "" := by
      rintro rfl
      exact absurd isArray (by decide)
    simp [rawJSONPresent, nonempty, isArray]
  simp only [responsesRequestMessagesToChat, given, present, if_true, isArray, read]

/-- For every array of items of the protocol, the tool protocol is kept exactly if each of them is
convertible. -/
theorem tool_protocol_kept_iff {instructions input : String} {start : List Message}
    {items : List InputItem} (given : instructionMessages instructions = .ok start)
    (isArray : getJsonType input = .array) (read : unmarshalItems input = some items)
    (protocol : ∀ item ∈ items, protocolItem item) :
    (∃ messages, responsesRequestMessagesToChat instructions input = .ok messages ∧
        KeepsToolProtocol start items messages) ↔
      ∀ item ∈ items, convertible item := by
  have isProtocol : ∀ item ∈ items, ProtocolItem item := fun item member =>
    .of_protocolItem (protocol item member)
  obtain ⟨noCalls, startCarrying⟩ := instructionMessages_cases given
  rw [messages_of_array given isArray read]
  constructor
  · rintro ⟨messages, converted, keeps⟩
    have adds := foldlM_adds converted
    have sameCalls : items.filterMap convertedCall = items.filterMap itemCall := by
      rw [← keeps.calls, adds.calls, noCalls, nil_append]
    have sameStatements : items.filterMap convertedStatement = items.filterMap itemStatement :=
      append_cancel_left (adds.statements.symm.trans keeps.statements)
    intro item member
    refine (isProtocol item member).convertible_iff.mpr ⟨?_, ?_⟩
    · exact ((filterMap_eq_iff_of_none fun other isOther =>
        (isProtocol other isOther).counted.1).mp sameCalls.symm item member).symm
    · exact ((filterMap_eq_iff_of_none fun other isOther =>
        (isProtocol other isOther).counted.2).mp sameStatements.symm item member).symm
  · intro all
    obtain ⟨messages, converted⟩ := foldlM_ok
      (fun item member => (isProtocol item member).named_of_convertible (all item member)) start
    have adds := foldlM_adds converted
    have each := fun item member => (isProtocol item member).convertible_iff.mp (all item member)
    refine ⟨messages, converted, ?_, ?_, adds.carrying startCarrying⟩
    · rw [adds.calls, noCalls, nil_append]
      exact filterMap_congr fun item member => (each item member).1
    · rw [adds.statements]
      exact congrArg _ (filterMap_congr fun item member => (each item member).2)

/-- A question, a call and its output. -/
theorem question_and_call_kept :
    let input := "[\x7b\"content\":\"q\"\x7d," ++
      "\x7b\"call_id\":\"c\",\"name\":\"f\",\"type\":\"function_call\"\x7d," ++
      "\x7b\"call_id\":\"c\",\"output\":\"o\",\"type\":\"function_call_output\"\x7d]"
    let items : List InputItem :=
      [[("content", .string "q")],
        [("call_id", .string "c"), ("name", .string "f"), ("type", .string "function_call")],
        [("call_id", .string "c"), ("output", .string "o"),
          ("type", .string "function_call_output")]]
    unmarshalItems input = some items ∧ ∃ messages,
      responsesRequestMessagesToChat "" input = .ok messages ∧
        KeepsToolProtocol [] items messages := by
  intro input items
  have read : unmarshalItems input = some items := by decide +kernel
  exact ⟨read, (tool_protocol_kept_iff rfl (by decide +kernel) read (by decide +kernel)).mpr
    (by decide +kernel)⟩

/-- The output of a custom tool and a reasoning item become empty messages of a user. -/
theorem other_items_become_user_messages :
    let input := "[\x7b\"call_id\":\"c\",\"output\":\"o\"," ++
      "\"type\":\"custom_tool_call_output\"\x7d,\x7b\"type\":\"reasoning\"\x7d]"
    let items : List InputItem :=
      [[("call_id", .string "c"), ("output", .string "o"),
          ("type", .string "custom_tool_call_output")],
        [("type", .string "reasoning")]]
    let messages : List Message := List.replicate 2 ⟨"user", .text "", none, none, ""⟩
    unmarshalItems input = some items ∧ (∀ item ∈ items, protocolItem item) ∧
      responsesRequestMessagesToChat "" input = .ok messages ∧
      ¬ KeepsToolProtocol [] items messages := by
  intro input items messages
  have read : unmarshalItems input = some items := by decide +kernel
  have isArray : getJsonType input = .array := by decide +kernel
  refine ⟨read, by decide +kernel, ?_, fun keeps => ?_⟩
  · rw [messages_of_array rfl isArray read]
    decide +kernel
  have same := keeps.statements
  revert same
  decide +kernel

end ResponsesRequest

end AiHub.Relaykit

import AiHub.Relaykit.ResponsesToChatRequest

/-!
# Claude messages as Responses input, and back

The blocks of Claude messages become items of a Responses input: texts are collected into
messages, calls and results are items of their own.  On the way back calls are added to the last
message if it is an assistant's, results if it is a user's, and other items become messages.

Messages may be grouped otherwise then, but block by block it is known what comes back: all but the
text blocks of a result, which are renamed on the way out only.  The input is JSON in between, which
is taken to decode to what was encoded.
-/

namespace AiHub.Relaykit.ClaudeResponses

open AiHub.Library ResponsesRequest List

/-! ## Claude messages -/

/-- `ClaudeMessageSource` -/
structure Source where
  mediaType : String
  data : JSON
  url : String
  deriving DecidableEq, Repr

/-- `ClaudeMediaMessage`, with the fields that are used here. -/
structure MediaMessage where
  type : String
  text : String := ""
  source : Option Source := none
  id : String := ""
  name : String := ""
  input : JSON := .null
  content : JSON := .null
  toolUseId : String := ""
  deriving DecidableEq, Repr

/-- The content of a message, decoded. -/
inductive Content where
  | text (text : String)
  | blocks (blocks : List MediaMessage)
  deriving DecidableEq, Repr

structure ClaudeMessage where
  role : String
  content : Content
  deriving DecidableEq, Repr

def textBlock (text : String) : MediaMessage := { type := "text", text := text }

def toolUse (id name : String) (input : JSON) : MediaMessage :=
  { type := "tool_use", id := id, name := name, input := input }

def toolResult (id : String) (content : JSON) : MediaMessage :=
  { type := "tool_result", toolUseId := id, content := content }

/-- A member that is decoded to a string; `none` if it is something else. -/
def decodeString (members : InputItem) (key : String) : Option String :=
  match JSON.member members key with
  | .null => some ""
  | .string text => some text
  | _ => none

/-- A source that is decoded; the first `none` is an error. -/
def decodeSource : JSON → Option (Option Source)
  | .null => some none
  | .object members => do
      let mediaType ← decodeString members "media_type"
      let url ← decodeString members "url"
      return some ⟨mediaType, JSON.member members "data", url⟩
  | _ => none

/-- A block that is decoded; a missing text is an empty one, and null is a block without fields. -/
def decodeBlock : JSON → Option MediaMessage
  | .null => some { type := "" }
  | .object block => do
      let type ← decodeString block "type"
      let text ← decodeString block "text"
      let source ← decodeSource (JSON.member block "source")
      let id ← decodeString block "id"
      let name ← decodeString block "name"
      let toolUseId ← decodeString block "tool_use_id"
      return ⟨type, text, source, id, name, JSON.member block "input",
        JSON.member block "content", toolUseId⟩
  | _ => none

/-! ## To a Responses input -/

def claudeSourceURL : Option Source → String
  | none => ""
  | some source =>
    if trimSpace source.url ≠ "" then source.url
    else
      let data := interface2String source.data
      if data = "" then ""
      else if "data:".toList.isPrefixOf data.toList then data
      else "data:" ++ source.mediaType ++ ";base64," ++ data

/-- A content part of the given type. -/
def textPart (type text : String) : JSON := .object [("text", .string text), ("type", .string type)]

/-- The part for a file, unless it has no source. -/
def sourcePart (type key : String) (source : Option Source) : List JSON :=
  let url := claudeSourceURL source
  if url = "" then [] else [.object [(key, .string url), ("type", .string type)]]

/-- The parts of a block that has no item of its own. -/
def blockParts (textType : String) (block : MediaMessage) : List JSON :=
  if block.type = "text" ∨ block.type = "input_text" then [textPart textType block.text]
  else if block.type = "image" then sourcePart "input_image" "image_url" block.source
  else if block.type = "document" then sourcePart "input_file" "file_data" block.source
  else []

/-- The blocks of a content, if it is an array of them. -/
def decodeContent : JSON → Option (List MediaMessage)
  | .array items => items.mapM decodeBlock
  | _ => none

def claudeToolResultToResponsesOutput : JSON → JSON
  | .null => .string ""
  | .string text => .string text
  | content =>
    match decodeContent content with
    | none => content
    | some blocks =>
      let parts := blocks.flatMap (blockParts "input_text")
      if parts.isEmpty then content else .array parts

/-- The item of a call or of a result. -/
def blockItem (block : MediaMessage) : Option InputItem :=
  if block.type = "tool_use" then
    let arguments := if block.input = .null then "\x7b\x7d" else block.input.marshal
    some [("arguments", .string arguments), ("call_id", .string block.id),
      ("name", .string block.name), ("type", .string "function_call")]
  else if block.type = "tool_result" then
    some [("call_id", .string block.toolUseId),
      ("output", claudeToolResultToResponsesOutput block.content),
      ("type", .string "function_call_output")]
  else none

def flushContent (role : String) (contentParts : List JSON) : List InputItem :=
  if contentParts.isEmpty then []
  else [[("content", .array contentParts), ("role", .string role)]]

def textType (role : String) : String := if role = "assistant" then "output_text" else "input_text"

/-- The items of the blocks of a message, after parts that have been collected. -/
def blocksItems (role : String) : List JSON → List MediaMessage → List InputItem
  | contentParts, [] => flushContent role contentParts
  | contentParts, block :: rest =>
    match blockItem block with
    | some item => flushContent role contentParts ++ item :: blocksItems role [] rest
    | none => blocksItems role (contentParts ++ blockParts (textType role) block) rest

def messageItems (message : ClaudeMessage) : List InputItem :=
  let role := trimSpace message.role
  if role = "" then []
  else
    match message.content with
    | .text text => [[("content", .string text), ("role", .string role)]]
    | .blocks blocks => blocksItems role [] blocks

def claudeMessagesToResponsesInput (messages : List ClaudeMessage) : List InputItem :=
  messages.flatMap messageItems

/-! ## Back to Claude messages -/

def responsesObjectValue (value : JSON) (fallbackKey : String) : JSON :=
  match value with
  | .null => .object []
  | .object members => .object members
  | .string text =>
    match JSON.unmarshalMap text with
    | some none => .null
    | some (some members) => .object members
    | none =>
      match JSON.unmarshal text with
      | some (.array items) => .object [(fallbackKey, .array items)]
      | _ => .object [(fallbackKey, .string text)]
  | value => .object [(fallbackKey, value)]

def inputText (text : String) : InputItem :=
  [("text", .string text), ("type", .string "input_text")]

def responsesContentParts : JSON → List InputItem
  | .null => []
  | .string text => [inputText text]
  | .array items => items.map fun
      | .string text => inputText text
      | .object part => part
      | value => inputText value.marshal
  | value => [inputText value.marshal]

/-- `ContentPartToFileSource` and `ResolveBase64Data`: the data of a file and its type, nothing
if the part has no file, or why it cannot be had. -/
abbrev FileOf := InputItem → Except String (Option (String × String))

/-- One turn of the loop in `responsesInputContentToClaudeMediaMessages`. -/
def partBlocks (fileOf : FileOf) (part : InputItem) : Except String (List MediaMessage) :=
  let partType := trimmed part "type"
  if partType ∈ ["input_text", "output_text", "text"] then
    let text := interface2String (JSON.member part "text")
    .ok (if text = "" then [] else [textBlock text])
  else if partType ∈ ["input_image", "input_file", "input_audio", "input_video"] then
    match fileOf part with
    | .error reason => .error ("get file data failed: " ++ reason)
    | .ok none => .ok []
    | .ok (some (data, mimeType)) =>
      let isPDF := "application/pdf".toList.isPrefixOf mimeType.toList
      .ok [{ type := if isPDF then "document" else "image"
             source := some ⟨mimeType, .string data, ""⟩ }]
  else .ok []

/-- What an item asks for. -/
inductive PlainItem where
  | toolUse (block : MediaMessage)
  | toolResult (block : MediaMessage)
  | message (role : String) (parts : List MediaMessage)
  | system (texts : List MediaMessage)
  | nothing
  deriving DecidableEq, Repr

def responsesFunctionCallItemToClaudeToolUse (item : InputItem) (inputKey : String) :
    MediaMessage :=
  toolUse (responsesCallID item) (trimmed item "name")
    (responsesObjectValue (JSON.member item inputKey) inputKey)

def responsesToolOutputValue : JSON → JSON
  | .null => .string ""
  | value => value

def responsesFunctionOutputItemToClaudeToolResult (item : InputItem) : MediaMessage :=
  toolResult (responsesCallID item) (responsesToolOutputValue (JSON.member item "output"))

def responsesClaudeRole (role : String) : String :=
  if role = "assistant" then "assistant"
  else if role = "system" ∨ role = "developer" then "system"
  else "user"

/-- The default case of the switch: a message, unless it is of the system or has nothing. -/
def otherItem (sourceRole : String) (parts : List MediaMessage) : PlainItem :=
  if sourceRole = "" ∧ parts = [] then .nothing
  else if responsesClaudeRole sourceRole = "system" then
    .system (parts.filter fun part => part.type = "text")
  else .message (responsesClaudeRole sourceRole) (if parts = [] then [textBlock "..."] else parts)

/-- One turn of the loop over the items, up to what it does to the messages. -/
def plainItem (fileOf : FileOf) (item : InputItem) : Except String PlainItem :=
  let itemType := trimmed item "type"
  if itemType = "function_call" then
    .ok (.toolUse (responsesFunctionCallItemToClaudeToolUse item "arguments"))
  else if itemType = "custom_tool_call" then
    .ok (.toolUse (responsesFunctionCallItemToClaudeToolUse item "input"))
  else if itemType = "function_call_output" ∨ itemType = "custom_tool_call_output" then
    .ok (.toolResult (responsesFunctionOutputItemToClaudeToolResult item))
  else
    ((responsesContentParts (JSON.member item "content")).mapM (partBlocks fileOf)).map
      fun parts => otherItem (trimmed item "role") parts.flatten

def claudeMessageContentParts : Content → List MediaMessage
  | .text text => if text = "" then [] else [textBlock text]
  | .blocks blocks => blocks

/-- `appendClaudeToolUse` and `appendClaudeToolResult`, which differ in the role. -/
def appendToLast (role : String) (messages : List ClaudeMessage) (block : MediaMessage) :
    List ClaudeMessage :=
  match messages.getLast? with
  | some last =>
    if last.role = role then
      messages.dropLast ++
        [{ last with content := .blocks (claudeMessageContentParts last.content ++ [block]) }]
    else messages ++ [⟨role, .blocks [block]⟩]
  | none => messages ++ [⟨role, .blocks [block]⟩]

def appendClaudeToolUse (messages : List ClaudeMessage) (toolUse : MediaMessage) :
    List ClaudeMessage := appendToLast "assistant" messages toolUse

def appendClaudeToolResult (messages : List ClaudeMessage) (toolResult : MediaMessage) :
    List ClaudeMessage := appendToLast "user" messages toolResult

/-- What an item does to the messages. -/
def appendItem (messages : List ClaudeMessage) : PlainItem → List ClaudeMessage
  | .toolUse block => appendClaudeToolUse messages block
  | .toolResult block => appendClaudeToolResult messages block
  | .message role parts => messages ++ [⟨role, .blocks parts⟩]
  | .system _ | .nothing => messages

def systemTexts : PlainItem → List MediaMessage
  | .system texts => texts
  | _ => []

def ensureClaudeMessagesStartWithUser (messages : List ClaudeMessage) : List ClaudeMessage :=
  if messages.head?.map ClaudeMessage.role = some "user" then messages
  else ⟨"user", .blocks [textBlock "..."]⟩ :: messages

/-- The messages of `OpenAIResponsesRequestToClaudeMessages`; `hasInstructions` is whether the
instructions have a text. -/
def responsesInputToClaudeMessages (fileOf : FileOf) (hasInstructions : Bool)
    (inputItems : List InputItem) : Except String (List ClaudeMessage) := do
  let items ← inputItems.mapM (plainItem fileOf)
  let messages := items.foldl appendItem []
  if messages ≠ [] ∨ hasInstructions = true ∨ items.flatMap systemTexts ≠ [] then
    return ensureClaudeMessagesStartWithUser messages
  else return messages

/-! ## Block by block -/

/-- A block with the role of its message. -/
abbrev Entry := String × MediaMessage

/-- The blocks of messages in order. -/
def entries (messages : List ClaudeMessage) : List Entry :=
  messages.flatMap fun message =>
    (claudeMessageContentParts message.content).map (message.role, ·)

/-- The blocks that an item adds. -/
def itemEntries : PlainItem → List Entry
  | .toolUse block => [("assistant", block)]
  | .toolResult block => [("user", block)]
  | .message role parts => parts.map (role, ·)
  | .system _ | .nothing => []

/-- What comes back for a block. -/
def returned (entry : Entry) : Entry :=
  if entry.2.type = "tool_use" then
    ("assistant", toolUse (trimSpace entry.2.id) (trimSpace entry.2.name) entry.2.input)
  else if entry.2.type = "tool_result" then
    ("user", toolResult (trimSpace entry.2.toolUseId)
      (claudeToolResultToResponsesOutput entry.2.content))
  else entry

theorem returned_toolUse (role id name : String) (input : JSON) :
    returned (role, toolUse id name input) =
      ("assistant", toolUse (trimSpace id) (trimSpace name) input) :=
  if_pos rfl

theorem returned_toolResult (role id : String) (content : JSON) :
    returned (role, toolResult id content) =
      ("user", toolResult (trimSpace id) (claudeToolResultToResponsesOutput content)) := by
  rw [returned, if_neg (by simp [toolResult])]
  exact if_pos rfl

theorem entries_append (first second : List ClaudeMessage) :
    entries (first ++ second) = entries first ++ entries second :=
  flatMap_append

theorem entries_appendToLast (role : String) (messages : List ClaudeMessage)
    (block : MediaMessage) :
    entries (appendToLast role messages block) = entries messages ++ [(role, block)] := by
  rw [appendToLast]
  cases isLast : messages.getLast? with
  | none =>
    rw [entries_append]
    rfl
  | some last =>
    obtain ⟨earlier, rfl⟩ := getLast?_eq_some_iff.mp isLast
    rw [apply_ite entries, entries_append, entries_append]
    split
    · rename_i isRole
      simp [entries, claudeMessageContentParts, isRole]
    · rfl

theorem entries_appendItem (messages : List ClaudeMessage) (item : PlainItem) :
    entries (appendItem messages item) = entries messages ++ itemEntries item := by
  cases item with
  | toolUse block => exact entries_appendToLast _ messages block
  | toolResult block => exact entries_appendToLast _ messages block
  | message role parts => simp [appendItem, entries, itemEntries, claudeMessageContentParts]
  | system texts => exact (append_nil _).symm
  | nothing => exact (append_nil _).symm

theorem entries_foldl (items : List PlainItem) (messages : List ClaudeMessage) :
    entries (items.foldl appendItem messages) = entries messages ++ items.flatMap itemEntries := by
  induction items generalizing messages with
  | nil => exact (append_nil _).symm
  | cons item rest ih =>
    rw [foldl_cons, ih, entries_appendItem, flatMap_cons, append_assoc]

variable {role first id : String} {messages : List ClaudeMessage} {items : List InputItem}
  {blocks : List Entry} {item : InputItem} {texts : List String}

theorem head_appendToLast (isFirst : messages.head?.map ClaudeMessage.role = some first)
    (block : MediaMessage) :
    (appendToLast role messages block).head?.map ClaudeMessage.role = some first := by
  rw [appendToLast]
  cases isLast : messages.getLast? with
  | none =>
    rw [getLast?_eq_none_iff.mp isLast] at isFirst
    cases isFirst
  | some last =>
    obtain ⟨earlier, rfl⟩ := getLast?_eq_some_iff.mp isLast
    rw [dropLast_concat]
    dsimp only
    split
    · cases earlier <;> exact isFirst
    · cases earlier <;> exact isFirst

/-- The first message stays one of the same role. -/
theorem head_foldl (items : List PlainItem)
    (isFirst : messages.head?.map ClaudeMessage.role = some first) :
    (items.foldl appendItem messages).head?.map ClaudeMessage.role = some first := by
  induction items generalizing messages with
  | nil => exact isFirst
  | cons item rest ih =>
    refine ih ?_
    cases item with
    | toolUse block => exact head_appendToLast isFirst block
    | toolResult block => exact head_appendToLast isFirst block
    | message role parts =>
      cases messages with
      | nil => cases isFirst
      | cons message others => exact isFirst
    | system texts => exact isFirst
    | nothing => exact isFirst

/-- The first item that adds blocks makes the first message. -/
theorem head_appendItem {item : PlainItem} {entry : Entry} {others : List Entry}
    (adds : itemEntries item = entry :: others) :
    (appendItem [] item).head?.map ClaudeMessage.role = some entry.1 := by
  cases item with
  | toolUse block =>
    cases adds
    rfl
  | toolResult block =>
    cases adds
    rfl
  | message role parts =>
    cases parts with
    | nil => cases adds
    | cons part rest =>
      cases adds
      rfl
  | system texts => cases adds
  | nothing => cases adds

/-! ## Items and what they give -/

/-- The items are converted, each to something that adds blocks, and these are the blocks. -/
def Gives (fileOf : FileOf) (items : List InputItem) (blocks : List Entry) : Prop :=
  ∃ plain, items.mapM (plainItem fileOf) = .ok plain ∧
    (∀ item ∈ plain, itemEntries item ≠ []) ∧ plain.flatMap itemEntries = blocks

variable {fileOf : FileOf}

theorem Gives.nil : Gives fileOf [] [] :=
  ⟨[], rfl, by simp, rfl⟩

theorem Gives.append {items' : List InputItem} {blocks' : List Entry}
    (first : Gives fileOf items blocks) (second : Gives fileOf items' blocks') :
    Gives fileOf (items ++ items') (blocks ++ blocks') := by
  obtain ⟨plain, converted, adds, rfl⟩ := first
  obtain ⟨plain', converted', adds', rfl⟩ := second
  refine ⟨plain ++ plain', ?_, ?_, flatMap_append⟩
  · rw [mapM_append, converted, converted']
    rfl
  · intro item member
    rcases mem_append.mp member with inFirst | inSecond
    · exact adds item inFirst
    · exact adds' item inSecond

theorem Gives.one {plain : PlainItem} (converted : plainItem fileOf item = .ok plain)
    (adds : itemEntries plain ≠ []) :
    Gives fileOf [item] (itemEntries plain) := by
  refine ⟨[plain], ?_, by simpa using adds, flatMap_singleton _ _⟩
  rw [mapM_cons, converted]
  rfl

/-- A text that is not empty, a call with an object that is decoded from its encoding, or a result
with a string or a list of texts. -/
inductive Convertible : MediaMessage → Prop where
  | text {text : String} (nonempty : text ≠ "") : Convertible (textBlock text)
  | toolUse {id name : String} {members : List (String × JSON)}
      (decoded : JSON.unmarshalMap (JSON.object members).marshal = some (some members)) :
      Convertible (toolUse id name (.object members))
  | textResult {id text : String} : Convertible (toolResult id (.string text))
  | partsResult {id : String} {texts : List String} :
      Convertible (toolResult id (.array (texts.map (textPart "text"))))

theorem partBlocks_textPart {text : String} (nonempty : text ≠ "") :
    partBlocks fileOf [("text", .string text), ("type", .string (textType role))] =
      .ok [textBlock text] := by
  have isText : trimmed [("text", .string text), ("type", .string (textType role))] "type" ∈
      ["input_text", "output_text", "text"] := by
    change trimSpace (textType role) ∈ _
    rw [textType]
    split
    · decide +kernel
    · decide +kernel
  rw [partBlocks, if_pos isText]
  exact congrArg Except.ok (if_neg nonempty)

theorem mapM_textParts (nonempty : ∀ text ∈ texts, text ≠ "") :
    (responsesContentParts (.array (texts.map (textPart (textType role))))).mapM
      (partBlocks fileOf) = .ok (texts.map fun text => [textBlock text]) := by
  rw [responsesContentParts, map_map]
  induction texts with
  | nil => rfl
  | cons text rest ih =>
    obtain ⟨first, others⟩ := forall_mem_cons.mp nonempty
    rw [map_cons, mapM_cons, ih others]
    change partBlocks fileOf [("text", .string text), ("type", .string (textType role))] >>= _ = _
    rw [partBlocks_textPart first]
    rfl

def Speaker (role : String) : Prop := role = "user" ∨ role = "assistant"

theorem otherItem_speaker (speaker : Speaker role) {parts : List MediaMessage}
    (nonempty : parts ≠ []) : otherItem (trimSpace role) parts = .message role parts := by
  rw [otherItem, if_neg fun none => nonempty none.2, if_neg nonempty]
  rcases speaker with rfl | rfl
  · rw [if_neg (by decide +kernel)]
    exact congrArg (PlainItem.message · parts) (by decide +kernel)
  · exact congrArg (PlainItem.message · parts) (by decide +kernel)

/-- An item with a content and a role is one of a message. -/
theorem plainItem_message (content : JSON) :
    plainItem fileOf [("content", content), ("role", .string role)] =
      ((responsesContentParts content).mapM (partBlocks fileOf)).map
        fun parts => otherItem (trimSpace role) parts.flatten := by
  have noType : trimmed [("content", content), ("role", .string role)] "type" = "" := by
    change trimSpace "" = ""
    decide +kernel
  rw [plainItem, noType]
  rfl

theorem flushContent_gives (speaker : Speaker role) (nonempty : ∀ text ∈ texts, text ≠ "") :
    Gives fileOf (flushContent role (texts.map (textPart (textType role))))
      (texts.map fun text => (role, textBlock text)) := by
  cases texts with
  | nil => exact .nil
  | cons text rest =>
    have converted : plainItem fileOf [("content", .array ((text :: rest).map
        (textPart (textType role)))), ("role", .string role)] =
        .ok (.message role ((text :: rest).map textBlock)) := by
      rw [plainItem_message, mapM_textParts nonempty]
      change Except.ok (otherItem _ ((text :: rest).map (pure ∘ textBlock)).flatten) = _
      rw [← flatMap_def, flatMap_pure_eq_map, otherItem_speaker speaker (by simp)]
    have gives := Gives.one converted (by simp [itemEntries])
    rw [itemEntries, map_map] at gives
    exact gives

/-- The identifier of an item that has a member for it and none for its own one. -/
theorem responsesCallID_eq (callID : JSON.member item "call_id" = .string id)
    (own : JSON.member item "id" = .null) :
    responsesCallID item = trimSpace id := by
  have isID : trimmed item "call_id" = trimSpace id := by
    rw [trimmed, callID]
    rfl
  have isOwn : trimmed item "id" = "" := by
    rw [trimmed, own]
    decide +kernel
  rw [responsesCallID, isID, isOwn]
  split
  · rfl
  · rename_i isEmpty
    exact (not_not.mp isEmpty).symm

theorem toolUse_gives {name : String} {members : List (String × JSON)}
    (decoded : JSON.unmarshalMap (JSON.object members).marshal = some (some members)) :
    Gives fileOf [[("arguments", .string (JSON.object members).marshal), ("call_id", .string id),
        ("name", .string name), ("type", .string "function_call")]]
      [returned (role, toolUse id name (.object members))] := by
  have isCall : trimmed [("arguments", .string (JSON.object members).marshal),
      ("call_id", .string id), ("name", .string name), ("type", .string "function_call")] "type" =
      "function_call" := by
    change trimSpace "function_call" = _
    decide +kernel
  have isInput : responsesObjectValue (.string (JSON.object members).marshal) "arguments" =
      .object members := by
    rw [responsesObjectValue, decoded]
  have converted : plainItem fileOf [("arguments", .string (JSON.object members).marshal),
      ("call_id", .string id), ("name", .string name), ("type", .string "function_call")] =
      .ok (.toolUse (toolUse (trimSpace id) (trimSpace name) (.object members))) := by
    rw [plainItem, isCall, responsesFunctionCallItemToClaudeToolUse, responsesCallID_eq rfl rfl]
    exact congrArg (fun value => Except.ok (PlainItem.toolUse (toolUse _ _ value))) isInput
  exact Gives.one converted (cons_ne_nil _ _)

theorem toolResult_gives {content : JSON}
    (present : claudeToolResultToResponsesOutput content ≠ .null) :
    Gives fileOf [[("call_id", .string id), ("output", claudeToolResultToResponsesOutput content),
        ("type", .string "function_call_output")]] [returned (role, toolResult id content)] := by
  generalize isOutput : claudeToolResultToResponsesOutput content = output at present
  have isResult : trimmed [("call_id", .string id), ("output", output),
      ("type", .string "function_call_output")] "type" = "function_call_output" := by
    change trimSpace "function_call_output" = _
    decide +kernel
  have isValue : responsesToolOutputValue output = output := by
    cases output with
    | null => exact absurd rfl present
    | _ => rfl
  have converted : plainItem fileOf [("call_id", .string id), ("output", output),
      ("type", .string "function_call_output")] =
      .ok (.toolResult (toolResult (trimSpace id) output)) := by
    rw [plainItem, isResult, responsesFunctionOutputItemToClaudeToolResult,
      responsesCallID_eq rfl rfl]
    exact congrArg (fun value => Except.ok (PlainItem.toolResult (toolResult _ value))) isValue
  rw [returned_toolResult, isOutput]
  exact Gives.one converted (cons_ne_nil _ _)

/-- The text blocks of a result are renamed. -/
theorem output_textParts (texts : List String) :
    claudeToolResultToResponsesOutput (.array (texts.map (textPart "text"))) =
      .array (texts.map (textPart "input_text")) := by
  have decoded : decodeContent (.array (texts.map (textPart "text"))) =
      some (texts.map textBlock) := by
    rw [decodeContent, mapM_map]
    induction texts with
    | nil => rfl
    | cons text rest ih =>
      rw [mapM_cons, ih]
      rfl
  have parts : (texts.map textBlock).flatMap (blockParts "input_text") =
      texts.map (textPart "input_text") := by
    rw [flatMap_map]
    exact flatMap_pure_eq_map (textPart "input_text") texts
  rw [claudeToolResultToResponsesOutput, decoded]
  · simp only [parts]
    cases texts with
    | nil => rfl
    | cons text rest => rfl
  · exact fun isNull => by cases isNull
  · exact fun text isText => by cases isText

/-- What the blocks of a message give, after texts that have been collected. -/
theorem blocksItems_gives (speaker : Speaker role) {blocks : List MediaMessage}
    (convertible : ∀ block ∈ blocks, Convertible block) (nonempty : ∀ text ∈ texts, text ≠ "") :
    Gives fileOf (blocksItems role (texts.map (textPart (textType role))) blocks)
      ((texts.map fun text => (role, textBlock text)) ++
        blocks.map fun block => returned (role, block)) := by
  have noTexts : ∀ text ∈ ([] : List String), text ≠ "" := fun _ none => by cases none
  induction blocks generalizing texts with
  | nil =>
    rw [map_nil, append_nil]
    exact flushContent_gives speaker nonempty
  | cons block rest ih =>
    obtain ⟨first, others⟩ := forall_mem_cons.mp convertible
    have later := ih others noTexts
    -- a block with an item of its own ends the texts before it
    have flushed {item : InputItem} (gives : Gives fileOf [item] [returned (role, block)]) :=
      (flushContent_gives speaker nonempty).append (gives.append later)
    cases first with
    | text filled =>
      rename_i text
      have longer : ∀ other ∈ texts ++ [text], other ≠ "" := by
        intro other member
        rcases mem_append.mp member with before | isLast
        · exact nonempty other before
        · rw [mem_singleton.mp isLast]
          exact filled
      have all := ih others longer
      rw [map_append, map_append, append_assoc] at all
      exact all
    | toolUse decoded => exact flushed (toolUse_gives decoded)
    | textResult => exact flushed (toolResult_gives (by rintro ⟨⟩))
    | @partsResult id parts =>
      have present : claudeToolResultToResponsesOutput
          (.array (parts.map (textPart "text"))) ≠ .null := by
        rw [output_textParts]
        exact fun isNull => by cases isNull
      exact flushed (toolResult_gives present)

/-! ## The round trip -/

/-- Messages of users and assistants that are made of convertible blocks. -/
structure Conversation (messages : List ClaudeMessage) : Prop where
  speakers : ∀ message ∈ messages, Speaker message.role
  texts : ∀ message ∈ messages, message.content ≠ .text ""
  blocks : ∀ entry ∈ entries messages, Convertible entry.2

theorem messageItems_gives {message : ClaudeMessage} (speaker : Speaker message.role)
    (filled : message.content ≠ .text "")
    (convertible : ∀ block ∈ claudeMessageContentParts message.content, Convertible block) :
    Gives fileOf (messageItems message)
      ((claudeMessageContentParts message.content).map
        fun block => returned (message.role, block)) := by
  have isRole : trimSpace message.role = message.role ∧ message.role ≠ "" := by
    rcases speaker with isUser | isAssistant
    · rw [isUser]
      decide +kernel
    · rw [isAssistant]
      decide +kernel
  rw [messageItems, isRole.1, if_neg isRole.2]
  cases isContent : message.content with
  | blocks blocks =>
    rw [isContent] at convertible
    exact @blocksItems_gives _ [] fileOf speaker _ convertible fun _ none => by cases none
  | text text =>
    have nonempty : text ≠ "" := fun isEmpty => filled (isEmpty ▸ isContent)
    have parts : (responsesContentParts (.string text)).mapM (partBlocks fileOf) =
        .ok [[textBlock text]] := by
      rw [responsesContentParts, mapM_cons,
        show inputText text = [("text", .string text), ("type", .string (textType "user"))] from
          rfl, partBlocks_textPart nonempty]
      rfl
    have converted : plainItem fileOf
        [("content", .string text), ("role", .string message.role)] =
        .ok (.message message.role [textBlock text]) := by
      rw [plainItem_message, parts]
      exact congrArg Except.ok (otherItem_speaker speaker (cons_ne_nil _ _))
    rw [claudeMessageContentParts, if_neg nonempty]
    exact Gives.one converted (cons_ne_nil _ _)

theorem Conversation.gives (conversation : Conversation messages) :
    Gives fileOf (claudeMessagesToResponsesInput messages) ((entries messages).map returned) := by
  induction messages with
  | nil => exact .nil
  | cons message rest ih =>
    have inRest {entry : Entry} (member : entry ∈ entries rest) :
        entry ∈ entries (message :: rest) := mem_append_right _ member
    have later := ih ⟨fun other member => conversation.speakers other (.tail _ member),
      fun other member => conversation.texts other (.tail _ member),
      fun entry member => conversation.blocks entry (inRest member)⟩
    have first := @messageItems_gives fileOf message
      (conversation.speakers message mem_cons_self)
      (conversation.texts message mem_cons_self)
      fun block member => conversation.blocks (message.role, block)
        (mem_append_left _ (mem_map_of_mem member))
    have all := first.append later
    rw [← Function.comp_def, ← map_map, ← map_append] at all
    exact all

def isParts : JSON → Bool
  | .array (_ :: _) => true
  | _ => false

/-- A block that comes back as it was. -/
def kept (entry : Entry) : Bool :=
  if entry.2.type = "tool_use" then
    entry.1 = "assistant" && trimSpace entry.2.id = entry.2.id &&
      trimSpace entry.2.name = entry.2.name
  else if entry.2.type = "tool_result" then
    entry.1 = "user" && trimSpace entry.2.toolUseId = entry.2.toolUseId &&
      !isParts entry.2.content
  else true

theorem kept_toolUse (role id name : String) (input : JSON) :
    kept (role, toolUse id name input) =
      (role = "assistant" && trimSpace id = id && trimSpace name = name) :=
  if_pos rfl

theorem kept_toolResult (role id : String) (content : JSON) :
    kept (role, toolResult id content) =
      (role = "user" && trimSpace id = id && !isParts content) := by
  rw [kept, if_neg (by simp [toolResult])]
  exact if_pos rfl

theorem returned_eq_iff (role : String) {block : MediaMessage} (convertible : Convertible block) :
    returned (role, block) = (role, block) ↔ kept (role, block) = true := by
  induction convertible with
  | text nonempty => simp [returned, kept, textBlock]
  | toolUse decoded =>
    rw [returned_toolUse, kept_toolUse]
    simp [toolUse, and_assoc, eq_comm (a := role)]
  | textResult =>
    rw [returned_toolResult, kept_toolResult]
    simp [toolResult, isParts, claudeToolResultToResponsesOutput, eq_comm (a := role)]
  | @partsResult id texts =>
    rw [returned_toolResult, kept_toolResult, output_textParts]
    cases texts with
    | nil => simp [toolResult, isParts, eq_comm (a := role)]
    | cons text rest => simp [toolResult, isParts, textPart]

/-- The first block is one of a user; without blocks there are no instructions either. -/
def startsWithUser (hasInstructions : Bool) (blocks : List Entry) : Bool :=
  match blocks with
  | [] => !hasInstructions
  | first :: _ => first.1 = "user"

/-- What comes back from items that give blocks. -/
theorem Gives.converted (gives : Gives fileOf items blocks) (hasInstructions : Bool) :
    ∃ back, responsesInputToClaudeMessages fileOf hasInstructions items = .ok back ∧
      entries back = if startsWithUser hasInstructions blocks then blocks
        else ("user", textBlock "...") :: blocks := by
  obtain ⟨plain, converted, adds, rfl⟩ := gives
  have computed : responsesInputToClaudeMessages fileOf hasInstructions items =
      .ok (if plain.foldl appendItem [] ≠ [] ∨ hasInstructions = true ∨
          plain.flatMap systemTexts ≠ [] then
        ensureClaudeMessagesStartWithUser (plain.foldl appendItem [])
      else plain.foldl appendItem []) := by
    rw [responsesInputToClaudeMessages, converted]
    change (if _ then _ else _) = _
    split
    · rfl
    · rfl
  refine ⟨_, computed, ?_⟩
  cases plain with
  | nil => cases hasInstructions <;> rfl
  | cons item rest =>
    obtain ⟨entry, others, isFirst⟩ := exists_cons_of_ne_nil (adds item mem_cons_self)
    have first := head_foldl rest (head_appendItem isFirst)
    have all := entries_foldl (item :: rest) []
    rw [← foldl_cons] at first
    have some_messages : (item :: rest).foldl appendItem [] ≠ [] := by
      intro none
      rw [none] at first
      cases first
    rw [if_pos (.inl some_messages), ensureClaudeMessagesStartWithUser, first,
      flatMap_cons, isFirst]
    rw [flatMap_cons, isFirst] at all
    by_cases isUser : entry.1 = "user"
    · rw [if_pos (by simpa using isUser), if_pos (by simpa [startsWithUser] using isUser)]
      exact all
    · rw [if_neg (by simpa using isUser), if_neg (by simpa [startsWithUser] using isUser)]
      exact congrArg _ all

/-- A conversation comes back block by block exactly if its calls are those of assistants, its
results those of users and without parts, and no identifier or name is surrounded by space. -/
theorem claude_round_trip_iff (fileOf : FileOf) (hasInstructions : Bool)
    {messages : List ClaudeMessage} (conversation : Conversation messages) :
    ∃ back, responsesInputToClaudeMessages fileOf hasInstructions
        (claudeMessagesToResponsesInput messages) = .ok back ∧
      (entries back = entries messages ↔ (∀ entry ∈ entries messages, kept entry = true) ∧
        startsWithUser hasInstructions (entries messages) = true) := by
  obtain ⟨back, converted, isBack⟩ :=
    (@Conversation.gives _ fileOf conversation).converted hasInstructions
  have same : (∀ entry ∈ entries messages, kept entry = true) ↔
      (entries messages).map returned = entries messages := by
    refine Iff.trans (forall₂_congr fun entry member =>
      (returned_eq_iff entry.1 (conversation.blocks entry member)).symm) ?_
    have each := @List.map_inj_left _ _ (entries messages) returned id
    rw [map_id] at each
    exact each.symm
  refine ⟨back, converted, ?_⟩
  rw [isBack, same]
  constructor
  · intro isSame
    split at isSame
    · rename_i starts
      exact ⟨isSame, isSame ▸ starts⟩
    · -- one block more than before
      have length := congrArg List.length isSame
      simp at length
  · rintro ⟨isSame, starts⟩
    rw [isSame, if_pos starts]

/-- A question, a call and its result. -/
private def answered : List ClaudeMessage :=
  [⟨"user", .text "q"⟩, ⟨"assistant", .blocks [toolUse "c" "f" (.object [])]⟩,
    ⟨"user", .blocks [toolResult "c" (.string "o")]⟩]

theorem answered_call_returns :
    ∃ back, responsesInputToClaudeMessages (fun _ => .ok none) false
        (claudeMessagesToResponsesInput answered) = .ok back ∧
      (entries back = entries answered ↔ (∀ entry ∈ entries answered, kept entry = true) ∧
        startsWithUser false (entries answered) = true) := by
  refine claude_round_trip_iff (fun _ => .ok none) false ⟨?_, ?_, ?_⟩
  · rintro message (_ | ⟨_, _ | ⟨_, _ | ⟨_, ⟨⟩⟩⟩⟩)
    · exact .inl rfl
    · exact .inr rfl
    · exact .inl rfl
  · decide
  · rintro entry (_ | ⟨_, _ | ⟨_, _ | ⟨_, ⟨⟩⟩⟩⟩)
    · exact .text (by decide)
    · exact .toolUse (by decide +kernel)
    · exact .textResult

/-- The text block of a result comes back as one that Claude does not have. -/
theorem result_text_renamed :
    let messages : List ClaudeMessage :=
      [⟨"user", .blocks [toolResult "c" (.array [textPart "text" "o"])]⟩]
    Conversation messages ∧
      (responsesInputToClaudeMessages (fun _ => .ok none) false
        (claudeMessagesToResponsesInput messages)).map entries =
        .ok [("user", toolResult "c" (.array [textPart "input_text" "o"]))] := by
  refine ⟨⟨?_, ?_, ?_⟩, by decide +kernel⟩
  · rintro message (_ | ⟨_, ⟨⟩⟩)
    exact .inl rfl
  · decide
  · rintro entry (_ | ⟨_, ⟨⟩⟩)
    exact @Convertible.partsResult "c" ["o"]

end AiHub.Relaykit.ClaudeResponses

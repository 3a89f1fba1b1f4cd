import AiHub.Library.GoJSONValue

/-!
# Chat messages

The messages of a chat request, as the converters between the request formats read and write
them.  The tool calls of a message are raw JSON in the source, which is decoded each time it is
read; they are kept here as what it decodes to.
-/

namespace AiHub.Relaykit

open AiHub.Library

def interface2String : JSON → String
  | .string text => text
  | .number value => value.formatFixed
  | .bool value => if value then "true" else "false"
  | .null => ""
  | value => value.display

/-- `ToolCallRequest`, with the fields of its function that a call has. -/
structure ToolCallRequest where
  id : String
  type : String
  name : String
  arguments : String
  custom : String
  deriving DecidableEq, Repr

/-- `MediaContent`, by its type. -/
inductive MediaContent where
  | text (text cacheControl : String)
  | imageUrl (url detail : String)
  | inputAudio (data format : String)
  | file (fileName fileData fileID : String)
  | videoUrl (url : String)
  deriving DecidableEq, Repr

/-- The content of a message, as a request has it or as a converter has set it. -/
inductive ChatContent where
  | null
  | text (text : String)
  | parts (parts : List JSON)
  | media (media : List MediaContent)
  | other (value : JSON)
  deriving DecidableEq, Repr

/-- `Message`.  Without tool calls the raw JSON is nil. -/
structure Message where
  role : String
  content : ChatContent
  name : Option String
  toolCalls : Option (List ToolCallRequest)
  toolCallId : String
  deriving DecidableEq, Repr

/-- The text of a content part of type text, as `StringContent` collects it. -/
def partText : JSON → String
  | .object members =>
    if JSON.member members "type" = .string "text" then
      (JSON.member members "text").string?.getD ""
    else ""
  | _ => ""

/-- The image of a content part. -/
def imageOf : JSON → MediaContent
  | .string url => .imageUrl url "high"
  | .object members =>
    .imageUrl ((JSON.member members "url").string?.getD "")
      ((JSON.member members "detail").string?.getD "high")
  | _ => .imageUrl "" "high"

/-- The file of a content part: by its identifier, or with its name and its data. -/
def fileOf (members : List (String × JSON)) : Option MediaContent :=
  match (JSON.member members "file_id").string? with
  | some fileID => some (.file "" "" fileID)
  | none =>
    match (JSON.member members "filename").string?, (JSON.member members "file_data").string? with
    | some fileName, some fileData => some (.file fileName fileData "")
    | _, _ => none

/-- One item of the loop in `ParseContent`. -/
def parsePart : JSON → Option MediaContent
  | .object members =>
    match (JSON.member members "type").string? with
    | none => none
    | some type =>
      if type = "text" then (JSON.member members "text").string?.map (.text · "")
      else if type = "image_url" then some (imageOf (JSON.member members "image_url"))
      else if type = "input_audio" then
        match JSON.member members "input_audio" with
        | .object audio =>
          match (JSON.member audio "data").string?, (JSON.member audio "format").string? with
          | some data, some format => some (.inputAudio data format)
          | _, _ => none
        | _ => none
      else if type = "file" then
        match JSON.member members "file" with
        | .object file => fileOf file
        | _ => none
      else if type = "video_url" then
        (JSON.member members "video_url").string?.map .videoUrl
      else none
  | _ => none

namespace Message

def isStringContent (message : Message) : Bool :=
  match message.content with
  | .text _ => true
  | _ => false

def stringContent (message : Message) : String :=
  match message.content with
  | .text text => text
  | .parts parts => String.join (parts.map partText)
  | _ => ""

def parseContent (message : Message) : List MediaContent :=
  match message.content with
  | .text text => [.text text ""]
  | .media media => media
  | .parts parts => parts.filterMap parsePart
  | .null | .other _ => []

def parseToolCalls (message : Message) : List ToolCallRequest :=
  message.toolCalls.getD []

end Message

end AiHub.Relaykit

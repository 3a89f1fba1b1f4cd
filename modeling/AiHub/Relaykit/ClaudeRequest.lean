import AiHub.Relaykit.ChatMessage

/-!
# Messages of Claude requests

The messages of a Claude request, with the content blocks that the converters read and write.
Blocks are JSON in the source, which is decoded each time it is read; they are kept here as what
it decodes to.
-/

namespace AiHub.Relaykit

open AiHub.Library

/-- `ClaudeMediaMessage`, by its type and with the fields of it. -/
inductive ClaudeBlock where
  | text (text : Option String) (cacheControl : String)
  | image (mediaType data : String)
  | document (mediaType data : String)
  | toolUse (id name : String) (input : JSON)
  | toolResult (toolUseId name : String) (content : ChatContent)
  | other (type id name : String)
  deriving DecidableEq, Repr

/-- The content of a message: a string, or blocks. -/
inductive ClaudeMessageContent where
  | text (text : String)
  | blocks (blocks : List ClaudeBlock)
  deriving DecidableEq, Repr

structure ClaudeMessage where
  role : String
  content : ClaudeMessageContent
  deriving DecidableEq, Repr

end AiHub.Relaykit

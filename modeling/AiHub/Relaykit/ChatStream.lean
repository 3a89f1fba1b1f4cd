import Mathlib.Data.Int.Notation

/-!
# Chunks of chat streams

The chunks of a chat stream with all choices, as the converters from and to other streams read
and write them.
-/

namespace AiHub.Relaykit

structure ToolCallResponse where
  index : Option Int
  id : String
  name : String
  arguments : String
  deriving DecidableEq, Repr

structure ChoiceDelta where
  content : Option String
  reasoningContent : Option String
  reasoning : Option String
  toolCalls : List ToolCallResponse
  annotations : String
  deriving DecidableEq, Repr

namespace ChoiceDelta

def getContentString (delta : ChoiceDelta) : String := delta.content.getD ""

def getReasoningContent (delta : ChoiceDelta) : String :=
  delta.reasoningContent.getD (delta.reasoning.getD "")

end ChoiceDelta

/-- `ChatCompletionsStreamResponseChoice` -/
structure ChatStreamChoice where
  index : Int
  role : String
  delta : ChoiceDelta
  finishReason : Option String
  deriving DecidableEq, Repr

/-- `ChatCompletionsStreamResponse` -/
structure ChatStreamChunk (Usage : Type) where
  id : String
  created : Int
  model : String
  choices : List ChatStreamChoice
  usage : Option Usage
  deriving DecidableEq, Repr

/-- A delta that says nothing. -/
def ChoiceDelta.empty : ChoiceDelta := ⟨none, none, none, [], ""⟩

end AiHub.Relaykit

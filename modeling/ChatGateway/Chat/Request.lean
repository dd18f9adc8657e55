import ChatGateway.Chat.Message
import ChatGateway.Messages.System
import ChatGateway.Thinking
import ChatGateway.Tool
import ChatGateway.Tool.Choice

namespace ChatGateway

/-! Chat-completion requests, as clients send them. Parameters that are not
declared here stay in `extra`. -/

inductive StopSequences where
  | one (sequence : String)
  | many (sequences : List String)
  deriving DecidableEq, Inhabited

namespace StopSequences

def decode : Decoder StopSequences :=
  .union "StopSequences"
    [fun document => (Decoder.string document).map .one,
      fun document => (Decoder.list Decoder.string document).map .many]

def toJson : StopSequences → Json
  | .one sequence => .string sequence
  | .many sequences => .ofStrings sequences

def toList : StopSequences → List String
  | .one sequence => [sequence]
  | .many sequences => sequences

end StopSequences

structure RequestMetadata where
  userId : Option String
  deriving DecidableEq, Inhabited

namespace RequestMetadata

def fields : Record RequestMetadata :=
  RequestMetadata.mk <$> .optional "user_id" .string

def decode : Decoder RequestMetadata :=
  fields.decode "struct RequestMetadata"

def toJson (metadata : RequestMetadata) : Json :=
  .ofMembers (member? "user_id" (metadata.userId.map .string))

end RequestMetadata

structure ChatRequest where
  model : String
  messages : List ChatMessage
  system : Option SystemContent
  maxTokens : Option UInt64
  maxCompletionTokens : Option UInt64
  temperature : Option Float
  topP : Option Float
  topK : Option UInt64
  stop : Option StopSequences
  stream : Option Bool
  tools : Option (List ToolDefinition)
  toolChoice : Option ToolChoice
  thinking : Option ThinkingConfig
  user : Option String
  metadata : Option RequestMetadata
  anthropicVersion : Option String
  extra : Object
  deriving DecidableEq

namespace ChatRequest

/-- `stop` and `stop_sequences` are one field. -/
def stopField : Record (Option StopSequences) :=
  .field "stop" ["stop_sequences"] (.nullable StopSequences.decode) (.ok none) none

def fields : Record (Object → ChatRequest) :=
  ChatRequest.mk <$> .required "model" .string <*>
    .required "messages" (.list ChatMessage.decode) <*>
    .optional "system" SystemContent.decode <*> .optional "max_tokens" .uint64 <*>
    .optional "max_completion_tokens" .uint64 <*> .optional "temperature" .float <*>
    .optional "top_p" .float <*> .optional "top_k" .uint64 <*> stopField <*>
    .optional "stream" .bool <*> .optional "tools" (.list ToolDefinition.decode) <*>
    .optional "tool_choice" ToolChoice.decode <*>
    .optional "thinking" ThinkingConfig.decode <*> .optional "user" .string <*>
    .optional "metadata" RequestMetadata.decode <*> .optional "anthropic_version" .string

def decode : Decoder ChatRequest :=
  fields.decodeOpen "struct ChatCompletionRequest"

def toJson (request : ChatRequest) : Json :=
  .ofMembers (member "model" (.string request.model) ++
    member "messages" (ChatMessage.listToJson request.messages) ++
    member? "system" (request.system.map SystemContent.toJson) ++
    member? "max_tokens" (request.maxTokens.map .ofUInt64) ++
    member? "max_completion_tokens" (request.maxCompletionTokens.map .ofUInt64) ++
    member? "temperature" (request.temperature.map .ofFloat) ++
    member? "top_p" (request.topP.map .ofFloat) ++
    member? "top_k" (request.topK.map .ofUInt64) ++
    member? "stop" (request.stop.map StopSequences.toJson) ++
    member? "stream" (request.stream.map .bool) ++
    member? "tools" (request.tools.map ToolDefinition.listToJson) ++
    member? "tool_choice" (request.toolChoice.map ToolChoice.toJson) ++
    member? "thinking" (request.thinking.map ThinkingConfig.toJson) ++
    member? "user" (request.user.map .string) ++
    member? "metadata" (request.metadata.map RequestMetadata.toJson) ++
    member? "anthropic_version" (request.anthropicVersion.map .string) ++
    request.extra.members)

def toolList (request : ChatRequest) : List ToolDefinition :=
  request.tools.getD []

def hasTools (request : ChatRequest) : Bool :=
  !request.toolList.isEmpty

end ChatRequest

end ChatGateway

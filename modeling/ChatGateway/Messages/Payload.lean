import ChatGateway.Chat.Request

namespace ChatGateway

/-! The payload for the provider's Messages endpoint. It names no model: the
model is part of the address. -/

structure Payload where
  anthropicVersion : String
  messages : List ChatMessage
  maxTokens : UInt64
  system : Option (List SystemBlock)
  temperature : Option Float
  topP : Option Float
  topK : Option UInt64
  stopSequences : Option (List String)
  tools : Option (List ToolDefinition)
  toolChoice : Option ToolChoice
  thinking : Option ThinkingConfig
  metadata : Option RequestMetadata
  anthropicBeta : Option (List String)
  /-- Parameters of the caller that are passed on as they came. -/
  extra : Object
  deriving DecidableEq

namespace Payload

def fields : Record (Object → Payload) :=
  Payload.mk <$> .required "anthropic_version" .string <*>
    .required "messages" (.list ChatMessage.decode) <*> .required "max_tokens" .uint64 <*>
    .optional "system" (.list SystemBlock.decode) <*> .optional "temperature" .float <*>
    .optional "top_p" .float <*> .optional "top_k" .uint64 <*>
    .optional "stop_sequences" (.list .string) <*>
    .optional "tools" (.list ToolDefinition.decode) <*>
    .optional "tool_choice" ToolChoice.decode <*>
    .optional "thinking" ThinkingConfig.decode <*>
    .optional "metadata" RequestMetadata.decode <*>
    .optional "anthropic_beta" (.list .string)

def decode : Decoder Payload :=
  fields.decodeOpen "struct MessagesRequest"

/-- The declared members of the payload, in the order in which they are sent. -/
def writeDeclared (object : ObjectMaker) (payload : Payload) : List (String × Json) :=
  member "anthropic_version" (.string payload.anthropicVersion) ++
    member "messages" (ChatMessage.writeList object payload.messages) ++
    member "max_tokens" (.ofUInt64 payload.maxTokens) ++
    member? "system"
      (payload.system.map fun blocks => .array (blocks.map (SystemBlock.write object))) ++
    member? "temperature" (payload.temperature.map .ofFloat) ++
    member? "top_p" (payload.topP.map .ofFloat) ++
    member? "top_k" (payload.topK.map .ofUInt64) ++
    member? "stop_sequences" (payload.stopSequences.map .ofStrings) ++
    member? "tools" (payload.tools.map ToolDefinition.listToJson) ++
    member? "tool_choice" (payload.toolChoice.map ToolChoice.toJson) ++
    member? "thinking" (payload.thinking.map (ThinkingConfig.write object)) ++
    member? "metadata" (payload.metadata.map RequestMetadata.toJson) ++
    member? "anthropic_beta" (payload.anthropicBeta.map .ofStrings)

def declaredMembers : Payload → List (String × Json) := writeDeclared .ofMembers

def members (payload : Payload) : List (String × Json) :=
  payload.declaredMembers ++ payload.extra.members

def toJson (payload : Payload) : Json :=
  .ofMembers payload.members

/-- The payload as its text lays it out. -/
def layout (payload : Payload) : Json :=
  .object (payload.writeDeclared .object ++ payload.extra.members)

def wire (payload : Payload) : String :=
  payload.layout.render

def toolList (payload : Payload) : List ToolDefinition :=
  payload.tools.getD []

def hasTools (payload : Payload) : Bool :=
  !payload.toolList.isEmpty

end Payload

end ChatGateway

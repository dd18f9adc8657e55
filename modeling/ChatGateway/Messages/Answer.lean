import ChatGateway.Content

namespace ChatGateway

/-! The provider's answers: a message with its token counts, or an error. -/

structure Usage where
  inputTokens : UInt64
  outputTokens : UInt64
  cacheCreationInputTokens : Option UInt64
  cacheReadInputTokens : Option UInt64
  deriving DecidableEq, Inhabited

namespace Usage

def fields : Record Usage :=
  Usage.mk <$> .defaulted "input_tokens" .uint64 0 <*> .defaulted "output_tokens" .uint64 0 <*>
    .optional "cache_creation_input_tokens" .uint64 <*>
    .optional "cache_read_input_tokens" .uint64

def decode : Decoder Usage :=
  fields.decode "struct Usage"

def toJson (usage : Usage) : Json :=
  .ofMembers (member "input_tokens" (.ofUInt64 usage.inputTokens) ++
    member "output_tokens" (.ofUInt64 usage.outputTokens) ++
    member? "cache_creation_input_tokens" (usage.cacheCreationInputTokens.map .ofUInt64) ++
    member? "cache_read_input_tokens" (usage.cacheReadInputTokens.map .ofUInt64))

end Usage

structure Answer where
  id : String
  type : String
  role : String
  content : List ContentBlock
  model : String
  stopReason : Option String
  stopSequence : Option String
  usage : Usage
  deriving DecidableEq, Inhabited

namespace Answer

def fields : Record Answer :=
  Answer.mk <$> .defaulted "id" .string "" <*> .defaulted "type" .string "" <*>
    .defaulted "role" .string "" <*> .defaulted "content" (.list ContentBlock.decode) [] <*>
    .defaulted "model" .string "" <*> .omissible "stop_reason" .string <*>
    .omissible "stop_sequence" .string <*>
    .defaulted "usage" Usage.decode ⟨0, 0, none, none⟩

def decode : Decoder Answer :=
  fields.decode "struct MessagesResponse"

def toJson (answer : Answer) : Json :=
  .ofMembers (member "id" (.string answer.id) ++ member "type" (.string answer.type) ++
    member "role" (.string answer.role) ++
    member "content" (ContentBlock.listToJson answer.content) ++
    member "model" (.string answer.model) ++
    member "stop_reason" (.ofOption (answer.stopReason.map .string)) ++
    member "stop_sequence" (.ofOption (answer.stopSequence.map .string)) ++
    member "usage" answer.usage.toJson)

end Answer

structure ErrorEnvelope where
  type : Option String
  status : Option String
  message : String
  deriving DecidableEq, Inhabited

namespace ErrorEnvelope

def body : Record ErrorEnvelope :=
  ErrorEnvelope.mk <$> .omissible "type" .string <*> .omissible "status" .string <*>
    .required "message" .string

def fields : Record ErrorEnvelope :=
  id <$> .required "error" (body.decode "struct ProviderErrorBody")

def decode : Decoder ErrorEnvelope :=
  fields.decode "struct ProviderErrorEnvelope"

def toJson (envelope : ErrorEnvelope) : Json :=
  .ofMembers (member "error" (.ofMembers (
    member? "type" (envelope.type.map .string) ++
      member? "status" (envelope.status.map .string) ++
      member "message" (.string envelope.message))))

end ErrorEnvelope

end ChatGateway

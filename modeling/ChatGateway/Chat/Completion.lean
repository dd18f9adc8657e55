import ChatGateway.Chat.Message

namespace ChatGateway

/-! Chat completions, as clients receive them, and the errors they receive in
their place. -/

structure ChoiceMessage where
  role : String
  content : Option String
  /-- The text of the model's thinking. -/
  reasoningContent : Option String
  thinkingBlocks : Option (List ContentBlock)
  toolCalls : Option (List ToolCall)
  deriving DecidableEq, Inhabited

namespace ChoiceMessage

def fields : Record ChoiceMessage :=
  ChoiceMessage.mk <$> .required "role" .string <*> .omissible "content" .string <*>
    .omissible "reasoning_content" .string <*>
    .omissible "thinking_blocks" (.list ContentBlock.decode) <*>
    .omissible "tool_calls" (.list ToolCall.decode)

def decode : Decoder ChoiceMessage :=
  fields.decode "struct ChoiceMessage"

def toJson (message : ChoiceMessage) : Json :=
  .ofMembers (member "role" (.string message.role) ++
    member "content" (.ofOption (message.content.map .string)) ++
    member? "reasoning_content" (message.reasoningContent.map .string) ++
    member? "thinking_blocks" (message.thinkingBlocks.map ContentBlock.listToJson) ++
    member? "tool_calls" (message.toolCalls.map ToolCall.listToJson))

end ChoiceMessage

structure Choice where
  index : UInt64
  message : ChoiceMessage
  finishReason : Option String
  deriving DecidableEq, Inhabited

namespace Choice

def fields : Record Choice :=
  Choice.mk <$> .required "index" .uint64 <*> .required "message" ChoiceMessage.decode <*>
    .optional "finish_reason" .string

def decode : Decoder Choice :=
  fields.decode "struct Choice"

def toJson (choice : Choice) : Json :=
  .ofMembers (member "index" (.ofUInt64 choice.index) ++
    member "message" choice.message.toJson ++
    member "finish_reason" (.ofOption (choice.finishReason.map .string)))

end Choice

structure ChatUsage where
  promptTokens : UInt64
  completionTokens : UInt64
  totalTokens : UInt64
  deriving DecidableEq, Inhabited

namespace ChatUsage

def fields : Record ChatUsage :=
  ChatUsage.mk <$> .defaulted "prompt_tokens" .uint64 0 <*>
    .defaulted "completion_tokens" .uint64 0 <*> .defaulted "total_tokens" .uint64 0

def decode : Decoder ChatUsage :=
  fields.decode "struct ChatUsage"

def toJson (usage : ChatUsage) : Json :=
  .ofMembers (member "prompt_tokens" (.ofUInt64 usage.promptTokens) ++
    member "completion_tokens" (.ofUInt64 usage.completionTokens) ++
    member "total_tokens" (.ofUInt64 usage.totalTokens))

end ChatUsage

structure Completion where
  id : String
  object : String
  /-- Seconds since 1970. -/
  created : Int
  model : String
  choices : List Choice
  usage : Option ChatUsage
  deriving DecidableEq, Inhabited

namespace Completion

def fields : Record Completion :=
  Completion.mk <$> .required "id" .string <*> .required "object" .string <*>
    .defaulted "created" .int64 0 <*> .required "model" .string <*>
    .required "choices" (.list Choice.decode) <*> .optional "usage" ChatUsage.decode

def decode : Decoder Completion :=
  fields.decode "struct ChatCompletionResponse"

def toJson (completion : Completion) : Json :=
  .ofMembers (member "id" (.string completion.id) ++
    member "object" (.string completion.object) ++
    member "created" (.number (.integer completion.created)) ++
    member "model" (.string completion.model) ++
    member "choices" (.array (completion.choices.map Choice.toJson)) ++
    member? "usage" (completion.usage.map ChatUsage.toJson))

end Completion

structure ChatError where
  message : String
  type : String
  code : Option String
  deriving DecidableEq, Inhabited

namespace ChatError

def body : Record ChatError :=
  ChatError.mk <$> .required "message" .string <*> .defaulted "type" .string "" <*>
    .optional "code" .string

def fields : Record ChatError :=
  id <$> .required "error" (body.decode "struct ChatError")

def decode : Decoder ChatError :=
  fields.decode "struct ChatErrorResponse"

def toJson (error : ChatError) : Json :=
  .ofMembers (member "error" (.ofMembers (member "message" (.string error.message) ++
    member "type" (.string error.type) ++ member? "code" (error.code.map .string))))

end ChatError

end ChatGateway

import ChatGateway.Content

namespace ChatGateway

/-! Chat messages. Clients mix the chat dialect with content blocks, so the
content of a message is a text or a list of blocks. -/

inductive Role where
  | system
  | user
  | assistant
  | tool
  deriving DecidableEq, Inhabited

namespace Role

def ofName? : String → Option Role
  | "system" | "developer" => some .system
  | "user" => some .user
  | "assistant" => some .assistant
  | "tool" => some .tool
  | _ => none

def name : Role → String
  | .system => "system"
  | .user => "user"
  | .assistant => "assistant"
  | .tool => "tool"

theorem ofName?_name (role : Role) : ofName? role.name = some role := by
  cases role <;> rfl

def decode : Decoder Role :=
  .variant "one of `developer`, `system`, `user`, `assistant`, `tool`" ofName?

end Role

inductive MessageContent where
  | text (text : String)
  | blocks (blocks : List ContentBlock)
  deriving DecidableEq, Inhabited

namespace MessageContent

def decode : Decoder MessageContent :=
  .union "MessageContent"
    [fun document => (Decoder.string document).map .text,
      fun document => (Decoder.list ContentBlock.decode document).map .blocks]

def write (object : ObjectMaker) : MessageContent → Json
  | .text content => .string content
  | .blocks content => ContentBlock.writeList object content

def toJson : MessageContent → Json := write .ofMembers

def textOf? : ContentBlock → Option String
  | .text content _ => some content
  | _ => none

/-- The texts of the content, one a line. -/
def asText : MessageContent → String
  | .text content => content
  | .blocks content => Text.join "\n" (content.filterMap textOf?)

def isEmpty : MessageContent → Bool
  | .text content => content == ""
  | .blocks content => content.isEmpty

end MessageContent

/-- A call of a tool that the model asked for. The arguments are JSON text. -/
structure ToolCall where
  id : String
  type : String
  name : String
  arguments : String
  deriving DecidableEq, Inhabited

namespace ToolCall

def functionFields : Record (String × String) :=
  Prod.mk <$> .required "name" .string <*> .defaulted "arguments" .string ""

def fields : Record ToolCall :=
  (fun id type (called : String × String) => ToolCall.mk id type called.1 called.2) <$>
    .defaulted "id" .string "" <*> .defaulted "type" .string "function" <*>
    .required "function" (functionFields.decode "struct ChatToolCallFunction")

def decode : Decoder ToolCall :=
  fields.decode "struct ChatToolCall"

def write (object : ObjectMaker) (call : ToolCall) : Json :=
  object (member "id" (.string call.id) ++ member "type" (.string call.type) ++
    member "function" (object (member "name" (.string call.name) ++
      member "arguments" (.string call.arguments))))

def writeList (object : ObjectMaker) (calls : List ToolCall) : Json :=
  .array (calls.map (write object))

def toJson : ToolCall → Json := write .ofMembers

def listToJson : List ToolCall → Json := writeList .ofMembers

end ToolCall

structure ChatMessage where
  role : Role
  content : Option MessageContent
  toolCalls : Option (List ToolCall)
  toolCallId : Option String
  name : Option String
  /-- Reasoning that clients echo beside the content. -/
  thinkingBlocks : Option (List ContentBlock)
  extra : Object
  deriving DecidableEq

namespace ChatMessage

def ofContent (role : Role) (content : MessageContent) : ChatMessage where
  role := role
  content := some content
  toolCalls := none
  toolCallId := none
  name := none
  thinkingBlocks := none
  extra := .empty

instance : Inhabited ChatMessage := ⟨ofContent default default⟩

def fields : Record (Object → ChatMessage) :=
  ChatMessage.mk <$> .required "role" Role.decode <*>
    .omissible "content" MessageContent.decode <*>
    .omissible "tool_calls" (.list ToolCall.decode) <*>
    .omissible "tool_call_id" .string <*> .omissible "name" .string <*>
    .omissible "thinking_blocks" (.list ContentBlock.decode)

def decode : Decoder ChatMessage :=
  fields.decodeOpen "struct ChatMessage"

def write (object : ObjectMaker) (message : ChatMessage) : Json :=
  object (member "role" (.string message.role.name) ++
    member? "content" (message.content.map (MessageContent.write object)) ++
    member? "tool_calls" (message.toolCalls.map (ToolCall.writeList object)) ++
    member? "tool_call_id" (message.toolCallId.map .string) ++
    member? "name" (message.name.map .string) ++
    member? "thinking_blocks" (message.thinkingBlocks.map (ContentBlock.writeList object)) ++
    message.extra.members)

def writeList (object : ObjectMaker) (messages : List ChatMessage) : Json :=
  .array (messages.map (write object))

def toJson : ChatMessage → Json := write .ofMembers

def listToJson : List ChatMessage → Json := writeList .ofMembers

/-- The blocks of the content; none when it is a text or absent. -/
def blocks (message : ChatMessage) : List ContentBlock :=
  match message.content with
  | some (.blocks content) => content
  | _ => []

def sideBlocks (message : ChatMessage) : List ContentBlock :=
  message.thinkingBlocks.getD []

end ChatMessage

end ChatGateway

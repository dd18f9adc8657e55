import ChatGateway.Messages.Payload

namespace ChatGateway

/-! From a chat conversation to the messages of a payload. System messages are
lifted into the system prompt. A structured conversation is otherwise kept, with
reasoning moved into the content; any other is expanded into blocks, merged into
alternating turns and collapsed to texts where a text is enough. -/

/-! The system prompt. -/

def SystemBlock.ofText (text : String) : List SystemBlock :=
  if text = "" then [] else [⟨text, none⟩]

def SystemContent.toBlocks : SystemContent → List SystemBlock
  | .text content => SystemBlock.ofText content
  | .blocks content => content

def SystemBlock.ofBlock? : ContentBlock → Option SystemBlock
  | .text content extra =>
      if content = "" then none else some ⟨content, extra.get? "cache_control"⟩
  | _ => none

/-- The texts of a system message, each with its own place in the cache. -/
def ChatMessage.systemBlocks (message : ChatMessage) : List SystemBlock :=
  match message.role, message.content with
  | .system, some (.text content) => SystemBlock.ofText content
  | .system, some (.blocks content) => content.filterMap SystemBlock.ofBlock?
  | _, _ => []

def ChatRequest.systemPrompt (request : ChatRequest) : List SystemBlock :=
  (request.system.map SystemContent.toBlocks).getD [] ++
    request.messages.flatMap ChatMessage.systemBlocks

/-! The structured form. -/

/-- The content as blocks; an empty or absent text is none. -/
def MessageContent.toBlocks : Option MessageContent → List ContentBlock
  | some (.text content) => if content = "" then [] else [.plainText content]
  | some (.blocks content) => content
  | none => []

/-- Moves the reasoning beside the content to its front. -/
def ChatMessage.foldReasoning (message : ChatMessage) : ChatMessage :=
  if message.sideBlocks.isEmpty then { message with thinkingBlocks := none }
  else
    { message with
      thinkingBlocks := none
      content := some (.blocks (message.sideBlocks ++ MessageContent.toBlocks message.content)) }

def structuredMessages (messages : List ChatMessage) : List ChatMessage :=
  (messages.filter (·.role != .system)).map ChatMessage.foldReasoning

/-! The generic form: images. -/

/-- A data address becomes an inline source, any other a link. -/
def imageSource (address : String) : Json :=
  let inline? := ((Text.dropHead? address "data:").bind fun rest =>
    Text.splitAtFirst? ',' rest.toList)
  match inline? with
  | some (header, data) =>
      let header := String.ofList header
      .ofMembers (member "type" (.string "base64") ++
        member "media_type" (.string ((Text.dropTail? header ";base64").getD header)) ++
        member "data" (.string (String.ofList data)))
  | none => .ofMembers (member "type" (.string "url") ++ member "url" (.string address))

def ContentBlock.withImageSource : ContentBlock → ContentBlock
  | .imageUrl address _ _ =>
      .other (.ofMembers (member "type" (.string "image") ++
        member "source" (imageSource address)))
  | block => block

/-! The generic form: turns. -/

/-- The arguments of a call, where they are the text of an object. -/
def ToolCall.input (call : ToolCall) : Json :=
  match Json.read call.arguments with
  | some (.object members) => .object members
  | _ => .object []

def ToolCall.toBlock (call : ToolCall) : ContentBlock :=
  .toolUse call.id call.name call.input .empty

def ChatMessage.userBlocks (message : ChatMessage) : List ContentBlock :=
  match message.content with
  | some (.text content) => [.plainText content]
  | some (.blocks content) => content.map ContentBlock.withImageSource
  | none => []

/-- Reasoning first, then the content, then the tool calls. -/
def ChatMessage.assistantBlocks (message : ChatMessage) : List ContentBlock :=
  message.sideBlocks ++
    (MessageContent.toBlocks message.content).map ContentBlock.withImageSource ++
    (message.toolCalls.getD []).map ToolCall.toBlock

def ChatMessage.toolResult (message : ChatMessage) : ContentBlock :=
  let content := message.content.map fun
    | .text content => Json.string content
    | .blocks content => ContentBlock.listToJson (content.map ContentBlock.withImageSource)
  .toolResult (message.toolCallId.getD "") content none .empty

/-- The role and the blocks that a message adds; none for a system message. -/
def ChatMessage.expand? (message : ChatMessage) : Option (Role × List ContentBlock) :=
  match message.role with
  | .system => none
  | .user => some (.user, message.userBlocks)
  | .assistant => some (.assistant, message.assistantBlocks)
  | .tool => some (.user, [message.toolResult])

/-- Joins neighbours of one role, so that roles alternate. -/
def mergeTurns : List (Role × List ContentBlock) → List (Role × List ContentBlock)
  | [] => []
  | (role, blocks) :: rest =>
      match mergeTurns rest with
      | (next, more) :: others =>
          if next = role then (role, blocks ++ more) :: others
          else (role, blocks) :: (next, more) :: others
      | [] => [(role, blocks)]

/-- A lone plain text is written as a text, and so is no block at all. -/
def MessageContent.ofBlocks : List ContentBlock → MessageContent
  | [] => .text ""
  | [.text content extra] =>
      if extra.isEmpty then .text content else .blocks [.text content extra]
  | several => .blocks several

def genericMessages (messages : List ChatMessage) : List ChatMessage :=
  (mergeTurns (messages.filterMap ChatMessage.expand?)).map fun (role, blocks) =>
    .ofContent role (.ofBlocks blocks)

/-! The payload of a request, before anything is negotiated. -/

structure PayloadDefaults where
  anthropicVersion : String
  maxTokens : UInt64
  userId : Option String
  deriving DecidableEq, Inhabited

def ChatRequest.userId (request : ChatRequest) : Option String :=
  (request.metadata.bind RequestMetadata.userId).or request.user

def Payload.ofRequest (request : ChatRequest) (structured : Bool)
    (defaults : PayloadDefaults) : Payload where
  anthropicVersion := request.anthropicVersion.getD defaults.anthropicVersion
  messages :=
    if structured then structuredMessages request.messages
    else genericMessages request.messages
  maxTokens := (request.maxTokens.or request.maxCompletionTokens).getD defaults.maxTokens
  system := if request.systemPrompt.isEmpty then none else some request.systemPrompt
  temperature := request.temperature
  topP := request.topP
  topK := request.topK
  stopSequences := request.stop.map StopSequences.toList
  tools := request.tools
  toolChoice := request.toolChoice
  thinking := request.thinking
  metadata := (request.userId.or defaults.userId).map fun userId => ⟨some userId⟩
  anthropicBeta := none
  extra := request.extra

end ChatGateway

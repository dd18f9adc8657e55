import ChatGateway.Beta
import ChatGateway.Decision
import ChatGateway.Messages.Conversation

namespace ChatGateway

/-! What is sent for a request. Whatever the provider would refuse is dropped,
and every such choice is told as a decision. The tool choice is repaired before
anything reads it, and thinking is decided once the tool list is final. -/

def defaultAnthropicVersion : String := "vertex-2023-10-16"

def defaultMaxTokens : UInt64 := 4096

/-- What belongs to one call beside the body of its request. -/
structure CallContext where
  /-- The model name as the client sent it. -/
  requestedModel : Option String
  userId : Option String
  /-- The tokens of the beta header, joined by commas. -/
  anthropicBeta : Option String
  /-- The limit of the model, for a request that sets none. -/
  maxTokens : Option UInt64
  deriving DecidableEq, Inhabited

structure PayloadOptions where
  anthropicVersion : String
  maxTokens : UInt64
  /-- Parameters to drop beside those that are always dropped. -/
  dropParams : List String
  deriving DecidableEq, Inhabited

/-- Parameters of the chat dialect that the Messages endpoint does not take. -/
def chatOnlyParams : List String :=
  ["anthropic_beta", "audio", "betas", "frequency_penalty", "function_call", "functions",
    "logit_bias", "logprobs", "modalities", "n", "parallel_tool_calls", "prediction",
    "presence_penalty", "reasoning_effort", "response_format", "seed", "service_tier", "store",
    "stream_options", "top_logprobs", "web_search_options"]

structure Outgoing where
  payload : Payload
  decisions : List Decision
  deriving DecidableEq

namespace Outgoing

def parallelParam : String := "parallel_tool_calls"

/-- With tools, the flag for parallel calls becomes part of the tool choice,
which is `auto` where the client sent none. -/
def applyParallelCalls (request : ChatRequest) : ChatRequest :=
  if request.hasTools then
    match request.extra.get? parallelParam with
    | some (.bool allowed) =>
        { request with
          extra := request.extra.erase parallelParam
          toolChoice := some
            ((request.toolChoice.getD .plainAuto).withParallelCalls allowed) }
    | _ => request
  else request

def droppedChoice (stage : RepairStage) (dropped : Option ToolChoice) : List Decision :=
  match dropped with
  | some choice => [.toolChoiceDropped stage choice.toJson]
  | none => []

def strippedBlocks (report : StripReport) : List Decision :=
  if 0 < report.blocks then [.reasoningBlocksStripped report.messages report.blocks] else []

def stripIf (condition : Bool) (messages : List ChatMessage) :
    List ChatMessage × List Decision :=
  if condition then
    let (messages, report) := stripReasoning messages
    (messages, strippedBlocks report)
  else (messages, [])

def isDropped (options : PayloadOptions) (param : String) : Bool :=
  chatOnlyParams.contains param || options.dropParams.contains param

def droppedParams (extra : Object) (options : PayloadOptions) : List Decision :=
  let params := extra.keys.filter (isDropped options)
  if params.isEmpty then [] else [.paramsDropped params]

/-! The tool for code execution is added when a file is put into a container and
no tool for it is declared. -/

def mentionsContainerUpload (messages : List ChatMessage) : Bool :=
  messages.any fun message =>
    message.blocks.any fun block => block.typeName == some "container_upload"

def needsCodeExecution (messages : List ChatMessage) (tools : List ToolDefinition) : Bool :=
  mentionsContainerUpload messages && !tools.any (·.isOfType "code_execution")

def withCodeExecution (messages : List ChatMessage) (tools : List ToolDefinition) :
    List ToolDefinition :=
  if needsCodeExecution messages tools then tools ++ [codeExecutionTool] else tools

def selectedBetas (selection : BetaSelection) : List Decision :=
  selection.dropped.map .betaDropped ++
    match selection.field? with
    | some betas => [.betasSelected betas]
    | none => []

def ofRequest (request : ChatRequest) (call : CallContext) (options : PayloadOptions) :
    Outgoing :=
  let (inboundChoice, inboundDropped) := ToolChoice.repair request.toolChoice
  let request := applyParallelCalls { request with toolChoice := inboundChoice }
  let (messages, stripped) := stripIf request.hasTools request.messages
  let structured := isStructured messages
  let continuity := Continuity.assess messages
  let paramsDropped := droppedParams request.extra options
  let signal := ThinkingSignal.detect (call.requestedModel.getD request.model)
    call.anthropicBeta request.thinking.isSome
  let defaults : PayloadDefaults :=
    { anthropicVersion := options.anthropicVersion
      maxTokens := call.maxTokens.getD options.maxTokens
      userId := call.userId }
  let kept := request.extra.filter fun param => !isDropped options param
  let built := Payload.ofRequest { request with messages, extra := kept } structured defaults
  let added := needsCodeExecution built.messages request.toolList
  let tools := withCodeExecution built.messages request.toolList
  let (sent, lateStripped) := stripIf (added && !request.hasTools) built.messages
  let (outboundChoice, outboundDropped) := ToolChoice.repair built.toolChoice
  let betas := BetaSelection.ofTools tools
  let outcome := ThinkingInputs.outcome
    { hasTools := !tools.isEmpty
      explicit := request.thinking
      signal, continuity
      maxTokens := built.maxTokens }
  { payload := { built with
      messages := sent
      tools := if tools.isEmpty then none else some tools
      toolChoice := outboundChoice
      thinking := outcome.config?
      anthropicBeta := betas.field?
      extra := built.extra.erase "model" }
    decisions :=
      droppedChoice .inbound inboundDropped ++ stripped ++
        [.classified structured messages.length] ++ paramsDropped ++
        (if added then [.codeExecutionToolAdded] else []) ++ lateStripped ++
        droppedChoice .outbound outboundDropped ++ selectedBetas betas ++
        [.thinking outcome] }

end Outgoing

end ChatGateway

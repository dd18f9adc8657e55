import ChatGateway.Proofs.ToolForms
import ChatGateway.Proofs.Vocabulary

namespace ChatGateway

/-! Files that are put into the model's container. They are looked for in the messages as
they were built, so a block that uploads a file has to come through all that is done to its
message before. Whatever that was, the payload then declares a tool that runs code. -/

def ContentBlock.TaggedUpload (block : ContentBlock) : Prop :=
  block.typeName = some "container_upload"

namespace ContentBlock.TaggedUpload

theorem ne_plainText {block : ContentBlock} (upload : block.TaggedUpload) (text : String) :
    block ≠ .plainText text := by
  intro equal
  rw [TaggedUpload, equal] at upload
  exact absurd (Option.some.inj upload) (by decide)

theorem isReasoning {block : ContentBlock} (upload : block.TaggedUpload) :
    block.isReasoning = false := by
  rw [TaggedUpload] at upload
  rw [ContentBlock.isReasoning, upload]
  rfl

theorem shown {block : ContentBlock} (upload : block.TaggedUpload) : block.shown = block := by
  cases block with
  | imageUrl address detail extra => exact absurd (Option.some.inj upload) (by decide)
  | _ => rfl

end ContentBlock.TaggedUpload

def ChatMessage.Uploads (message : ChatMessage) : Prop :=
  ∃ block ∈ message.blocks, block.TaggedUpload

def Uploads (messages : List ChatMessage) : Prop :=
  ∃ message ∈ messages, message.Uploads

/-! What is done to a message leaves its files. -/

theorem uploads_strippedIf_iff (condition : Bool) (message : ChatMessage) :
    (message.strippedIf condition).Uploads ↔ message.Uploads := by
  apply exists_congr
  intro block
  apply and_congr_left
  intro upload
  exact message.mem_blocks_strippedIf_of_ordinary_iff condition upload.isReasoning

theorem uploads_map_strippedIf_iff (condition : Bool) (messages : List ChatMessage) :
    Uploads (messages.map (ChatMessage.strippedIf condition)) ↔ Uploads messages := by
  simp only [Uploads, List.mem_map, exists_exists_and_eq_and, uploads_strippedIf_iff]

theorem uploads_structuredMessages {messages : List ChatMessage} {source : ChatMessage}
    (member : source ∈ messages) (kept : source.role ≠ .system) (uploads : source.Uploads) :
    Uploads (structuredMessages messages) := by
  rcases uploads with ⟨block, inside, upload⟩
  refine ⟨source.foldReasoning, ?_, block, ?_, upload⟩
  · exact List.mem_map_of_mem (List.mem_filter.mpr ⟨member, bne_iff_ne.mpr kept⟩)
  · exact (mem_blocks_foldReasoning_iff source upload.ne_plainText).mpr (.inr inside)

theorem uploads_genericMessages {messages : List ChatMessage} {source : ChatMessage}
    (member : source ∈ messages) (speaks : source.role = .user ∨ source.role = .assistant)
    (uploads : source.Uploads) : Uploads (genericMessages messages) := by
  rcases uploads with ⟨block, inside, upload⟩
  have said := shown_mem_expansion speaks inside upload.ne_plainText
  rw [upload.shown] at said
  rcases exists_generic_of_mem_expansion member said upload.ne_plainText with
    ⟨message, generic, _, found⟩
  exact ⟨message, generic, block, found, upload⟩

theorem uploads_builtMessages {request : ChatRequest} {source : ChatMessage}
    (member : source ∈ request.inboundMessages)
    (speaks : source.role = .user ∨ source.role = .assistant) (uploads : source.Uploads) :
    Uploads request.builtMessages := by
  rw [ChatRequest.builtMessages]
  split
  · exact uploads_structuredMessages member (ne_system_of_speaks speaks) uploads
  · exact uploads_genericMessages member speaks uploads

/-! Tools that run code. -/

namespace ToolDefinition

def TypeStarts (tool : ToolDefinition) (head : String) : Prop :=
  ∃ type, tool.toJson.get? "type" = some (.string type) ∧ head.toList <+: type.toList

theorem get?_toJson_type (tool : ToolDefinition) :
    tool.toJson.get? "type" = tool.extra.get? "type" := by
  have written : tool.toJson.get? "type" = tool.toObject.get? "type" := rfl
  rw [written]
  by_cases isFunction : tool.kind = .function
  · rw [get?_toObject isFunction]
    rfl
  · rw [toObject_of_ne_function isFunction]

theorem isOfType_iff (tool : ToolDefinition) (head : String) :
    tool.isOfType head = true ↔ tool.TypeStarts head := by
  rw [isOfType, TypeStarts, get?_toJson_type]
  cases typed : textAt? tool.extra "type" with
  | none =>
      refine iff_of_false Bool.false_ne_true fun starts => ?_
      rcases starts with ⟨type, found, _⟩
      rw [textAt?_eq_some_iff.mpr found] at typed
      cases typed
  | some type =>
      rw [textAt?_eq_some_iff] at typed
      simp [typed, Text.startsWith]

/-- A definition of a client is of the type that stands in it, or of none if it is written as
a function tool; no function tool has a type that starts as those that run code. -/
theorem typeStarts_ofObject_iff {head : String} (body : Object)
    (foreign : ∀ type ∈ ["custom", "function"], ¬ head.toList <+: type.toList) :
    (ofObject body).TypeStarts head ↔
      ∃ type, body.get? "type" = some (.string type) ∧ head.toList <+: type.toList := by
  by_cases isProvided : Provided body
  · have same : (ofObject body).toJson = body.toJson :=
      congrArg Object.toJson (written_of_provided isProvided).2
    rw [TypeStarts, same]
    rfl
  · have untyped : (ofObject body).toJson.get? "type" = none := by
      rw [get?_toJson_type]
      exact (readAsFunction_of_not_provided isProvided).noType
    rw [TypeStarts, untyped]
    refine iff_of_false nofun fun typed => isProvided ?_
    rcases typed with ⟨type, found, starts⟩
    refine ⟨⟨type, fun custom => ?_, found⟩, fun nested => ?_⟩
    · exact foreign type (by simp [custom]) starts
    · cases found.symm.trans nested.1
      exact foreign "function" (by simp) starts

end ToolDefinition

/-! The tools of a payload. -/

/-- A file is uploaded, and no tool that was declared runs code. -/
structure ChatRequest.LacksRunner (request : ChatRequest) : Prop where
  uploads : Uploads request.builtMessages
  undeclared : ∀ tool ∈ request.toolList, ¬ tool.TypeStarts "code_execution"

theorem ChatRequest.lacksCodeExecution_iff (request : ChatRequest) :
    request.lacksCodeExecution = true ↔ request.LacksRunner := by
  have mentioned : Outgoing.mentionsContainerUpload request.builtMessages = true ↔
      Uploads request.builtMessages := by
    simp only [Outgoing.mentionsContainerUpload, List.any_eq_true, beq_iff_eq]
    rfl
  rw [lacksCodeExecution, Outgoing.needsCodeExecution, Bool.and_eq_true, mentioned,
    Bool.not_eq_true', List.any_eq_false]
  simp only [ToolDefinition.isOfType_iff]
  exact ⟨fun lacks => ⟨lacks.1, lacks.2⟩, fun lacks => ⟨lacks.uploads, lacks.undeclared⟩⟩

theorem typeStarts_codeExecutionTool : codeExecutionTool.TypeStarts "code_execution" :=
  ⟨"code_execution_20250522", by decide, by decide⟩

namespace Outgoing

/-- How a payload is equipped with tools for a request. -/
structure Equips (request : ChatRequest) (payload : Payload) : Prop where
  /-- What is done to the messages once they are built hides no file and brings none. -/
  converted : Uploads payload.messages ↔ Uploads request.builtMessages
  added : request.LacksRunner → payload.toolList = request.toolList ++ [codeExecutionTool]
  kept : ¬ request.LacksRunner → payload.toolList = request.toolList
  absent : payload.tools = none ↔ payload.toolList = []
  /-- A file of a user or an assistant comes with a tool that runs code. -/
  runsCode : ∀ message ∈ request.messages, message.role = .user ∨ message.role = .assistant →
    message.Uploads → ∃ tool ∈ payload.toolList, tool.TypeStarts "code_execution"

variable (request : ChatRequest) (call : CallContext) (options : PayloadOptions)

theorem uploads_messages_iff :
    Uploads (ofRequest request call options).payload.messages ↔ Uploads request.builtMessages := by
  rw [messages_ofRequest, stripIf_eq_map]
  exact uploads_map_strippedIf_iff _ _

theorem toolList_of_lacksRunner (lacks : request.LacksRunner) :
    (ofRequest request call options).payload.toolList =
      request.toolList ++ [codeExecutionTool] := by
  rw [← request.lacksCodeExecution_iff] at lacks
  rw [toolList_ofRequest, withCodeExecution]
  exact if_pos lacks

theorem toolList_of_not_lacksRunner (provided : ¬ request.LacksRunner) :
    (ofRequest request call options).payload.toolList = request.toolList := by
  rw [← request.lacksCodeExecution_iff] at provided
  rw [toolList_ofRequest, withCodeExecution]
  exact if_neg provided

theorem tools_eq_none_iff :
    (ofRequest request call options).payload.tools = none ↔
      (ofRequest request call options).payload.toolList = [] := by
  rw [toolList_ofRequest, tools_ofRequest]
  cases withCodeExecution request.builtMessages request.toolList <;> simp

theorem uploads_builtMessages_of_request {message : ChatMessage}
    (member : message ∈ request.messages)
    (speaks : message.role = .user ∨ message.role = .assistant) (uploads : message.Uploads) :
    Uploads request.builtMessages := by
  have inbound : message.strippedIf request.hasTools ∈ request.inboundMessages := by
    rw [ChatRequest.inboundMessages, stripIf_eq_map]
    exact List.mem_map_of_mem member
  refine uploads_builtMessages inbound ?_ ((uploads_strippedIf_iff _ message).mpr uploads)
  rwa [(message.passedAs_strippedIf request.hasTools).role]

theorem exists_runner_of_uploads (uploads : Uploads request.builtMessages) :
    ∃ tool ∈ (ofRequest request call options).payload.toolList,
      tool.TypeStarts "code_execution" := by
  by_cases lacks : request.LacksRunner
  · rw [toolList_of_lacksRunner request call options lacks]
    exact ⟨codeExecutionTool, List.mem_append_right _ (List.mem_singleton_self _),
      typeStarts_codeExecutionTool⟩
  · rw [toolList_of_not_lacksRunner request call options lacks]
    by_contra none
    exact lacks ⟨uploads, fun tool member runs => none ⟨tool, member, runs⟩⟩

/-- A payload declares the tools of its request, in their order, and behind them one that runs
code when a file is uploaded and none of them does. The type of a tool that a client declared is
the one that stands in its definition. -/
theorem equips_ofRequest (request : ChatRequest) (call : CallContext) (options : PayloadOptions) :
    Equips request (ofRequest request call options).payload ∧
      codeExecutionTool.toJson = .object
        [("name", .string "code_execution"), ("type", .string "code_execution_20250522")] ∧
      ∀ body : Object, (ToolDefinition.ofObject body).TypeStarts "code_execution" ↔
        ∃ type, body.get? "type" = some (.string type) ∧
          "code_execution".toList <+: type.toList := by
  refine ⟨?_, by decide, fun body => ToolDefinition.typeStarts_ofObject_iff body (by decide)⟩
  constructor
  case converted => exact uploads_messages_iff request call options
  case added => exact toolList_of_lacksRunner request call options
  case kept => exact toolList_of_not_lacksRunner request call options
  case absent => exact tools_eq_none_iff request call options
  case runsCode =>
    intro message member speaks uploads
    exact exists_runner_of_uploads request call options
      (uploads_builtMessages_of_request request member speaks uploads)

/-- A file of an assistant, beside reasoning, that goes into a joined turn; and a file in the
result of a tool, which is no file of the conversation. -/
example :
    let upload : ContentBlock := .other (.object
      [("file_id", .string "file"), ("type", .string "container_upload")])
    let sealedBlock : ContentBlock := .redactedThinking "sealed" .empty
    (ofRequest (.ofMessages "claude"
        [.ofContent .assistant (.text "Here."),
          .ofContent .assistant (.blocks [sealedBlock, upload])]) default plainOptions).payload.tools =
      some [codeExecutionTool] ∧
    (ofRequest (.ofMessages "claude" [.ofContent .tool (.blocks [upload])])
      default plainOptions).payload.tools = none := by
  decide

end Outgoing

end ChatGateway

import ChatGateway.Proofs.ChoiceForms
import ChatGateway.Proofs.MessageForms
import ChatGateway.Proofs.Outgoing
import ChatGateway.Proofs.ToolForms
import ChatGateway.Proofs.Turns

namespace ChatGateway

/-! Requests that were read hold well-formed values, and all that is made of such a request
on its way to a payload holds well-formed values again: those of the request, the sources of
images, the results of tools, and the arguments of calls, which are read from texts. -/

/-! Messages. -/

namespace ContentBlock

theorem wellFormed_plainText (text : String) : (plainText text).WellFormed where
  fields := by simp [plainText, writtenFields, wellFormed_string]
  extra := Object.wellFormed_empty
  kept := nofun

theorem wellFormed_imageSource (address : String) : (imageSource address).WellFormed := by
  rw [imageSource]
  dsimp only
  split <;> exact Json.wellFormed_ofMembers (by simp [member, wellFormed_string])

theorem WellFormed.withImageSource {block : ContentBlock} (wellFormed : block.WellFormed) :
    block.withImageSource.WellFormed := by
  cases block with
  | imageUrl address detail extra =>
      apply wellFormed_other
      apply Json.wellFormed_ofMembers
      simp [member, wellFormed_string, wellFormed_imageSource]
  | _ => exact wellFormed

theorem wellFormed_shown {blocks : List ContentBlock}
    (wellFormed : ∀ block ∈ blocks, block.WellFormed) :
    ∀ block ∈ blocks.map withImageSource, block.WellFormed :=
  List.forall_mem_map.mpr fun block inside => (wellFormed block inside).withImageSource

theorem wellFormed_listToJson {blocks : List ContentBlock}
    (wellFormed : ∀ block ∈ blocks, block.WellFormed) : (listToJson blocks).WellFormed := by
  rw [listToJson, writeList, Json.WellFormed, Json.itemsWellFormed_iff, List.forall_mem_map]
  exact fun block inside => (wellFormed block inside).toJson

end ContentBlock

namespace ToolCall

theorem wellFormed_input (call : ToolCall) : call.input.WellFormed := by
  rw [input]
  split
  · next read => exact wellFormed_of_read read
  · exact wellFormed_emptyObject

theorem wellFormed_toBlock (call : ToolCall) : call.toBlock.WellFormed where
  fields := by simp [toBlock, ContentBlock.writtenFields, wellFormed_string, wellFormed_input]
  extra := Object.wellFormed_empty
  kept := nofun

end ToolCall

namespace MessageContent

def WellFormed : MessageContent → Prop
  | .text _ => True
  | .blocks content => ∀ block ∈ content, block.WellFormed

theorem wellFormed_toBlocks {content : Option MessageContent}
    (wellFormed : ∀ present ∈ content, present.WellFormed) :
    ∀ block ∈ toBlocks content, block.WellFormed := by
  cases content with
  | none => exact List.forall_mem_nil _
  | some content =>
      cases content with
      | blocks blocks => exact wellFormed _ rfl
      | text text =>
          rw [toBlocks]
          split
          · exact List.forall_mem_nil _
          · exact List.forall_mem_singleton.mpr (ContentBlock.wellFormed_plainText text)

theorem WellFormed.withoutReasoning {content : MessageContent} (wellFormed : content.WellFormed) :
    content.withoutReasoning.1.WellFormed := by
  cases content with
  | text text => trivial
  | blocks blocks =>
      rw [MessageContent.withoutReasoning]
      dsimp only
      split
      · trivial
      · exact fun block inside => wellFormed block (List.mem_filter.mp inside).1

theorem wellFormed_ofBlocks {blocks : List ContentBlock}
    (wellFormed : ∀ block ∈ blocks, block.WellFormed) : (ofBlocks blocks).WellFormed := by
  rw [ofBlocks.eq_def]
  split
  · trivial
  · split
    · trivial
    · exact wellFormed
  · exact wellFormed

end MessageContent

namespace ChatMessage

structure WellFormed (message : ChatMessage) : Prop where
  content : ∀ content ∈ message.content, content.WellFormed
  beside : ∀ block ∈ message.sideBlocks, block.WellFormed
  extra : message.extra.WellFormed

theorem WellFormed.foldReasoning {message : ChatMessage} (wellFormed : message.WellFormed) :
    message.foldReasoning.WellFormed := by
  rw [ChatMessage.foldReasoning]
  split
  · exact ⟨wellFormed.content, List.forall_mem_nil _, wellFormed.extra⟩
  · refine ⟨?_, List.forall_mem_nil _, wellFormed.extra⟩
    intro content given
    cases given
    refine List.forall_mem_append.mpr ⟨wellFormed.beside, ?_⟩
    exact MessageContent.wellFormed_toBlocks wellFormed.content

theorem WellFormed.withoutReasoning {message : ChatMessage} (wellFormed : message.WellFormed) :
    message.withoutReasoning.1.WellFormed := by
  rw [ChatMessage.withoutReasoning]
  split
  · refine ⟨?_, List.forall_mem_nil _, wellFormed.extra⟩
    dsimp only
    rw [Option.map_map]
    intro content given
    rcases Option.map_eq_some_iff.mp given with ⟨source, present, rfl⟩
    exact (wellFormed.content source present).withoutReasoning
  · exact wellFormed

theorem WellFormed.toolResult {message : ChatMessage} (wellFormed : message.WellFormed) :
    message.toolResult.WellFormed := by
  have result (value : Option Json) (held : ∀ given ∈ value, given.WellFormed) :
      (ContentBlock.toolResult (message.toolCallId.getD "") value none .empty).WellFormed := by
    refine ⟨?_, Object.wellFormed_empty, nofun⟩
    simpa [ContentBlock.writtenFields, wellFormed_string] using held
  apply result
  intro value given
  rcases Option.map_eq_some_iff.mp given with ⟨content, present, rfl⟩
  cases content with
  | text text => exact wellFormed_string text
  | blocks blocks =>
      apply ContentBlock.wellFormed_listToJson
      exact ContentBlock.wellFormed_shown (wellFormed.content _ present)

theorem WellFormed.expand? {message : ChatMessage} (wellFormed : message.WellFormed)
    {role : Role} {blocks : List ContentBlock} (expanded : message.expand? = some (role, blocks)) :
    ∀ block ∈ blocks, block.WellFormed := by
  rw [ChatMessage.expand?.eq_def] at expanded
  split at expanded
  · cases expanded
  · cases expanded
    rw [userBlocks.eq_def]
    split
    · exact List.forall_mem_singleton.mpr (ContentBlock.wellFormed_plainText _)
    · next given => exact ContentBlock.wellFormed_shown (wellFormed.content _ given)
    · exact List.forall_mem_nil _
  · cases expanded
    rw [assistantBlocks, List.forall_mem_append, List.forall_mem_append]
    have content := ContentBlock.wellFormed_shown
      (MessageContent.wellFormed_toBlocks wellFormed.content)
    have calls := List.forall_mem_map.mpr fun call (_ : call ∈ message.toolCalls.getD []) =>
      call.wellFormed_toBlock
    exact ⟨⟨wellFormed.beside, content⟩, calls⟩
  · cases expanded
    exact List.forall_mem_singleton.mpr wellFormed.toolResult

def AllWellFormed (messages : List ChatMessage) : Prop :=
  ∀ message ∈ messages, message.WellFormed

theorem AllWellFormed.stripIf {messages : List ChatMessage} (wellFormed : AllWellFormed messages)
    (condition : Bool) : AllWellFormed (Outgoing.stripIf condition messages).1 := by
  rw [Outgoing.stripIf]
  split
  · rw [stripReasoning, List.map_map]
    exact List.forall_mem_map.mpr fun message inside => (wellFormed message inside).withoutReasoning
  · exact wellFormed

theorem AllWellFormed.structured {messages : List ChatMessage}
    (wellFormed : AllWellFormed messages) : AllWellFormed (structuredMessages messages) :=
  List.forall_mem_map.mpr fun message inside =>
    (wellFormed message (List.mem_filter.mp inside).1).foldReasoning

theorem exists_turn_of_mem_mergeTurns {turns : List (Role × List ContentBlock)}
    {turn : Role × List ContentBlock} (inside : turn ∈ mergeTurns turns) {block : ContentBlock}
    (held : block ∈ turn.2) : ∃ given ∈ turns, block ∈ given.2 := by
  have joined : (turn.1, block) ∈ (mergeTurns turns).flatMap placed :=
    List.mem_flatMap.mpr ⟨turn, inside, mem_placed.mpr ⟨rfl, held⟩⟩
  rw [placed_mergeTurns] at joined
  rcases List.mem_flatMap.mp joined with ⟨given, member, placed⟩
  exact ⟨given, member, (mem_placed.mp placed).2⟩

theorem AllWellFormed.generic {messages : List ChatMessage}
    (wellFormed : AllWellFormed messages) : AllWellFormed (genericMessages messages) := by
  refine List.forall_mem_map.mpr fun turn inside => ?_
  refine ⟨?_, List.forall_mem_nil _, Object.wellFormed_empty⟩
  intro content given
  cases given
  refine MessageContent.wellFormed_ofBlocks fun block held => ?_
  rcases exists_turn_of_mem_mergeTurns inside held with ⟨⟨role, blocks⟩, member, within⟩
  rcases List.mem_filterMap.mp member with ⟨message, source, expanded⟩
  exact (wellFormed message source).expand? expanded block within

end ChatMessage

/-! System prompts. -/

namespace SystemBlock

def WellFormed (block : SystemBlock) : Prop :=
  ∀ value ∈ block.cacheControl, value.WellFormed

theorem wellFormed_ofText (text : String) : ∀ block ∈ ofText text, block.WellFormed := by
  rw [ofText]
  split
  · exact List.forall_mem_nil _
  · exact List.forall_mem_singleton.mpr nofun

theorem wellFormed_of_ofBlock? {block : ContentBlock} (wellFormed : block.WellFormed)
    {made : SystemBlock} (ofBlock : ofBlock? block = some made) : made.WellFormed := by
  cases block with
  | text content extra =>
      rw [ofBlock?] at ofBlock
      split at ofBlock
      · cases ofBlock
      · cases ofBlock
        exact fun value found => Object.WellFormed.get? wellFormed.extra found
  | _ => cases ofBlock

end SystemBlock

theorem ChatMessage.WellFormed.systemBlocks {message : ChatMessage}
    (wellFormed : message.WellFormed) : ∀ block ∈ message.systemBlocks, block.WellFormed := by
  rw [ChatMessage.systemBlocks.eq_def]
  split
  · exact SystemBlock.wellFormed_ofText _
  · next given =>
      intro block inside
      rcases List.mem_filterMap.mp inside with ⟨source, member, ofBlock⟩
      exact SystemBlock.wellFormed_of_ofBlock? (wellFormed.content _ given source member) ofBlock
  · exact List.forall_mem_nil _

/-! Tools. -/

namespace ToolDefinition

structure WellFormed (tool : ToolDefinition) : Prop where
  schema : tool.inputSchema.WellFormed
  extra : tool.extra.WellFormed

theorem wellFormed_defaultInputSchema : defaultInputSchema.WellFormed := by
  have schema : defaultInputSchema =
      .ofMembers [("properties", .object []), ("type", .string "object")] := rfl
  rw [schema]
  exact Json.wellFormed_ofMembers (by simp [wellFormed_emptyObject, wellFormed_string])

theorem wellFormed_schema {object : Object} (wellFormed : object.WellFormed) (key : String) :
    ((object.get? key).getD defaultInputSchema).WellFormed := by
  cases found : object.get? key with
  | none => exact wellFormed_defaultInputSchema
  | some schema => exact wellFormed.get? found

theorem wellFormed_provided {body : Object} (wellFormed : body.WellFormed) :
    (provided body).WellFormed where
  schema := trivial
  extra := wellFormed

theorem wellFormed_ofObject {body : Object} (wellFormed : body.WellFormed) :
    (ofObject body).WellFormed := by
  rcases ofObject_cases body with ⟨_, read⟩ | ⟨members, _, found, read⟩ | ⟨_, _, read⟩
  · rw [read]
    exact wellFormed_provided wellFormed
  · rw [read]
    have function := wellFormed.get? found
    rw [Json.WellFormed, Json.membersWellFormed_iff] at function
    exact ⟨wellFormed_schema (Object.wellFormed_ofList function.2) _, wellFormed.filter _⟩
  · rw [read]
    exact ⟨wellFormed_schema wellFormed _, wellFormed.filter _⟩

theorem WellFormed.toJson {tool : ToolDefinition} (wellFormed : tool.WellFormed) :
    tool.toJson.WellFormed := by
  apply Object.WellFormed.toJson
  rw [toObject]
  split
  · apply Object.wellFormed_ofList
    simp only [List.forall_mem_append]
    refine ⟨⟨⟨wellFormed.extra, ?_⟩, ?_⟩, ?_⟩
    · simp [member, wellFormed_string]
    · cases tool.description <;> simp [member?, wellFormed_string]
    · simpa [member] using wellFormed.schema
  · exact wellFormed.extra

end ToolDefinition

namespace ToolChoice

def WellFormed : ToolChoice → Prop
  | .auto extra | .any extra | .none extra | .tool _ extra => extra.WellFormed
  | .malformed value => value.WellFormed

theorem wellFormed_of_directs {choice : ToolChoice} {type : String} {name : Option String}
    {extra : Object} (directs : choice.Directs type name extra) (wellFormed : extra.WellFormed) :
    choice.WellFormed := by
  cases directs <;> exact wellFormed

theorem wellFormed_extraOf {value : Json} (wellFormed : value.WellFormed) :
    (extraOf value).WellFormed := by
  cases value with
  | object members =>
      rw [Json.WellFormed, Json.membersWellFormed_iff] at wellFormed
      exact (Object.wellFormed_ofList wellFormed.2).filter _
  | _ => exact Object.wellFormed_empty

theorem wellFormed_ofJson {value : Json} (wellFormed : value.WellFormed) :
    (ofJson value).WellFormed := by
  rcases ofJson_cases value with ⟨_, kept⟩ | ⟨type, _, directs⟩
  · rw [kept]
    exact wellFormed
  · exact wellFormed_of_directs directs (wellFormed_extraOf wellFormed)

theorem WellFormed.withParallelCalls {choice : ToolChoice} (wellFormed : choice.WellFormed)
    (allowed : Bool) : (choice.withParallelCalls allowed).WellFormed := by
  cases choice with
  | none => exact wellFormed
  | malformed => exact wellFormed
  | _ => exact Object.WellFormed.insert wellFormed _ trivial

theorem wellFormed_repair {choice : Option ToolChoice}
    (wellFormed : ∀ given ∈ choice, given.WellFormed) :
    ∀ given ∈ (repair choice).1, given.WellFormed := by
  intro given kept
  cases choice with
  | none => cases kept
  | some choice =>
      rw [repair] at kept
      split at kept
      · exact wellFormed given kept
      · cases kept

theorem WellFormed.toJson {choice : ToolChoice} (wellFormed : choice.WellFormed) :
    choice.toJson.WellFormed := by
  have directive (type : String) (name : Option String) {extra : Object}
      (held : extra.WellFormed) : (directive type name extra).WellFormed := by
    apply Json.wellFormed_ofMembers
    simp only [List.forall_mem_append]
    refine ⟨⟨?_, ?_⟩, held⟩
    · simp [member, wellFormed_string]
    · cases name <;> simp [member?, wellFormed_string]
  cases choice with
  | malformed value => exact wellFormed
  | _ => exact directive _ _ wellFormed

end ToolChoice

/-! Requests. -/

structure ChatRequest.WellFormed (request : ChatRequest) : Prop where
  messages : ChatMessage.AllWellFormed request.messages
  system : ∀ block ∈ (request.system.map SystemContent.toBlocks).getD [], block.WellFormed
  tools : ∀ tool ∈ request.toolList, tool.WellFormed
  toolChoice : ∀ choice ∈ request.toolChoice, choice.WellFormed
  extra : request.extra.WellFormed

/-! Payloads. -/

structure Payload.WellFormed (payload : Payload) : Prop where
  messages : ChatMessage.AllWellFormed payload.messages
  system : ∀ blocks ∈ payload.system, ∀ block ∈ blocks, block.WellFormed
  tools : ∀ tools ∈ payload.tools, ∀ tool ∈ tools, tool.WellFormed
  toolChoice : ∀ choice ∈ payload.toolChoice, choice.WellFormed
  extra : payload.extra.WellFormed

namespace ChatRequest.WellFormed

variable {request : ChatRequest} (wellFormed : request.WellFormed)

include wellFormed

theorem inboundMessages : ChatMessage.AllWellFormed request.inboundMessages :=
  wellFormed.messages.stripIf _

theorem builtMessages : ChatMessage.AllWellFormed request.builtMessages := by
  rw [ChatRequest.builtMessages]
  split
  · exact wellFormed.inboundMessages.structured
  · exact wellFormed.inboundMessages.generic

theorem systemPrompt (messages : List ChatMessage) (held : ChatMessage.AllWellFormed messages) :
    ∀ block ∈ { request with messages }.systemPrompt, block.WellFormed := by
  rw [ChatRequest.systemPrompt, List.forall_mem_append]
  refine ⟨wellFormed.system, fun block inside => ?_⟩
  rcases List.mem_flatMap.mp inside with ⟨message, member, held'⟩
  exact (held message member).systemBlocks block held'

theorem repaired : request.repaired.WellFormed := by
  have kept := ToolChoice.wellFormed_repair wellFormed.toolChoice
  rcases Outgoing.repaired_cases request with ⟨allowed, _, equal⟩ | ⟨_, equal⟩
  · rw [equal]
    refine ⟨wellFormed.messages, wellFormed.system, wellFormed.tools, ?_, wellFormed.extra.filter _⟩
    intro choice given
    cases given
    apply ToolChoice.WellFormed.withParallelCalls
    cases repaired : (ToolChoice.repair request.toolChoice).1 with
    | none => exact Object.wellFormed_empty
    | some choice => exact kept choice repaired
  · rw [equal]
    exact ⟨wellFormed.messages, wellFormed.system, wellFormed.tools, kept, wellFormed.extra⟩

/-- What is sent for the request holds nothing else than well-formed values. -/
theorem payload (call : CallContext) (options : PayloadOptions) :
    (Outgoing.ofRequest request call options).payload.WellFormed where
  messages := by
    rw [Outgoing.messages_ofRequest]
    exact wellFormed.builtMessages.stripIf _
  system blocks given := by
    have prompt : (Outgoing.ofRequest request call options).payload.system =
        let prompt := { request with messages := request.inboundMessages }.systemPrompt
        if prompt.isEmpty then none else some prompt := by
      rcases Outgoing.repaired_frame request with ⟨extra, toolChoice, frame⟩
      simp only [Outgoing.ofRequest, frame]
      rfl
    rw [prompt] at given
    dsimp only at given
    split at given
    · cases given
    · cases given
      exact wellFormed.systemPrompt _ wellFormed.inboundMessages
  tools tools given := by
    rw [Outgoing.tools_ofRequest] at given
    dsimp only at given
    split at given
    · cases given
    · cases given
      rw [Outgoing.withCodeExecution]
      split
      · refine List.forall_mem_append.mpr ⟨wellFormed.tools, List.forall_mem_singleton.mpr ?_⟩
        apply ToolDefinition.wellFormed_provided
        exact Object.wellFormed_ofList (by simp [member, wellFormed_string])
      · exact wellFormed.tools
  toolChoice := by
    have repaired : (Outgoing.ofRequest request call options).payload.toolChoice =
        (ToolChoice.repair request.repaired.toolChoice).1 := rfl
    rw [repaired]
    exact ToolChoice.wellFormed_repair wellFormed.repaired.toolChoice
  extra := by
    have passed : (Outgoing.ofRequest request call options).payload.extra =
        (request.repaired.extra.filter fun param => !Outgoing.isDropped options param).erase
          "model" := rfl
    rw [passed]
    exact (wellFormed.repaired.extra.filter _).filter _

end ChatRequest.WellFormed

/-! Requests that were read. -/

namespace Decoder

variable {α : Type} {decode : Decoder α} {property : α → Prop}

theorem Makes.list (makes : decode.Makes property) :
    (Decoder.list decode).Makes fun values => ∀ value ∈ values, property value := by
  intro document values bounded decoded
  cases document with
  | array items =>
      rw [Document.Bounded, Document.itemsBounded_iff] at bounded
      have each := forall₂_of_mapM_eq_ok decoded
      clear decoded
      induction each with
      | nil => exact List.forall_mem_nil _
      | cons made _ induction =>
          rw [List.forall_mem_cons] at bounded ⊢
          exact ⟨makes _ _ bounded.1 made, induction bounded.2⟩
  | _ => cases decoded

theorem Makes.nullable (makes : decode.Makes property) :
    (Decoder.nullable decode).Makes fun value => ∀ present ∈ value, property present := by
  intro document value bounded decoded present given
  rw [Option.mem_def.mp given] at decoded
  exact makes document present bounded (ok_of_nullable decoded)

theorem Makes.optional (makes : decode.Makes property) (name : String) :
    (Record.optional name decode).Passes Document.Bounded fun value =>
      ∀ present ∈ value, property present := by
  refine Record.passes_field makes.nullable ?_ nofun
  intro value absent
  cases absent
  nofun

theorem Makes.tagged {expected : String} {tag : Decoder α} {β : Type} {body : α → Decoder β}
    {property : β → Prop} (makes : ∀ selected, (body selected).Makes property) :
    (Decoder.tagged expected tag body).Makes property := by
  intro document value bounded decoded
  cases document with
  | object members =>
      rw [Document.Bounded, Document.membersBounded_iff] at bounded
      rw [Decoder.tagged] at decoded
      dsimp only at decoded
      split at decoded
      · cases decoded
      · refine makes _ _ value ?_ decoded
        rw [Document.Bounded, Document.membersBounded_iff]
        exact fun member inside => bounded member (List.mem_filter.mp inside).1
  | array items =>
      cases items with
      | nil => cases decoded
      | cons first rest =>
          rw [Decoder.tagged] at decoded
          split at decoded
          · cases decoded
          · split at decoded
            · cases decoded
            · exact makes _ (.array rest) value bounded.2 decoded
  | _ => cases decoded

theorem Makes.ofJson {build : Json → α} (makes : ∀ value, value.WellFormed → property (build value)) :
    Decoder.Makes (fun document => (json document).map build) property := by
  intro document value bounded decoded
  dsimp only at decoded
  cases given : json document with
  | error fault =>
      rw [given] at decoded
      cases decoded
  | ok held =>
      rw [given] at decoded
      cases decoded
      exact makes held (wellFormed_of_json bounded given)

end Decoder

theorem ContentBlock.wellFormed_of_returns {block : ContentBlock}
    (returns : decode.Returns toJson block) : block.WellFormed := by
  have read := returns.read
  rw [decode, Decoder.json, Document.value?_ofJson returns.wellFormed] at read
  have equal : ofJson block.toJson = block := Except.ok.inj read
  rw [← equal]
  exact wellFormed_ofJson returns.wellFormed

theorem ChatMessage.makes_wellFormed : decode.Makes WellFormed := by
  intro document message bounded decoded
  have settled := settled_of_decode bounded decoded
  refine ⟨fun content given => ?_, fun block inside => ?_, settled.held⟩
  · cases content with
    | text text => trivial
    | blocks blocks =>
        intro block inside
        exact ContentBlock.wellFormed_of_returns (settled.content _ given blocks rfl block inside)
  · rw [sideBlocks] at inside
    cases beside : message.thinkingBlocks with
    | none =>
        rw [beside] at inside
        cases inside
    | some blocks =>
        rw [beside] at inside
        exact ContentBlock.wellFormed_of_returns (settled.beside blocks beside block inside)

theorem SystemBlock.makes_wellFormed : decode.Makes WellFormed := by
  refine Decoder.Makes.tagged fun _ => Record.Passes.makes_decodeBody ?_ _
  refine Record.passes_seq (fun cacheControl => ∀ value ∈ cacheControl, value.WellFormed) ?_
    (Decoder.Makes.optional (fun _ _ => wellFormed_of_json) _)
  refine Record.passes_seq (fun _ => True) ?_ Record.passes_any_field
  exact Record.passes_pure fun _ _ _ held => held

theorem SystemContent.makes_wellFormed :
    decode.Makes fun content => ∀ block ∈ content.toBlocks, block.WellFormed := by
  intro document content bounded decoded
  rw [decode, Decoder.union] at decoded
  split at decoded
  · cases decoded
  · split at decoded
    · next found =>
        cases decoded
        rcases List.exists_of_findSome?_eq_some found with ⟨form, inside, read⟩
        rcases List.mem_pair.mp inside with rfl | rfl
        · rcases Decoder.exists_ok_of_map read with ⟨text, -, rfl⟩
          exact SystemBlock.wellFormed_ofText text
        · rcases Decoder.exists_ok_of_map read with ⟨blocks, made, rfl⟩
          exact SystemBlock.makes_wellFormed.list document blocks bounded made
    · cases decoded

theorem ToolDefinition.makes_wellFormed : decode.Makes WellFormed := by
  intro document tool bounded decoded
  rw [decode] at decoded
  split at decoded
  · next members given =>
      cases decoded
      have held := wellFormed_of_json bounded given
      rw [Json.WellFormed, Json.membersWellFormed_iff] at held
      exact wellFormed_ofObject (Object.wellFormed_ofList held.2)
  · cases decoded
  · cases decoded

theorem ToolChoice.makes_wellFormed : decode.Makes WellFormed :=
  Decoder.Makes.ofJson fun _ => wellFormed_ofJson

theorem ChatRequest.passes_fields :
    fields.Passes Document.Bounded fun build => ∀ extra, extra.WellFormed →
      (build extra).WellFormed := by
  iterate 4 refine Record.passes_seq (fun _ => True) ?_ Record.passes_any_field
  refine Record.passes_seq (fun choice => ∀ given ∈ choice, given.WellFormed) ?_
    (ToolChoice.makes_wellFormed.optional _)
  refine Record.passes_seq (fun tools => ∀ given ∈ tools, ∀ tool ∈ given, tool.WellFormed) ?_
    (ToolDefinition.makes_wellFormed.list.optional _)
  iterate 7 refine Record.passes_seq (fun _ => True) ?_ Record.passes_any_field
  refine Record.passes_seq (fun system => ∀ given ∈ system, ∀ block ∈ SystemContent.toBlocks given,
    block.WellFormed) ?_ (SystemContent.makes_wellFormed.optional _)
  refine Record.passes_seq ChatMessage.AllWellFormed ?_
    (Record.passes_field ChatMessage.makes_wellFormed.list nofun nofun)
  refine Record.passes_seq (fun _ => True) ?_ Record.passes_any_field
  refine Record.passes_pure ?_
  intro model _ messages messagesHeld system systemHeld _ _ _ _ _ _ _ _ _ _ _ _ _ _ tools
    toolsHeld choice choiceHeld _ _ _ _ _ _ _ _ extra extraHeld
  refine ⟨messagesHeld, ?_, ?_, choiceHeld, extraHeld⟩
  · cases system with
    | none => exact List.forall_mem_nil _
    | some content => exact systemHeld content rfl
  · cases tools with
    | none => exact List.forall_mem_nil _
    | some tools => exact toolsHeld tools rfl

/-- A request that was read from a text holds nothing else than well-formed values. -/
theorem ChatRequest.wellFormed_of_read {text : List Char} {request : ChatRequest}
    (decoded : Decoder.ofText decode text = .ok request) : request.WellFormed := by
  rcases Decoder.exists_bounded_of_ofText decoded with ⟨document, bounded, made⟩
  cases document with
  | object members =>
      rw [Document.Bounded, Document.membersBounded_iff] at bounded
      rcases Record.decodeOpen_eq_ok made with ⟨build, others, built, kept, rfl⟩
      apply passes_fields.ofMembers members build bounded built
      exact Record.wellFormed_of_keepOthers bounded kept
  | _ => cases made

end ChatGateway

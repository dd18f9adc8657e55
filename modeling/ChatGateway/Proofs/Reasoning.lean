import ChatGateway.Proofs.Conversation
import ChatGateway.Proofs.Stripping
import ChatGateway.Proofs.Thinking

namespace ChatGateway

/-! Reasoning on the way into a payload. Building the messages moves blocks, and
never makes or loses one that is tagged as reasoning; so beside tools no assistant
message carries any, whether it was stripped before or after the messages were
built. -/

/-- Tagged as reasoning, whether or not the rest of the block was understood. -/
def ContentBlock.TaggedReasoning (block : ContentBlock) : Prop :=
  block.typeName = some "thinking" ∨ block.typeName = some "redacted_thinking"

theorem isReasoning_iff (block : ContentBlock) :
    block.isReasoning = true ↔ block.TaggedReasoning := by
  rw [ContentBlock.isReasoning, Bool.or_eq_true, beq_iff_eq, beq_iff_eq]
  rfl

theorem isReasoning_shown (block : ContentBlock) :
    block.shown.isReasoning = block.isReasoning := by
  cases block <;> rfl

theorem shown_of_isReasoning {block : ContentBlock} (reasoning : block.isReasoning = true) :
    block.shown = block := by
  cases block with
  | imageUrl url detail extra => cases reasoning
  | _ => rfl

theorem ne_plainText_of_isReasoning {block : ContentBlock} (reasoning : block.isReasoning = true)
    (text : String) : block ≠ .plainText text := by
  rintro rfl
  cases reasoning

/-! Blocks of a message and of what it is turned into. -/

theorem mem_of_mem_blocks_ofBlocks {role : Role} {blocks : List ContentBlock}
    {block : ContentBlock}
    (member : block ∈ (ChatMessage.ofContent role (.ofBlocks blocks)).blocks) :
    block ∈ blocks := by
  rcases ofBlocks_cases blocks with ⟨_, written⟩ | ⟨_, _, written⟩ | written
  · rw [written] at member
    cases member
  · rw [written] at member
    cases member
  · rw [written] at member
    exact member

theorem mem_blocks_ofBlocks_of_isReasoning {role : Role} {blocks : List ContentBlock}
    {block : ContentBlock} (member : block ∈ blocks) (reasoning : block.isReasoning = true) :
    block ∈ (ChatMessage.ofContent role (.ofBlocks blocks)).blocks := by
  rcases ofBlocks_cases blocks with ⟨rfl, _⟩ | ⟨text, rfl, _⟩ | written
  · cases member
  · exact absurd (List.mem_singleton.mp member) (ne_plainText_of_isReasoning reasoning text)
  · rw [written]
    exact member

theorem mem_toBlocks_iff (message : ChatMessage) {block : ContentBlock}
    (notText : ∀ text, block ≠ .plainText text) :
    block ∈ MessageContent.toBlocks message.content ↔ block ∈ message.blocks := by
  unfold MessageContent.toBlocks ChatMessage.blocks
  cases message.content with
  | none => rfl
  | some content =>
      cases content with
      | text text => by_cases empty : text = "" <;> simp [empty, notText]
      | blocks blocks => rfl

theorem mem_blocks_foldReasoning_iff (message : ChatMessage) {block : ContentBlock}
    (notText : ∀ text, block ≠ .plainText text) :
    block ∈ message.foldReasoning.blocks ↔ block ∈ message.sideBlocks ∨ block ∈ message.blocks := by
  rw [ChatMessage.foldReasoning]
  split
  · next nothingBeside =>
      rw [List.isEmpty_iff] at nothingBeside
      rw [nothingBeside]
      exact (or_iff_right List.not_mem_nil).symm
  · rw [← mem_toBlocks_iff message notText]
    exact List.mem_append

theorem isReasoning_mem_assistantBlocks_iff {message : ChatMessage} {block : ContentBlock}
    (reasoning : block.isReasoning = true) :
    block ∈ message.assistantBlocks ↔ block ∈ message.sideBlocks ∨ block ∈ message.blocks := by
  simp only [ChatMessage.assistantBlocks, List.mem_append, List.mem_map, withImageSource_eq_shown,
    toBlock_eq_asked]
  constructor
  · rintro ((beside | ⟨part, inContent, rfl⟩) | ⟨call, _, rfl⟩)
    · exact .inl beside
    · rw [isReasoning_shown] at reasoning
      rw [shown_of_isReasoning reasoning]
      have notText := ne_plainText_of_isReasoning reasoning
      exact .inr ((mem_toBlocks_iff message notText).mp inContent)
    · cases reasoning
  · rintro (beside | inContent)
    · exact .inl (.inl beside)
    · have notText := ne_plainText_of_isReasoning reasoning
      exact .inl (.inr ⟨block, (mem_toBlocks_iff message notText).mpr inContent,
        shown_of_isReasoning reasoning⟩)

theorem exists_source_of_mem_genericMessages {messages : List ChatMessage}
    {message : ChatMessage} {block : ContentBlock} (member : message ∈ genericMessages messages)
    (inBlocks : block ∈ message.blocks) :
    ∃ source ∈ messages, ∃ blocks,
      source.expand? = some (message.role, blocks) ∧ block ∈ blocks := by
  rcases List.mem_map.mp member with ⟨turn, turnMember, rfl⟩
  have inTurn : (turn.1, block) ∈ placed turn :=
    mem_placed.mpr ⟨rfl, mem_of_mem_blocks_ofBlocks inBlocks⟩
  have inTurns := List.mem_flatMap.mpr ⟨turn, turnMember, inTurn⟩
  rw [placed_mergeTurns] at inTurns
  rcases List.mem_flatMap.mp inTurns with ⟨added, addedMember, inAdded⟩
  rcases List.mem_filterMap.mp addedMember with ⟨source, sourceMember, expanded⟩
  rcases mem_placed.mp inAdded with ⟨sameRole, inSource⟩
  exact ⟨source, sourceMember, added.2, by rw [expanded]; exact congrArg some (Prod.ext sameRole rfl),
    inSource⟩

theorem mem_parts_iff (message : ChatMessage) {block : ContentBlock}
    (notText : ∀ text, block ≠ .plainText text) :
    block ∈ message.parts ↔ block ∈ message.blocks := by
  unfold ChatMessage.parts ChatMessage.blocks
  cases message.content with
  | none => rfl
  | some content =>
      cases content with
      | text text => simp [notText]
      | blocks blocks => rfl

theorem shown_mem_expansion {source : ChatMessage} {block : ContentBlock}
    (speaks : source.role = .user ∨ source.role = .assistant) (inside : block ∈ source.blocks)
    (notText : ∀ text, block ≠ .plainText text) :
    (source.role, block.shown) ∈ source.expansion := by
  have inParts : block.shown ∈ source.parts.map ContentBlock.shown :=
    List.mem_map_of_mem ((mem_parts_iff source notText).mpr inside)
  rw [ChatMessage.expansion]
  rcases speaks with role | role
  · rw [role]
    exact List.mem_map_of_mem inParts
  · rw [role]
    exact List.mem_map_of_mem (List.mem_append_left _ (List.mem_append_right _ inParts))

theorem exists_generic_of_mem_expansion {messages : List ChatMessage} {source : ChatMessage}
    {role : Role} {block : ContentBlock} (member : source ∈ messages)
    (said : (role, block) ∈ source.expansion) (notText : ∀ text, block ≠ .plainText text) :
    ∃ message ∈ genericMessages messages, message.role = role ∧ block ∈ message.blocks := by
  have visible : ((role, block).2 != ContentBlock.plainText "") = true :=
    bne_iff_ne.mpr (notText "")
  have inChat : (role, block) ∈ withoutEmptyTexts (messages.flatMap ChatMessage.expansion) :=
    List.mem_filter.mpr ⟨List.mem_flatMap.mpr ⟨source, member, said⟩, visible⟩
  rw [← genericMessages_say_expansions] at inChat
  rcases List.mem_flatMap.mp (List.mem_filter.mp inChat).1 with ⟨message, generic, spoken⟩
  rcases List.mem_map.mp spoken with ⟨part, inParts, equal⟩
  cases equal
  exact ⟨message, generic, rfl, (mem_parts_iff message notText).mp inParts⟩

theorem shown_of_typeName_ne {part : ContentBlock} (notImage : part.shown.typeName ≠ some "image") :
    part.shown = part := by
  cases part with
  | imageUrl url detail extra => exact absurd rfl notImage
  | _ => rfl

/-- A block of a type that is not written anew stood in a message of the chat. -/
theorem kept_of_mem_genericMessages {messages : List ChatMessage} {message : ChatMessage}
    {block : ContentBlock} (member : message ∈ genericMessages messages)
    (inside : block ∈ message.blocks)
    (foreign : ∀ type ∈ ["text", "image", "tool_use", "tool_result"],
      block.typeName ≠ some type) :
    ∃ source ∈ messages, source.role = .assistant ∧ block ∈ source.sideBlocks ∨
      block ∈ source.blocks ∧ block.shown = block := by
  have notText (text : String) : block ≠ .plainText text := by
    rintro rfl
    exact foreign "text" (by decide) rfl
  have notImage := foreign "image" (by decide)
  rcases exists_source_of_mem_genericMessages member inside with
    ⟨source, sourceMember, blocks, expanded, inSource⟩
  refine ⟨source, sourceMember, ?_⟩
  rcases expand?_cases expanded with ⟨_, turn⟩ | ⟨assistant, turn⟩ | ⟨_, turn⟩
  · rw [(Prod.mk.inj turn).2, ChatMessage.userBlocks_eq_map_parts] at inSource
    rcases List.mem_map.mp inSource with ⟨part, inContent, rfl⟩
    have same := shown_of_typeName_ne notImage
    rw [same] at notText ⊢
    exact .inr ⟨(mem_parts_iff source notText).mp inContent, same⟩
  · rw [(Prod.mk.inj turn).2, ChatMessage.assistantBlocks, withImageSource_eq_shown,
      List.mem_append, List.mem_append] at inSource
    rcases inSource with (beside | inContent) | called
    · exact .inl ⟨assistant, beside⟩
    · rcases List.mem_map.mp inContent with ⟨part, inTexts, rfl⟩
      have same := shown_of_typeName_ne notImage
      rw [same] at notText ⊢
      exact .inr ⟨(mem_toBlocks_iff source notText).mp inTexts, same⟩
    · rcases List.mem_map.mp called with ⟨call, _, rfl⟩
      exact absurd rfl (foreign "tool_use" (by decide))
  · rw [(Prod.mk.inj turn).2, List.mem_singleton] at inSource
    subst inSource
    exact absurd rfl (foreign "tool_result" (by decide))

/-! What folding and stripping leave of a message. -/

theorem role_foldReasoning (message : ChatMessage) :
    message.foldReasoning.role = message.role := by
  rw [ChatMessage.foldReasoning]
  split <;> rfl

theorem thinkingBlocks_foldReasoning (message : ChatMessage) :
    message.foldReasoning.thinkingBlocks = none := by
  rw [ChatMessage.foldReasoning]
  split <;> rfl

theorem sideBlocks_withoutReasoning_subset (message : ChatMessage) :
    message.withoutReasoning.1.sideBlocks ⊆ message.sideBlocks := by
  rw [ChatMessage.withoutReasoning]
  split
  · exact List.nil_subset _
  · exact List.Subset.refl _

theorem mem_blocks_withoutReasoning_iff (message : ChatMessage) {block : ContentBlock}
    (ordinary : block.isReasoning = false) :
    block ∈ message.withoutReasoning.1.blocks ↔ block ∈ message.blocks := by
  by_cases assistant : message.role = .assistant
  · rw [ChatMessage.blocks_of_stripsTo message.stripsTo_withoutReasoning assistant]
    simp [ordinaryBlocks, ordinary]
  · rw [ChatMessage.withoutReasoning, if_neg assistant]

/-! No reasoning beside tools. -/

/-- The message is not an assistant's, or has no reasoning in or beside its content. -/
def ChatMessage.LacksReasoning (message : ChatMessage) : Prop :=
  message.role = .assistant →
    message.sideBlocks = [] ∧ ∀ block ∈ message.blocks, ¬ block.isReasoning = true

theorem lacksReasoning_of_stripsTo {message stripped : ChatMessage}
    (strips : message.StripsTo stripped) : stripped.LacksReasoning := by
  intro assistant
  rw [ChatMessage.role_of_stripsTo strips] at assistant
  refine ⟨ChatMessage.sideBlocks_of_stripsTo strips assistant, ?_⟩
  intro block member
  rw [ChatMessage.blocks_of_stripsTo strips assistant] at member
  exact not_isReasoning_of_mem_ordinaryBlocks member

theorem lacksReasoning_stripReasoning (messages : List ChatMessage) :
    ∀ message ∈ (stripReasoning messages).1, message.LacksReasoning := by
  intro message member
  rw [stripReasoning_eq] at member
  rcases List.mem_map.mp member with ⟨source, _, rfl⟩
  exact lacksReasoning_of_stripsTo source.stripsTo_withoutReasoning

theorem lacksReasoning_foldReasoning {message : ChatMessage} (lacks : message.LacksReasoning) :
    message.foldReasoning.LacksReasoning := by
  rw [ChatMessage.foldReasoning]
  split
  · intro assistant
    exact ⟨rfl, (lacks assistant).2⟩
  · next beside =>
      intro assistant
      have nothingBeside := (lacks assistant).1
      simp [nothingBeside] at beside

theorem lacksReasoning_genericMessages {messages : List ChatMessage}
    (lacks : ∀ message ∈ messages, message.LacksReasoning) :
    ∀ message ∈ genericMessages messages, message.LacksReasoning := by
  intro message member assistant
  refine ⟨?_, ?_⟩
  · rcases eq_ofContent_of_mem_genericMessages member with ⟨content, equal⟩
    rw [equal]
    rfl
  · intro block inBlocks reasoning
    rcases exists_source_of_mem_genericMessages member inBlocks with
      ⟨source, sourceMember, blocks, expanded, inSource⟩
    rw [assistant] at expanded
    rcases expand?_eq_assistant expanded with ⟨sourceRole, rfl⟩
    have sourceLacks := lacks source sourceMember sourceRole
    rcases (isReasoning_mem_assistantBlocks_iff reasoning).mp inSource with beside | inContent
    · rw [sourceLacks.1] at beside
      cases beside
    · exact sourceLacks.2 block inContent reasoning

theorem lacksReasoning_builtMessages {request : ChatRequest}
    (lacks : ∀ message ∈ request.inboundMessages, message.LacksReasoning) :
    ∀ message ∈ request.builtMessages, message.LacksReasoning := by
  rw [ChatRequest.builtMessages]
  split
  · intro message member
    rcases List.mem_map.mp member with ⟨source, sourceMember, rfl⟩
    exact lacksReasoning_foldReasoning (lacks source (List.mem_filter.mp sourceMember).1)
  · exact lacksReasoning_genericMessages lacks

namespace Outgoing

variable (request : ChatRequest) (call : CallContext) (options : PayloadOptions)

/-- Tools and reasoning exclude each other in a payload, whether the client
declared the tools or one was added for it: thinking is not asked for, and no
assistant message shows any. -/
theorem no_reasoning_beside_tools
    (tools : (ofRequest request call options).payload.toolList ≠ []) :
    (ofRequest request call options).payload.thinking = none ∧
      ∀ message ∈ (ofRequest request call options).payload.messages,
        message.role = .assistant →
          message.sideBlocks = [] ∧ ∀ block ∈ message.blocks, ¬ block.TaggedReasoning := by
  have hasTools : (ofRequest request call options).payload.hasTools = true := by
    rw [← Bool.not_eq_false, hasTools_eq_false_iff]
    exact tools
  refine ⟨thinking_eq_none_of_tools request call options hasTools, ?_⟩
  have lacks : ∀ message ∈ (ofRequest request call options).payload.messages,
      message.LacksReasoning := by
    rw [messages_ofRequest]
    rw [hasTools_ofRequest] at hasTools
    cases declared : request.hasTools with
    | true =>
        -- The client's tools: the messages were stripped before they were built.
        rw [Bool.not_true, Bool.and_false]
        apply lacksReasoning_builtMessages
        rw [ChatRequest.inboundMessages, declared]
        exact lacksReasoning_stripReasoning request.messages
    | false =>
        -- A tool was added for an upload: the built messages are stripped.
        rw [declared, Bool.false_or] at hasTools
        rw [hasTools, Bool.not_false, Bool.and_true]
        exact lacksReasoning_stripReasoning request.builtMessages
  intro message member assistant
  rcases lacks message member assistant with ⟨nothingBeside, nothingInside⟩
  exact ⟨nothingBeside, fun block inBlocks tagged =>
    nothingInside block inBlocks ((isReasoning_iff block).mpr tagged)⟩

def uploadRequest : ChatRequest :=
  .ofMessages "claude-thinking"
    [.ofContent .user (.blocks [.other (.object
        [("file_id", .string "file"), ("type", .string "container_upload")])]),
      { ChatMessage.ofContent .assistant (.blocks
          [.other (.object [("type", .string "redacted_thinking")]), .plainText "seen"]) with
        thinkingBlocks := some [.thinking "weighing" (some "signed") .empty] },
      .ofContent .user (.text "and now")]

theorem no_reasoning_of_uploadRequest :
    let payload := (ofRequest uploadRequest default plainOptions).payload
    payload.toolList ≠ [] ∧ payload.thinking = none ∧
      ∀ message ∈ payload.messages, message.role = .assistant →
        message.sideBlocks = [] ∧ ∀ block ∈ message.blocks, ¬ block.TaggedReasoning := by
  have tools : (ofRequest uploadRequest default plainOptions).payload.toolList ≠ [] := by decide
  exact ⟨tools, no_reasoning_beside_tools uploadRequest default plainOptions tools⟩

end Outgoing

end ChatGateway

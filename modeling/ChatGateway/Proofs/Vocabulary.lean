import ChatGateway.Proofs.Reasoning
import Mathlib.Data.List.Forall2

namespace ChatGateway

/-! Which words of the chat dialect a payload still uses. A generic conversation is
rewritten, and keeps none but an address of an image where it was not looked at. A
structured one is passed on as it came, so its messages keep the roles and the
fields of the chat dialect; only system messages and the reasoning beside the
content are moved. -/

/-- Tagged as the address of an image, whether or not the rest was understood. -/
def ContentBlock.TaggedImageAddress (block : ContentBlock) : Prop :=
  block.typeName = some "image_url"

theorem ne_plainText_of_imageAddress {block : ContentBlock} (tagged : block.TaggedImageAddress)
    (text : String) : block ≠ .plainText text := by
  rintro rfl
  exact absurd (Option.some.inj tagged) (by decide)

theorem isReasoning_eq_false_of_imageAddress {block : ContentBlock}
    (tagged : block.TaggedImageAddress) : block.isReasoning = false := by
  rw [ContentBlock.TaggedImageAddress] at tagged
  rw [ContentBlock.isReasoning, tagged]
  rfl

/-- A message in the words of the Messages dialect alone. -/
structure ChatMessage.SpeaksMessages (message : ChatMessage) : Prop where
  role : message.role = .user ∨ message.role = .assistant
  toolCalls : message.toolCalls = none
  toolCallId : message.toolCallId = none
  thinkingBlocks : message.thinkingBlocks = none
  noImageAddress : ∀ block ∈ message.blocks, ¬ block.TaggedImageAddress

namespace ChatMessage

/-- A message that was passed on, beside the one that was sent. Blocks beside the
content may have been moved into it. -/
structure PassedAs (source sent : ChatMessage) : Prop where
  role : sent.role = source.role
  toolCalls : sent.toolCalls = source.toolCalls
  toolCallId : sent.toolCallId = source.toolCallId
  keepsImages : ∀ block ∈ source.blocks, block.TaggedImageAddress → block ∈ sent.blocks
  addsNothing : ∀ block, block ∈ sent.blocks ∨ block ∈ sent.sideBlocks →
    block.TaggedImageAddress → block ∈ source.blocks ∨ block ∈ source.sideBlocks

theorem PassedAs.refl (message : ChatMessage) : message.PassedAs message :=
  ⟨rfl, rfl, rfl, fun _ member _ => member, fun _ member _ => member⟩

theorem PassedAs.trans {source between sent : ChatMessage} (first : source.PassedAs between)
    (second : between.PassedAs sent) : source.PassedAs sent where
  role := second.role.trans first.role
  toolCalls := second.toolCalls.trans first.toolCalls
  toolCallId := second.toolCallId.trans first.toolCallId
  keepsImages block member tagged :=
    second.keepsImages block (first.keepsImages block member tagged) tagged
  addsNothing block member tagged :=
    first.addsNothing block (second.addsNothing block member tagged) tagged

/-! Each step passes messages on. -/

theorem passedAs_foldReasoning (message : ChatMessage) :
    message.PassedAs message.foldReasoning := by
  have moved (block : ContentBlock) (tagged : block.TaggedImageAddress) :
      block ∈ message.foldReasoning.blocks ↔
        block ∈ message.sideBlocks ∨ block ∈ message.blocks :=
    mem_blocks_foldReasoning_iff message (ne_plainText_of_imageAddress tagged)
  refine ⟨role_foldReasoning message, ?_, ?_, ?_, ?_⟩
  · rw [foldReasoning]
    split <;> rfl
  · rw [foldReasoning]
    split <;> rfl
  · intro block member tagged
    exact (moved block tagged).mpr (.inr member)
  · rintro block (inside | beside) tagged
    · exact ((moved block tagged).mp inside).symm
    · rw [sideBlocks, thinkingBlocks_foldReasoning] at beside
      cases beside

theorem passedAs_withoutReasoning (message : ChatMessage) :
    message.PassedAs message.withoutReasoning.1 := by
  have same (block : ContentBlock) (tagged : block.TaggedImageAddress) :
      block ∈ message.withoutReasoning.1.blocks ↔ block ∈ message.blocks :=
    mem_blocks_withoutReasoning_iff message (isReasoning_eq_false_of_imageAddress tagged)
  refine ⟨role_of_stripsTo message.stripsTo_withoutReasoning, ?_, ?_, ?_, ?_⟩
  · rw [withoutReasoning]
    split <;> rfl
  · rw [withoutReasoning]
    split <;> rfl
  · intro block member tagged
    exact (same block tagged).mpr member
  · rintro block (inside | beside) tagged
    · exact .inl ((same block tagged).mp inside)
    · exact .inr (sideBlocks_withoutReasoning_subset message beside)

def strippedIf (condition : Bool) (message : ChatMessage) : ChatMessage :=
  if condition then message.withoutReasoning.1 else message

theorem passedAs_strippedIf (condition : Bool) (message : ChatMessage) :
    message.PassedAs (message.strippedIf condition) := by
  cases condition with
  | false => exact .refl message
  | true => exact message.passedAs_withoutReasoning

theorem sideBlocks_strippedIf_subset (condition : Bool) (message : ChatMessage) :
    (message.strippedIf condition).sideBlocks ⊆ message.sideBlocks := by
  cases condition with
  | false => exact List.Subset.refl _
  | true => exact sideBlocks_withoutReasoning_subset message

theorem mem_blocks_strippedIf_of_ordinary_iff (condition : Bool) (message : ChatMessage)
    {block : ContentBlock} (ordinary : block.isReasoning = false) :
    block ∈ (message.strippedIf condition).blocks ↔ block ∈ message.blocks := by
  cases condition with
  | false => rfl
  | true => exact mem_blocks_withoutReasoning_iff message ordinary

theorem mem_blocks_strippedIf_iff (condition : Bool) (message : ChatMessage)
    {block : ContentBlock} (tagged : block.TaggedImageAddress) :
    block ∈ (message.strippedIf condition).blocks ↔ block ∈ message.blocks :=
  mem_blocks_strippedIf_of_ordinary_iff condition message
    (isReasoning_eq_false_of_imageAddress tagged)

theorem thinkingBlocks_strippedIf (condition : Bool) {message : ChatMessage}
    (nothing : message.thinkingBlocks = none) :
    (message.strippedIf condition).thinkingBlocks = none := by
  cases condition with
  | false => exact nothing
  | true =>
      rw [strippedIf, if_pos rfl, withoutReasoning]
      split
      · rfl
      · exact nothing

end ChatMessage

/-! In a generic conversation every address that is looked at becomes an image. -/

/-- An address of an image that is left in a generic message stood beside the content
of its message, or was not understood. -/
theorem imageAddress_of_mem_genericMessages {messages : List ChatMessage}
    {message : ChatMessage} {block : ContentBlock} (member : message ∈ genericMessages messages)
    (inside : block ∈ message.blocks) (tagged : block.TaggedImageAddress) :
    ∃ source ∈ messages, source.role = .assistant ∧ block ∈ source.sideBlocks ∨
      block ∈ source.blocks ∧ ∃ value, block = .other value := by
  have foreign : ∀ type ∈ ["text", "image", "tool_use", "tool_result"],
      block.typeName ≠ some type := by
    rw [tagged]
    decide
  rcases kept_of_mem_genericMessages member inside foreign with
    ⟨source, sourceMember, beside | ⟨inContent, same⟩⟩
  · exact ⟨source, sourceMember, .inl beside⟩
  · refine ⟨source, sourceMember, .inr ⟨inContent, ?_⟩⟩
    cases block with
    | other value => exact ⟨value, rfl⟩
    | imageUrl url detail extra => cases same
    | _ => exact absurd (Option.some.inj tagged) (by decide)

namespace Outgoing

theorem stripIf_eq_map (condition : Bool) (messages : List ChatMessage) :
    (stripIf condition messages).1 = messages.map (ChatMessage.strippedIf condition) := by
  cases condition with
  | false => exact (List.map_id' messages).symm
  | true => exact List.map_map

/-- Stripping before and after a structured conversation is built passes it on. -/
theorem passedAs_structuredMessages (early late : Bool) (messages : List ChatMessage) :
    List.Forall₂ ChatMessage.PassedAs (messages.filter (·.role != .system))
      ((structuredMessages (messages.map (ChatMessage.strippedIf early))).map
        (ChatMessage.strippedIf late)) := by
  have sameRole : ((·.role != .system) ∘ ChatMessage.strippedIf early) =
      fun message => message.role != .system := by
    funext message
    rw [Function.comp_apply, (message.passedAs_strippedIf early).role]
  rw [structuredMessages, List.filter_map, sameRole, List.map_map, List.map_map,
    List.forall₂_map_right_iff, List.forall₂_same]
  intro message _
  exact ((message.passedAs_strippedIf early).trans (ChatMessage.passedAs_foldReasoning _)).trans
    (ChatMessage.passedAs_strippedIf late _)

theorem thinkingBlocks_of_mem_structuredMessages {messages : List ChatMessage}
    {message : ChatMessage} (member : message ∈ structuredMessages messages) :
    message.role ≠ .system ∧ message.thinkingBlocks = none := by
  rcases List.mem_map.mp member with ⟨source, sourceMember, rfl⟩
  rw [role_foldReasoning]
  exact ⟨bne_iff_ne.mp (List.mem_filter.mp sourceMember).2, thinkingBlocks_foldReasoning source⟩

theorem fields_of_mem_genericMessages {messages : List ChatMessage} {message : ChatMessage}
    (member : message ∈ genericMessages messages) :
    message.toolCalls = none ∧ message.toolCallId = none ∧ message.thinkingBlocks = none := by
  rcases eq_ofContent_of_mem_genericMessages member with ⟨content, written⟩
  rw [written]
  exact ⟨rfl, rfl, rfl⟩

theorem fields_of_mem_builtMessages {request : ChatRequest} {message : ChatMessage}
    (member : message ∈ request.builtMessages) :
    message.role ≠ .system ∧ message.thinkingBlocks = none := by
  rw [ChatRequest.builtMessages] at member
  split at member
  · exact thinkingBlocks_of_mem_structuredMessages member
  · refine ⟨?_, (fields_of_mem_genericMessages member).2.2⟩
    rcases role_of_mem_genericMessages member with role | role <;> simp [role]

theorem imageAddress_of_mem_genericMessages_stripped {early : Bool} {messages : List ChatMessage}
    {message : ChatMessage} {block : ContentBlock}
    (member : message ∈ genericMessages (messages.map (ChatMessage.strippedIf early)))
    (inside : block ∈ message.blocks) (tagged : block.TaggedImageAddress) :
    ∃ source ∈ messages, source.role = .assistant ∧ block ∈ source.sideBlocks ∨
      block ∈ source.blocks ∧ ∃ value, block = .other value := by
  rcases imageAddress_of_mem_genericMessages member inside tagged with
    ⟨stripped, strippedMember, found⟩
  rcases List.mem_map.mp strippedMember with ⟨source, sourceMember, rfl⟩
  rw [ChatMessage.mem_blocks_strippedIf_iff early source tagged,
    (source.passedAs_strippedIf early).role] at found
  exact ⟨source, sourceMember,
    found.imp_left (And.imp_right (source.sideBlocks_strippedIf_subset early ·))⟩

theorem exists_stripped_messages (request : ChatRequest) (call : CallContext)
    (options : PayloadOptions) :
    ∃ early late : Bool,
      request.inboundMessages = request.messages.map (ChatMessage.strippedIf early) ∧
      (ofRequest request call options).payload.messages =
        request.builtMessages.map (ChatMessage.strippedIf late) :=
  ⟨_, _, stripIf_eq_map _ _, by rw [messages_ofRequest, stripIf_eq_map]⟩

/-- No message of a payload is a system message or has anything beside its content.
A message of a generic conversation speaks the Messages dialect, but for addresses of
images that were not understood or stood beside the content of a message; those of a
structured conversation are passed on one for one, with their roles and tool calls. -/
theorem dialect_of_payload (request : ChatRequest) (call : CallContext)
    (options : PayloadOptions) :
    let sent := (ofRequest request call options).payload.messages
    (∀ message ∈ sent, message.role ≠ .system ∧ message.thinkingBlocks = none) ∧
      (isStructured request.inboundMessages = false → ∀ message ∈ sent,
        (message.role = .user ∨ message.role = .assistant) ∧ message.toolCalls = none ∧
          message.toolCallId = none ∧ ∀ block ∈ message.blocks, block.TaggedImageAddress →
            ∃ source ∈ request.messages,
              source.role = .assistant ∧ block ∈ source.sideBlocks ∨
                block ∈ source.blocks ∧ ∃ value, block = .other value) ∧
      (isStructured request.inboundMessages = true →
        List.Forall₂ ChatMessage.PassedAs (request.messages.filter (·.role != .system)) sent) := by
  rcases exists_stripped_messages request call options with ⟨early, late, inbound, outbound⟩
  rw [outbound]
  refine ⟨?_, ?_, ?_⟩
  · intro message member
    rcases List.mem_map.mp member with ⟨built, builtMember, rfl⟩
    have kept := fields_of_mem_builtMessages builtMember
    rw [(built.passedAs_strippedIf late).role]
    exact ⟨kept.1, ChatMessage.thinkingBlocks_strippedIf late kept.2⟩
  · intro generic message member
    rw [ChatRequest.builtMessages, generic, if_neg Bool.false_ne_true, inbound] at member
    rcases List.mem_map.mp member with ⟨built, builtMember, rfl⟩
    have passed := built.passedAs_strippedIf late
    have fields := fields_of_mem_genericMessages builtMember
    rw [passed.role, passed.toolCalls, passed.toolCallId]
    refine ⟨role_of_mem_genericMessages builtMember, fields.1, fields.2.1, ?_⟩
    intro block inside tagged
    rw [ChatMessage.mem_blocks_strippedIf_iff late built tagged] at inside
    exact imageAddress_of_mem_genericMessages_stripped builtMember inside tagged
  · intro structured
    rw [ChatRequest.builtMessages, structured, if_pos rfl, inbound]
    exact passedAs_structuredMessages early late request.messages

def mixedRequest : ChatRequest :=
  .ofMessages "claude"
    [.ofContent .user (.blocks [.imageUrl "https://example.com/a.png" none .empty]),
      { ChatMessage.ofContent .assistant (.blocks [.toolUse "call_1" "f" (.object []) .empty]) with
        toolCalls := some [⟨"call_1", "function", "f", "{}"⟩] },
      { ChatMessage.ofContent .tool (.text "fine") with toolCallId := some "call_1" }]

/-- A conversation in the chat dialect whose images are not looked at: the first has no
object as its address, the second stands beside the content. -/
def overlookedRequest : ChatRequest :=
  .ofMessages "claude"
    [.ofContent .user (.blocks [.other (.ofMembers
        [("type", .string "image_url"), ("image_url", .string "https://example.com/a.png")])]),
      { ChatMessage.ofContent .assistant (.text "ok") with
        thinkingBlocks := some [.imageUrl "https://example.com/cat.jpg" none .empty] }]

theorem dialect_of_mixedRequest :
    (isStructured mixedRequest.inboundMessages = true ∧
      List.Forall₂ ChatMessage.PassedAs mixedRequest.messages
        (ofRequest mixedRequest default plainOptions).payload.messages) ∧
      isStructured overlookedRequest.inboundMessages = false ∧
        ∀ message ∈ (ofRequest overlookedRequest default plainOptions).payload.messages,
          message.role = .user ∨ message.role = .assistant := by
  have structured : isStructured mixedRequest.inboundMessages = true := by decide
  have generic : isStructured overlookedRequest.inboundMessages = false := by decide
  refine ⟨⟨structured, ?_⟩, generic, ?_⟩
  · exact (dialect_of_payload mixedRequest default plainOptions).2.2 structured
  · intro message member
    exact ((dialect_of_payload overlookedRequest default plainOptions).2.1 generic message member).1

/-- Words of the chat dialect are left in conversations of both kinds. -/
theorem chat_dialect_of_mixedRequest :
    let mixed := (ofRequest mixedRequest default plainOptions).payload.messages
    let overlooked := (ofRequest overlookedRequest default plainOptions).payload.messages
    (¬ ∀ message ∈ mixed, message.SpeaksMessages) ∧
      (∃ message ∈ mixed, ∃ block ∈ message.blocks, block.TaggedImageAddress) ∧
      (∃ message ∈ mixed, message.toolCalls ≠ none) ∧
      (∃ message ∈ mixed, message.role = .tool ∧ message.toolCallId = some "call_1") ∧
      isStructured overlookedRequest.inboundMessages = false ∧
      ∀ message ∈ overlooked, ∃ block ∈ message.blocks, block.TaggedImageAddress := by
  have passed : (ofRequest mixedRequest default plainOptions).payload.messages =
      mixedRequest.messages := by decide
  have generic : isStructured overlookedRequest.inboundMessages = false := by decide
  rw [passed]
  refine ⟨?_, ?_, ?_, ?_, generic, ?_⟩
  · intro speaks
    cases (speaks _ (List.getLast_mem (List.cons_ne_nil _ _))).toolCallId
  · exact ⟨_, .head _, _, .head _, rfl⟩
  · exact ⟨_, .tail _ (.head _), nofun⟩
  · exact ⟨_, .tail _ (.tail _ (.head _)), rfl, rfl⟩
  · have left : (ofRequest overlookedRequest default plainOptions).payload.messages.all
        (·.blocks.any (·.typeName == some "image_url")) = true := by decide
    intro message member
    rcases List.any_eq_true.mp (List.all_eq_true.mp left message member) with
      ⟨block, inside, tagged⟩
    exact ⟨block, inside, eq_of_beq tagged⟩

end Outgoing

end ChatGateway

import ChatGateway.Proofs.Lifting
import ChatGateway.Proofs.Vocabulary

namespace ChatGateway

/-! Messages built from built messages. A generic message is expanded to a turn that is
written as the same message, turns that alternate are not joined, and nothing is left that
could be lifted; so a built conversation is a fixed point, unless an address of an image
came into it unseen, beside the content of a message of the assistant. -/

def ContentBlock.IsImageAddress (block : ContentBlock) : Prop :=
  ∃ address detail extra, block = .imageUrl address detail extra

theorem shown_eq_self_iff (block : ContentBlock) :
    block.shown = block ↔ ¬ block.IsImageAddress := by
  cases block with
  | imageUrl address detail extra => exact iff_of_false nofun fun none => none ⟨_, _, _, rfl⟩
  | _ => exact iff_of_true rfl nofun

theorem map_eq_self_iff {α : Type} {change : α → α} {values : List α} :
    values.map change = values ↔ ∀ value ∈ values, change value = value := by
  have pointwise := List.map_eq_map_iff (f := change) (l := values) (g := id)
  rwa [List.map_id] at pointwise

/-! One message, expanded and written again. -/

def MessageContent.shown : MessageContent → MessageContent
  | .text content => .text content
  | .blocks content => .blocks (content.map ContentBlock.shown)

def ChatMessage.shown (message : ChatMessage) : ChatMessage :=
  { message with content := message.content.map MessageContent.shown }

theorem ofBlocks_map_shown (blocks : List ContentBlock) :
    MessageContent.ofBlocks (blocks.map ContentBlock.shown) =
      (MessageContent.ofBlocks blocks).shown := by
  rcases ofBlocks_cases blocks with ⟨rfl, _⟩ | ⟨text, rfl, _⟩ | written
  · rfl
  · rfl
  · rw [written]
    rcases ofBlocks_cases (blocks.map ContentBlock.shown) with
      ⟨empty, _⟩ | ⟨text, lone, _⟩ | shownWritten
    · rw [List.map_eq_nil_iff] at empty
      rw [empty] at written
      cases written
    · rcases List.map_eq_singleton_iff.mp lone with ⟨block, rfl, isText⟩
      cases block with
      | text content extra =>
          cases isText
          cases written
      | _ => cases isText
    · exact shownWritten

theorem shown_eq_self_of_message_iff (message : ChatMessage) :
    message.shown = message ↔ ∀ block ∈ message.blocks, ¬ block.IsImageAddress := by
  rcases message with ⟨role, content, toolCalls, toolCallId, name, thinkingBlocks, extra⟩
  unfold ChatMessage.shown ChatMessage.blocks
  cases content with
  | none => simp
  | some content =>
      cases content with
      | text content => simp [MessageContent.shown]
      | blocks content =>
          simp only [Option.map_some, MessageContent.shown, ChatMessage.mk.injEq, Option.some.injEq,
            MessageContent.blocks.injEq, true_and, and_true, ← shown_eq_self_iff]
          exact map_eq_self_iff

namespace ChatMessage

theorem ofBlocks_userBlocks (role : Role) (blocks : List ContentBlock) :
    MessageContent.ofBlocks (ofContent role (.ofBlocks blocks)).userBlocks =
      (MessageContent.ofBlocks blocks).shown := by
  rcases ofBlocks_cases blocks with ⟨rfl, written⟩ | ⟨text, rfl, written⟩ | written
  · rw [written]
    rfl
  · rw [written]
    rfl
  · rw [← ofBlocks_map_shown, userBlocks_eq_map_parts, written]
    rfl

theorem ofBlocks_assistantBlocks (role : Role) (blocks : List ContentBlock) :
    MessageContent.ofBlocks (ofContent role (.ofBlocks blocks)).assistantBlocks =
      (MessageContent.ofBlocks blocks).shown := by
  have expanded : (ofContent role (.ofBlocks blocks)).assistantBlocks =
      (MessageContent.toBlocks (some (.ofBlocks blocks))).map ContentBlock.shown := by
    rw [assistantBlocks, withImageSource_eq_shown]
    exact List.append_nil _
  rw [expanded, ofBlocks_map_shown]
  rcases ofBlocks_cases blocks with ⟨rfl, written⟩ | ⟨text, rfl, written⟩ | written
  · rfl
  · by_cases empty : text = ""
    · subst empty
      rfl
    · have block : MessageContent.toBlocks (some (.text text)) = [.plainText text] := if_neg empty
      rw [written, block]
      rfl
  · rw [written]
    exact congrArg _ written

end ChatMessage

/-! All messages. -/

/-- Messages in the form in which turns are written: of users and assistants that take turns,
with nothing but a content, which is a text where a text is enough. -/
structure WrittenTurns (messages : List ChatMessage) : Prop where
  written : ∀ message ∈ messages, (message.role = .user ∨ message.role = .assistant) ∧
    ∃ blocks, message = .ofContent message.role (.ofBlocks blocks)
  alternate : messages.IsChain (·.role ≠ ·.role)

theorem writtenTurns_genericMessages (messages : List ChatMessage) :
    WrittenTurns (genericMessages messages) where
  written message member := by
    refine ⟨role_of_mem_genericMessages member, ?_⟩
    rcases List.mem_map.mp member with ⟨turn, _, rfl⟩
    exact ⟨turn.2, rfl⟩
  alternate := isChain_genericMessages messages

theorem exists_turn_of_written {role : Role} (speaks : role = .user ∨ role = .assistant)
    (blocks : List ContentBlock) :
    ∃ turn : Role × List ContentBlock, turn.1 = role ∧
      (ChatMessage.ofContent role (.ofBlocks blocks)).expand? = some turn ∧
      ChatMessage.ofContent turn.1 (.ofBlocks turn.2) =
        (ChatMessage.ofContent role (.ofBlocks blocks)).shown := by
  rcases speaks with rfl | rfl
  · refine ⟨(.user, _), rfl, rfl, ?_⟩
    exact congrArg _ (ChatMessage.ofBlocks_userBlocks .user blocks)
  · refine ⟨(.assistant, _), rfl, rfl, ?_⟩
    exact congrArg _ (ChatMessage.ofBlocks_assistantBlocks .assistant blocks)

theorem turns_of_written {messages : List ChatMessage}
    (written : ∀ message ∈ messages, (message.role = .user ∨ message.role = .assistant) ∧
      ∃ blocks, message = .ofContent message.role (.ofBlocks blocks)) :
    (messages.filterMap ChatMessage.expand?).map Prod.fst = messages.map ChatMessage.role ∧
      (messages.filterMap ChatMessage.expand?).map
          (fun turn => ChatMessage.ofContent turn.1 (.ofBlocks turn.2)) =
        messages.map ChatMessage.shown := by
  induction messages with
  | nil => exact ⟨rfl, rfl⟩
  | cons message messages induction =>
      rw [List.forall_mem_cons] at written
      rcases written with ⟨⟨speaks, blocks, same⟩, others⟩
      rcases exists_turn_of_written speaks blocks with ⟨turn, sameRole, expanded, rewritten⟩
      rw [← same] at expanded rewritten
      have rest := induction others
      rw [List.filterMap_cons_some expanded, List.map_cons, List.map_cons, List.map_cons,
        List.map_cons, rest.1, rest.2, sameRole]
      rw [sameRole] at rewritten
      rw [rewritten]
      exact ⟨rfl, rfl⟩

/-- The turns of messages in written form are not joined, so that building messages from
them does no more than to show the images that are left. -/
theorem WrittenTurns.genericMessages_eq {messages : List ChatMessage}
    (turns : WrittenTurns messages) :
    genericMessages messages = messages.map ChatMessage.shown := by
  rcases turns_of_written turns.written with ⟨sameRoles, rewritten⟩
  have alternate : (messages.filterMap ChatMessage.expand?).IsChain (·.1 ≠ ·.1) := by
    have roles : (messages.map ChatMessage.role).IsChain (· ≠ ·) :=
      (List.isChain_map _).mpr turns.alternate
    rw [← sameRoles] at roles
    exact (List.isChain_map _).mp roles
  rw [genericMessages, mergeTurns_of_isChain alternate]
  exact rewritten

theorem WrittenTurns.genericMessages_eq_self_iff {messages : List ChatMessage}
    (turns : WrittenTurns messages) :
    genericMessages messages = messages ↔
      ∀ message ∈ messages, ∀ block ∈ message.blocks, ¬ block.IsImageAddress := by
  simp only [turns.genericMessages_eq, map_eq_self_iff, shown_eq_self_of_message_iff]

/-! Addresses that are left. -/

theorem ContentBlock.IsImageAddress.tagged {block : ContentBlock} (address : block.IsImageAddress) :
    block.TaggedImageAddress := by
  rcases address with ⟨_, _, _, rfl⟩
  rfl

theorem noImageAddress_genericMessages_iff (messages : List ChatMessage) :
    (∀ message ∈ genericMessages messages, ∀ block ∈ message.blocks, ¬ block.IsImageAddress) ↔
      ∀ message ∈ messages, message.role = .assistant →
        ∀ block ∈ message.sideBlocks, ¬ block.IsImageAddress := by
  constructor
  · intro none source member assistant block beside address
    have said : (.assistant, block) ∈ source.expansion := by
      rw [ChatMessage.expansion, assistant]
      exact List.mem_map_of_mem (List.mem_append_left _ (List.mem_append_left _ beside))
    rcases exists_generic_of_mem_expansion member said
        (ne_plainText_of_imageAddress address.tagged) with ⟨message, generic, _, inside⟩
    exact none message generic block inside address
  · intro none message generic block inside address
    rcases imageAddress_of_mem_genericMessages generic inside address.tagged with
      ⟨source, member, ⟨assistant, beside⟩ | ⟨_, value, kept⟩⟩
    · exact none source member assistant block beside address
    · rcases address with ⟨_, _, _, understood⟩
      cases understood.symm.trans kept

/-! The payload. -/

theorem systemBlocks_genericMessages (messages : List ChatMessage) :
    (genericMessages messages).flatMap ChatMessage.systemBlocks = [] := by
  rw [List.flatMap_eq_nil_iff]
  intro message member
  exact ChatMessage.systemBlocks_of_role_ne
    (ne_system_of_speaks (role_of_mem_genericMessages member))

theorem toBlocks_system_ofRequest (request : ChatRequest) (structured : Bool)
    (defaults : PayloadDefaults) :
    (((Payload.ofRequest request structured defaults).system.map SystemContent.blocks).map
      SystemContent.toBlocks).getD [] = request.systemPrompt := by
  have prompt := (Payload.prompts_ofRequest request structured defaults).system
  cases system : (Payload.ofRequest request structured defaults).system with
  | none => rw [← prompt, system]; rfl
  | some blocks => rw [← prompt, system]; rfl

/-- The messages that are built of the messages of a payload are the same, unless an assistant
of the chat had an address of an image beside its content. Nothing is lifted from them, and
nothing else changes in a payload that is built anew of its own messages and its own prompt. -/
theorem rebuilt_of_built (request : ChatRequest) (defaults : PayloadDefaults) :
    let built := Payload.ofRequest request false defaults
    let again := Payload.ofRequest
      { request with messages := built.messages, system := built.system.map .blocks } false defaults
    (again.messages = built.messages ↔ ∀ message ∈ request.messages, message.role = .assistant →
      ∀ block ∈ message.sideBlocks, ¬ block.IsImageAddress) ∧
      built.messages.flatMap ChatMessage.systemBlocks = [] ∧
      again = { built with messages := again.messages } := by
  intro built again
  have nothingLifted := systemBlocks_genericMessages request.messages
  refine ⟨?_, nothingLifted, ?_⟩
  · have fixed := (writtenTurns_genericMessages request.messages).genericMessages_eq_self_iff
    exact fixed.trans (noImageAddress_genericMessages_iff request.messages)
  · have prompt : ChatRequest.systemPrompt
        { request with messages := built.messages, system := built.system.map .blocks } =
        request.systemPrompt := by
      rw [ChatRequest.systemPrompt, toBlocks_system_ofRequest]
      exact (congrArg _ nothingLifted).trans (List.append_nil _)
    simp only [again, Payload.ofRequest, prompt]
    rfl

/-- Of two addresses that an assistant sends, the one in the content is shown at once, and the
one beside it when the messages are built anew. -/
example :
    let request := ChatRequest.ofMessages "claude"
      [{ ChatMessage.ofContent .assistant (.blocks [.imageUrl "a" none .empty]) with
        thinkingBlocks := some [.imageUrl "b" none .empty] }]
    let image (address : String) : ContentBlock := .other (.object
      [("source", .object [("type", .string "url"), ("url", .string address)]),
        ("type", .string "image")])
    genericMessages request.messages =
        [.ofContent .assistant (.blocks [.imageUrl "b" none .empty, image "a"])] ∧
      genericMessages (genericMessages request.messages) =
        [.ofContent .assistant (.blocks [image "b", image "a"])] := by
  decide

end ChatGateway

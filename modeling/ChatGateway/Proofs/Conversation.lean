import ChatGateway.Proofs.Turns

namespace ChatGateway

/-! What a generic conversation says. A list of messages is read as one sequence
of blocks, each under a role. The messages of a payload say what the messages of
the chat were to say, in their order, and alternate between two roles. Plain
texts without a character say nothing, and come and go with the written form of
a content. -/

/-- A block as the Messages dialect has it: an image in place of its address. -/
def ContentBlock.shown : ContentBlock → ContentBlock
  | .imageUrl address _ _ =>
      .other (.object [("source", imageSource address), ("type", .string "image")])
  | block => block

/-- The block that asks for a tool. Arguments that are no text of an object count
as the empty object. -/
def ToolCall.asked (call : ToolCall) : ContentBlock :=
  .toolUse call.id call.name
    (((Json.read call.arguments).filter Json.isObject).getD (.object [])) .empty

namespace ChatMessage

def parts (message : ChatMessage) : List ContentBlock :=
  match message.content with
  | some (.text content) => [.plainText content]
  | some (.blocks content) => content
  | none => []

def spoken (message : ChatMessage) : List (Role × ContentBlock) :=
  message.parts.map (message.role, ·)

/-- The result of a tool as the value that its block holds. -/
def answered (message : ChatMessage) : Option Json :=
  message.content.map fun
    | .text content => .string content
    | .blocks content => .array (content.map fun block => block.shown.toJson)

/-- What a message of the chat is to say in the payload. -/
def expansion (message : ChatMessage) : List (Role × ContentBlock) :=
  match message.role with
  | .system => []
  | .user => (message.parts.map ContentBlock.shown).map (.user, ·)
  | .assistant =>
      (message.sideBlocks ++ message.parts.map ContentBlock.shown ++
        (message.toolCalls.getD []).map ToolCall.asked).map (.assistant, ·)
  | .tool => [(.user, .toolResult (message.toolCallId.getD "") message.answered none .empty)]

end ChatMessage

def withoutEmptyTexts (said : List (Role × ContentBlock)) : List (Role × ContentBlock) :=
  said.filter (·.2 != .plainText "")

@[simp] theorem withoutEmptyTexts_append (first second : List (Role × ContentBlock)) :
    withoutEmptyTexts (first ++ second) = withoutEmptyTexts first ++ withoutEmptyTexts second :=
  List.filter_append ..

theorem withoutEmptyTexts_flatMap {α : Type} (items : List α)
    (say : α → List (Role × ContentBlock)) :
    withoutEmptyTexts (items.flatMap say) = items.flatMap (withoutEmptyTexts ∘ say) :=
  List.filter_flatMap ..

@[simp] theorem withoutEmptyTexts_emptyText (role : Role) :
    withoutEmptyTexts [(role, .plainText "")] = [] := by
  simp [withoutEmptyTexts]

/-! The written forms of blocks, calls and results are those of the payload. -/

@[simp] theorem withImageSource_eq_shown :
    ContentBlock.withImageSource = ContentBlock.shown := by
  funext block
  cases block <;> rfl

@[simp] theorem toBlock_eq_asked : ToolCall.toBlock = ToolCall.asked := by
  funext call
  have sameInput : call.input =
      ((Json.read call.arguments).filter Json.isObject).getD (.object []) := by
    rw [ToolCall.input]
    split
    · next members read => rw [read]; rfl
    · next noObject =>
        cases read : Json.read call.arguments with
        | none => rfl
        | some value =>
            cases value with
            | object members => exact absurd read (noObject members)
            | _ => rfl
  rw [ToolCall.toBlock, ToolCall.asked, sameInput]

namespace ChatMessage

theorem userBlocks_eq_map_parts (message : ChatMessage) :
    message.userBlocks = message.parts.map ContentBlock.shown := by
  rw [userBlocks, parts]
  cases message.content with
  | none => rfl
  | some content =>
      cases content with
      | text text => rfl
      | blocks blocks => simp

theorem toolResult_eq_answered (message : ChatMessage) :
    message.toolResult = .toolResult (message.toolCallId.getD "") message.answered none .empty := by
  rw [toolResult, answered]
  cases message.content with
  | none => rfl
  | some content =>
      cases content with
      | text content => rfl
      | blocks content => simp [ContentBlock.listToJson, ContentBlock.writeList, ContentBlock.toJson]

theorem assistantBlocks_says_expansion (message : ChatMessage) :
    withoutEmptyTexts (message.assistantBlocks.map (.assistant, ·)) =
      withoutEmptyTexts ((message.sideBlocks ++ message.parts.map ContentBlock.shown ++
        (message.toolCalls.getD []).map ToolCall.asked).map (.assistant, ·)) := by
  have sameContent :
      withoutEmptyTexts (((MessageContent.toBlocks message.content).map
        ContentBlock.withImageSource).map (Role.assistant, ·)) =
      withoutEmptyTexts ((message.parts.map ContentBlock.shown).map (Role.assistant, ·)) := by
    unfold MessageContent.toBlocks parts
    cases message.content with
    | none => rfl
    | some content =>
        cases content with
        | text text =>
            by_cases empty : text = ""
            · subst empty
              rfl
            · simp [empty]
        | blocks blocks => simp
  rw [assistantBlocks]
  simp only [List.map_append, withoutEmptyTexts_append, sameContent]
  simp

theorem expand?_says_expansion (message : ChatMessage) :
    withoutEmptyTexts (message.expand?.toList.flatMap placed) =
      withoutEmptyTexts message.expansion := by
  rw [expand?, expansion]
  cases message.role with
  | system => rfl
  | user => simp [placed, userBlocks_eq_map_parts]
  | assistant => simpa [placed] using message.assistantBlocks_says_expansion
  | tool => simp [placed, toolResult_eq_answered]

end ChatMessage

theorem ofBlocks_cases (blocks : List ContentBlock) :
    (blocks = [] ∧ MessageContent.ofBlocks blocks = .text "") ∨
    (∃ text, blocks = [.plainText text] ∧ MessageContent.ofBlocks blocks = .text text) ∨
    MessageContent.ofBlocks blocks = .blocks blocks := by
  unfold MessageContent.ofBlocks
  split
  · exact .inl ⟨rfl, rfl⟩
  · next text extra =>
      split
      · next isEmpty =>
          have noMembers : extra = .empty := by
            rcases extra with ⟨members, ascending⟩
            simpa [Object.isEmpty, Object.empty] using isEmpty
          exact .inr (.inl ⟨text, by rw [noMembers]; rfl, rfl⟩)
      · exact .inr (.inr rfl)
  · exact .inr (.inr rfl)

theorem spoken_ofBlocks (role : Role) (blocks : List ContentBlock) :
    withoutEmptyTexts (ChatMessage.ofContent role (.ofBlocks blocks)).spoken =
      withoutEmptyTexts (placed (role, blocks)) := by
  rcases ofBlocks_cases blocks with ⟨rfl, written⟩ | ⟨text, rfl, written⟩ | written
  · rw [written]
    exact withoutEmptyTexts_emptyText role
  · rw [written]
    rfl
  · rw [written]
    rfl

theorem genericMessages_say_expansions (messages : List ChatMessage) :
    withoutEmptyTexts ((genericMessages messages).flatMap ChatMessage.spoken) =
      withoutEmptyTexts (messages.flatMap ChatMessage.expansion) := by
  let turns := messages.filterMap ChatMessage.expand?
  calc
    withoutEmptyTexts ((genericMessages messages).flatMap ChatMessage.spoken) =
        withoutEmptyTexts ((mergeTurns turns).flatMap placed) := by
      rw [genericMessages, List.flatMap_map, withoutEmptyTexts_flatMap, withoutEmptyTexts_flatMap]
      exact List.flatMap_congr fun turn _ => spoken_ofBlocks turn.1 turn.2
    _ = withoutEmptyTexts (turns.flatMap placed) := by
      rw [placed_mergeTurns]
    _ = withoutEmptyTexts (messages.flatMap fun message =>
          message.expand?.toList.flatMap placed) := by
      rw [← List.flatMap_assoc]
      congr 2
      exact List.filterMap_eq_flatMap_toList ..
    _ = withoutEmptyTexts (messages.flatMap ChatMessage.expansion) := by
      rw [withoutEmptyTexts_flatMap, withoutEmptyTexts_flatMap]
      exact List.flatMap_congr fun message _ => message.expand?_says_expansion

/-- A lifted system message does not keep its neighbours apart. -/
example :
    genericMessages [.ofContent .user (.text "a"), .ofContent .system (.text "s"),
        .ofContent .user (.text "b")] =
      [.ofContent .user (.blocks [.plainText "a", .plainText "b"])] := rfl

theorem isChain_genericMessages (messages : List ChatMessage) :
    (genericMessages messages).IsChain (·.role ≠ ·.role) := by
  rw [genericMessages, List.isChain_map]
  exact isChain_mergeTurns _

/-- What a message can add: a turn of the user for users and tools, and one of the
assistant for assistants. -/
theorem expand?_cases {message : ChatMessage} {turn : Role × List ContentBlock}
    (expanded : message.expand? = some turn) :
    (message.role = .user ∧ turn = (.user, message.userBlocks)) ∨
    (message.role = .assistant ∧ turn = (.assistant, message.assistantBlocks)) ∨
    (message.role = .tool ∧ turn = (.user, [message.toolResult])) := by
  cases role : message.role with
  | system =>
      simp only [ChatMessage.expand?, role] at expanded
      cases expanded
  | user =>
      simp only [ChatMessage.expand?, role] at expanded
      exact .inl ⟨rfl, (Option.some.inj expanded).symm⟩
  | assistant =>
      simp only [ChatMessage.expand?, role] at expanded
      exact .inr (.inl ⟨rfl, (Option.some.inj expanded).symm⟩)
  | tool =>
      simp only [ChatMessage.expand?, role] at expanded
      exact .inr (.inr ⟨rfl, (Option.some.inj expanded).symm⟩)

theorem expand?_role {message : ChatMessage} {turn : Role × List ContentBlock}
    (expanded : message.expand? = some turn) : turn.1 = .user ∨ turn.1 = .assistant := by
  rcases expand?_cases expanded with ⟨_, rfl⟩ | ⟨_, rfl⟩ | ⟨_, rfl⟩
  · exact .inl rfl
  · exact .inr rfl
  · exact .inl rfl

theorem expand?_eq_assistant {message : ChatMessage} {blocks : List ContentBlock}
    (expanded : message.expand? = some (.assistant, blocks)) :
    message.role = .assistant ∧ blocks = message.assistantBlocks := by
  rcases expand?_cases expanded with ⟨_, equal⟩ | ⟨role, equal⟩ | ⟨_, equal⟩
  · cases equal
  · cases equal
    exact ⟨role, rfl⟩
  · cases equal

theorem ne_system_of_speaks {role : Role} (speaks : role = .user ∨ role = .assistant) :
    role ≠ .system := by
  rcases speaks with rfl | rfl <;> decide

theorem role_of_mem_genericMessages {messages : List ChatMessage} {message : ChatMessage}
    (member : message ∈ genericMessages messages) :
    message.role = .user ∨ message.role = .assistant := by
  rcases List.mem_map.mp member with ⟨turn, turnMember, rfl⟩
  rcases exists_role_of_mem_mergeTurns turnMember with ⟨source, sourceMember, sameRole⟩
  rcases List.mem_filterMap.mp sourceMember with ⟨inbound, _, expanded⟩
  have spokenRole := expand?_role expanded
  rwa [sameRole] at spokenRole

theorem eq_ofContent_of_mem_genericMessages {messages : List ChatMessage}
    {message : ChatMessage} (member : message ∈ genericMessages messages) :
    ∃ content, message = .ofContent message.role content := by
  rcases List.mem_map.mp member with ⟨turn, _, rfl⟩
  exact ⟨.ofBlocks turn.2, rfl⟩

/-- A generic conversation is sent whole: in messages of users and assistants
that hold a role and a content only and take turns, with the blocks that the
messages of the chat are to say, in order. -/
theorem generic_messages_alternate_and_say_expansions (request : ChatRequest)
    (defaults : PayloadDefaults) :
    let sent := (Payload.ofRequest request false defaults).messages
    (∀ message ∈ sent, (message.role = .user ∨ message.role = .assistant) ∧
      ∃ content, message = .ofContent message.role content) ∧
    sent.IsChain (·.role ≠ ·.role) ∧
    withoutEmptyTexts (sent.flatMap ChatMessage.spoken) =
      withoutEmptyTexts (request.messages.flatMap ChatMessage.expansion) := by
  intro sent
  have generic : sent = genericMessages request.messages := rfl
  rw [generic]
  refine ⟨?_, isChain_genericMessages _, genericMessages_say_expansions _⟩
  intro message member
  exact ⟨role_of_mem_genericMessages member, eq_ofContent_of_mem_genericMessages member⟩

end ChatGateway

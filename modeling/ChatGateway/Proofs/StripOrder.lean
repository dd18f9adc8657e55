import ChatGateway.Proofs.Reasoning

namespace ChatGateway

/-! When messages are stripped. Beside tools that the client declared they are stripped
before they are built, and for a tool that was added they are stripped as they are built.
It comes to the same: the turns are those of the conversation without its reasoning. -/

theorem ordinaryBlocks_map_shown (blocks : List ContentBlock) :
    ordinaryBlocks (blocks.map ContentBlock.shown) =
      (ordinaryBlocks blocks).map ContentBlock.shown := by
  rw [ordinaryBlocks, List.filter_map, ordinaryBlocks]
  congr 2
  funext block
  rw [Function.comp_apply, isReasoning_shown]

theorem ordinaryBlocks_map_asked (calls : List ToolCall) :
    ordinaryBlocks (calls.map ToolCall.asked) = calls.map ToolCall.asked := by
  apply ordinaryBlocks_of_none_tagged
  intro block member
  rcases List.mem_map.mp member with ⟨call, _, rfl⟩
  exact Bool.false_ne_true

theorem toBlocks_of_siftsTo {content left : Option MessageContent}
    (sifts : MessageContent.SiftsTo content left) :
    MessageContent.toBlocks left = ordinaryBlocks (MessageContent.toBlocks content) := by
  cases sifts with
  | absent => rfl
  | text content =>
      by_cases empty : content = ""
      · subst empty
        rfl
      · have block : MessageContent.toBlocks (some (.text content)) = [.plainText content] :=
          if_neg empty
        rw [block]
        rfl
  | emptied emptied => exact emptied.2.symm
  | kept stays => rfl

/-- What stripping leaves of the blocks of a turn. -/
def blocksLeft (role : Role) (blocks : List ContentBlock) : List ContentBlock :=
  if role = .assistant then ordinaryBlocks blocks else blocks

theorem blocksLeft_append (role : Role) (blocks more : List ContentBlock) :
    blocksLeft role (blocks ++ more) = blocksLeft role blocks ++ blocksLeft role more := by
  unfold blocksLeft
  split
  · exact ordinaryBlocks_append blocks more
  · rfl

namespace ChatMessage

def turn (message : ChatMessage) : Role × List ContentBlock :=
  (message.role, message.parts)

theorem assistantBlocks_of_stripsTo {message stripped : ChatMessage}
    (strips : message.StripsTo stripped) (assistant : message.role = .assistant)
    (reasoned : ∀ block ∈ message.sideBlocks, block.isReasoning = true) :
    stripped.assistantBlocks = ordinaryBlocks message.assistantBlocks := by
  cases strips with
  | other other => exact absurd assistant other
  | assistant _ sifts =>
      simp only [assistantBlocks, withImageSource_eq_shown, toBlock_eq_asked,
        ordinaryBlocks_append, ordinaryBlocks_map_shown, ordinaryBlocks_map_asked,
        ordinaryBlocks_of_all_tagged reasoned, toBlocks_of_siftsTo sifts]
      rfl

theorem expand?_of_stripsTo {message stripped : ChatMessage} (strips : message.StripsTo stripped)
    (reasoned : message.role = .assistant →
      ∀ block ∈ message.sideBlocks, block.isReasoning = true) :
    stripped.expand? = message.expand?.map fun turn => (turn.1, blocksLeft turn.1 turn.2) := by
  have assistantCase := assistantBlocks_of_stripsTo strips
  cases strips with
  | other other =>
      rw [expand?]
      cases role : message.role with
      | assistant => exact absurd role other
      | _ => rfl
  | assistant assistant _ =>
      have left := assistantCase assistant (reasoned assistant)
      simp only [expand?, assistant] at left ⊢
      rw [left]
      rfl

theorem systemBlocks_of_stripsTo {message stripped : ChatMessage}
    (strips : message.StripsTo stripped) : stripped.systemBlocks = message.systemBlocks := by
  cases strips with
  | other => rfl
  | assistant assistant _ => simp [systemBlocks, assistant]

theorem parts_ofBlocks (role : Role) {blocks : List ContentBlock} (some : blocks ≠ []) :
    (ofContent role (.ofBlocks blocks)).parts = blocks := by
  rcases ofBlocks_cases blocks with ⟨rfl, _⟩ | ⟨text, rfl, written⟩ | written
  · exact absurd rfl some
  · rw [written]
    rfl
  · rw [written]
    rfl

theorem parts_of_siftsTo_ofBlocks (role : Role) {blocks : List ContentBlock}
    {stripped : ChatMessage}
    (sifts : MessageContent.SiftsTo (some (.ofBlocks blocks)) stripped.content) :
    stripped.parts = (ofContent role (.ofBlocks (ordinaryBlocks blocks))).parts := by
  rw [parts]
  generalize stripped.content = left at sifts
  rcases ofBlocks_cases blocks with ⟨rfl, written⟩ | ⟨text, rfl, written⟩ | written
  · rw [written] at sifts
    cases sifts
    rfl
  · rw [written] at sifts
    cases sifts
    rfl
  · rw [written] at sifts
    cases sifts with
    | emptied emptied =>
        rw [emptied.2]
        rfl
    | kept stays =>
        -- No block at all would have been written as a text.
        have some : ordinaryBlocks blocks ≠ [] := by
          intro nothing
          have untagged : ∀ block ∈ blocks, ¬ block.isReasoning = true :=
            fun block member tagged => stays ⟨⟨block, member, tagged⟩, nothing⟩
          rw [ordinaryBlocks_of_none_tagged untagged] at nothing
          rw [nothing] at written
          cases written
        exact (parts_ofBlocks role some).symm

theorem turn_of_stripsTo_ofBlocks {role : Role} {blocks : List ContentBlock}
    {stripped : ChatMessage} (strips : (ofContent role (.ofBlocks blocks)).StripsTo stripped) :
    stripped.turn = (ofContent role (.ofBlocks (blocksLeft role blocks))).turn := by
  by_cases assistant : role = .assistant
  · rw [blocksLeft, if_pos assistant]
    cases strips with
    | other other => exact absurd assistant other
    | assistant _ sifts =>
        apply Prod.ext
        · rfl
        · exact parts_of_siftsTo_ofBlocks role sifts
  · rw [blocksLeft, if_neg assistant]
    cases strips with
    | other => rfl
    | assistant isAssistant => exact absurd isAssistant assistant

end ChatMessage

theorem filterMap_expand?_stripReasoning {messages : List ChatMessage}
    (reasoned : ∀ message ∈ messages, message.role = .assistant →
      ∀ block ∈ message.sideBlocks, block.isReasoning = true) :
    (stripReasoning messages).1.filterMap ChatMessage.expand? =
      (messages.filterMap ChatMessage.expand?).map fun turn =>
        (turn.1, blocksLeft turn.1 turn.2) := by
  rw [stripReasoning_eq, List.filterMap_map, List.map_filterMap]
  apply List.filterMap_congr
  intro message member
  exact ChatMessage.expand?_of_stripsTo message.stripsTo_withoutReasoning (reasoned message member)

/-- Stripped first, a conversation is built into the turns that are left when its messages
are stripped as they are built. -/
theorem turns_genericMessages_stripReasoning {messages : List ChatMessage}
    (reasoned : ∀ message ∈ messages, message.role = .assistant →
      ∀ block ∈ message.sideBlocks, block.isReasoning = true) :
    (genericMessages (stripReasoning messages).1).map ChatMessage.turn =
      (stripReasoning (genericMessages messages)).1.map ChatMessage.turn := by
  -- Stripping works on the blocks of a turn one by one, so joined turns can be stripped too.
  rw [genericMessages, filterMap_expand?_stripReasoning reasoned,
    mergeTurns_map blocksLeft_append, stripReasoning_eq, genericMessages, List.map_map,
    List.map_map, List.map_map, List.map_map]
  apply List.map_congr_left
  intro turn _
  exact (ChatMessage.turn_of_stripsTo_ofBlocks (ChatMessage.stripsTo_withoutReasoning _)).symm

def ChatRequest.stripped (request : ChatRequest) : ChatRequest :=
  { request with messages := (stripReasoning request.messages).1 }

def Payload.stripped (payload : Payload) : Payload :=
  { payload with messages := (stripReasoning payload.messages).1 }

theorem systemPrompt_stripped (request : ChatRequest) :
    request.stripped.systemPrompt = request.systemPrompt := by
  rw [ChatRequest.systemPrompt, ChatRequest.stripped, stripReasoning_eq, List.flatMap_map,
    ChatRequest.systemPrompt]
  congr 1
  apply List.flatMap_congr
  intro message _
  exact ChatMessage.systemBlocks_of_stripsTo message.stripsTo_withoutReasoning

/-- When only reasoning stands beside the messages of the assistant, a generic payload has
the same turns and the same prompt, and is the same otherwise, whether its messages are
stripped before they are built or after it. Not even a text without a character differs. -/
theorem stripping_before_or_after_building (request : ChatRequest) (defaults : PayloadDefaults)
    (reasoned : ∀ message ∈ request.messages, message.role = .assistant →
      ∀ block ∈ message.sideBlocks, block.TaggedReasoning) :
    let early := Payload.ofRequest request.stripped false defaults
    let late := (Payload.ofRequest request false defaults).stripped
    early.messages.map ChatMessage.turn = late.messages.map ChatMessage.turn ∧
      early.system = late.system ∧ { early with messages := late.messages } = late := by
  intro early late
  have sameTurns : early.messages.map ChatMessage.turn = late.messages.map ChatMessage.turn := by
    apply turns_genericMessages_stripReasoning
    intro message member assistant block beside
    exact (isReasoning_iff block).mpr (reasoned message member assistant block beside)
  have sameSystem : early.system = late.system := by
    simp only [early, late, Payload.ofRequest, Payload.stripped, systemPrompt_stripped]
  refine ⟨sameTurns, sameSystem, ?_⟩
  calc { early with messages := late.messages }
    _ = { early with messages := late.messages, system := late.system } := by rw [← sameSystem]
    _ = late := rfl

def reasonedRequest : ChatRequest :=
  .ofMessages "claude"
    [.ofContent .system (.text "Be brief."),
      .ofContent .user (.text "Weigh it."),
      { ChatMessage.ofContent .assistant (.blocks
          [.other (.object [("thinking", .null), ("type", .string "thinking")]),
            .plainText "Half."]) with
        thinkingBlocks := some [.redactedThinking "sealed" .empty]
        toolCalls := some [⟨"first", "function", "weigh", "[]"⟩] },
      .ofContent .system (.text "Be exact."),
      .ofContent .assistant (.blocks [.thinking "again" none .empty]),
      { ChatMessage.ofContent .tool (.text "A pound.") with toolCallId := some "first" },
      .ofContent .assistant (.blocks [.thinking "done" none .empty])]

theorem same_turns_of_reasonedRequest :
    let early := Payload.ofRequest reasonedRequest.stripped false ⟨"", 0, none⟩
    let late := (Payload.ofRequest reasonedRequest false ⟨"", 0, none⟩).stripped
    (∀ message ∈ reasonedRequest.messages, message.role = .assistant →
      ∀ block ∈ message.sideBlocks, block.TaggedReasoning) ∧
    early.messages.map ChatMessage.turn =
      [(.user, [.plainText "Weigh it."]),
        (.assistant, [.plainText "Half.", .toolUse "first" "weigh" (.object []) .empty]),
        (.user, [.toolResult "first" (some (.string "A pound.")) none .empty]),
        (.assistant, [.plainText ""])] ∧
    early.messages.map ChatMessage.turn = late.messages.map ChatMessage.turn ∧
      early.system = late.system ∧ { early with messages := late.messages } = late := by
  have reasoned : ∀ message ∈ reasonedRequest.messages, message.role = .assistant →
      ∀ block ∈ message.sideBlocks, block.TaggedReasoning := by
    have tagged : ∀ message ∈ reasonedRequest.messages, message.role = .assistant →
        ∀ block ∈ message.sideBlocks, block.isReasoning = true := by decide
    intro message member assistant block beside
    exact (isReasoning_iff block).mp (tagged message member assistant block beside)
  exact ⟨reasoned, by decide +kernel,
    stripping_before_or_after_building reasonedRequest ⟨"", 0, none⟩ reasoned⟩

end ChatGateway

import ChatGateway.Proofs.Reasoning

namespace ChatGateway

/-! An intact history. The check of a history reads the messages of the request
that stand before its last one; the provider reads those of the payload. What
stands before the last message of the payload was built from messages before the
last one of the request, or joined behind such a message, so what was checked of
the one holds of the other. -/

theorem exists_of_mem_dropLast_filterMap {α β : Type} {image? : α → Option β}
    {items : List α} {image : β} (member : image ∈ (items.filterMap image?).dropLast) :
    ∃ item ∈ items.dropLast, image? item = some image := by
  rcases List.eq_nil_or_concat items with rfl | ⟨earlier, last, rfl⟩
  · cases member
  · rw [List.concat_eq_append, List.filterMap_append] at member
    have inEarlier : image ∈ earlier.filterMap image? := by
      cases lastImage : image? last with
      | none =>
          rw [List.filterMap_cons_none lastImage, List.filterMap_nil, List.append_nil] at member
          exact (List.dropLast_sublist _).subset member
      | some found =>
          rw [List.filterMap_cons_some lastImage, List.filterMap_nil,
            List.dropLast_concat] at member
          exact member
    rw [List.concat_eq_append, List.dropLast_concat]
    exact List.mem_filterMap.mp inEarlier

/-- A history is broken exactly when an assistant message in it shows no reasoning. -/
theorem assess_ne_broken_iff (messages : List ChatMessage) :
    (∀ index, Continuity.assess messages ≠ .broken index) ↔
      ∀ message ∈ messages.dropLast, message.role = .assistant →
        message.showsReasoning = true := by
  cases found : messages.dropLast.findIdx? fun message =>
      message.role == .assistant && !message.showsReasoning with
  | some index =>
      have broken : Continuity.assess messages = .broken index := by
        simp only [Continuity.assess, found]
      rcases List.findIdx?_eq_some_iff_getElem.mp found with ⟨inHistory, silent, _⟩
      rw [Bool.and_eq_true, beq_iff_eq, Bool.not_eq_true'] at silent
      constructor
      · intro intact
        exact absurd broken (intact index)
      · intro shows
        rw [shows _ (List.getElem_mem inHistory) silent.1] at silent
        cases silent.2
  | none =>
      have silent := List.findIdx?_eq_none_iff.mp found
      constructor
      · intro _ message member assistant
        simpa [assistant] using silent message member
      · intro _ index
        simp only [Continuity.assess, found]
        split <;> simp

/-- The message has reasoning, in its content or beside it. -/
def ChatMessage.CarriesReasoning (message : ChatMessage) : Prop :=
  ∃ block, (block ∈ message.sideBlocks ∨ block ∈ message.blocks) ∧ block.isReasoning = true

/-- The message is not an assistant's, or has reasoning in its content. -/
def ChatMessage.KeepsReasoning (message : ChatMessage) : Prop :=
  message.role = .assistant → ∃ block ∈ message.blocks, block.isReasoning = true

theorem carriesReasoning_of_showsReasoning {message : ChatMessage}
    (reasoningOnly : ∀ block ∈ message.sideBlocks, block.isReasoning = true)
    (shows : message.showsReasoning = true) : message.CarriesReasoning := by
  rw [ChatMessage.showsReasoning, Bool.or_eq_true] at shows
  rcases shows with beside | inside
  · rw [Bool.not_eq_true', List.isEmpty_eq_false_iff] at beside
    rcases List.exists_mem_of_ne_nil _ beside with ⟨block, member⟩
    exact ⟨block, .inl member, reasoningOnly block member⟩
  · rcases List.any_eq_true.mp inside with ⟨block, member, reasoning⟩
    exact ⟨block, .inr member, reasoning⟩

theorem keepsReasoning_structuredMessages {messages : List ChatMessage}
    (carried : ∀ message ∈ messages.dropLast, message.role = .assistant →
      message.CarriesReasoning) :
    ∀ message ∈ (structuredMessages messages).dropLast, message.KeepsReasoning := by
  intro message member assistant
  rw [structuredMessages, ← List.filterMap_eq_filter, List.map_filterMap] at member
  rcases exists_of_mem_dropLast_filterMap member with ⟨source, sourceMember, image⟩
  rcases Option.map_eq_some_iff.mp image with ⟨kept, guarded, rfl⟩
  rcases Option.guard_eq_some_iff.mp guarded with ⟨rfl, _⟩
  rw [role_foldReasoning] at assistant
  rcases carried source sourceMember assistant with ⟨block, carriedBlock, reasoning⟩
  have notText := ne_plainText_of_isReasoning reasoning
  exact ⟨block, (mem_blocks_foldReasoning_iff source notText).mpr carriedBlock, reasoning⟩

theorem keepsReasoning_genericMessages {messages : List ChatMessage}
    (carried : ∀ message ∈ messages.dropLast, message.role = .assistant →
      message.CarriesReasoning) :
    ∀ message ∈ (genericMessages messages).dropLast, message.KeepsReasoning := by
  have joined : ∀ turn ∈ (mergeTurns (messages.filterMap ChatMessage.expand?)).dropLast,
      turn.1 = .assistant → ∃ block ∈ turn.2, block.isReasoning = true := by
    apply forall_dropLast_mergeTurns
    · intro role blocks more holds assistant
      rcases holds assistant with ⟨block, member, reasoning⟩
      exact ⟨block, List.mem_append_left more member, reasoning⟩
    · rintro ⟨role, blocks⟩ member assistant
      rcases exists_of_mem_dropLast_filterMap member with ⟨source, sourceMember, expanded⟩
      cases assistant
      rcases expand?_eq_assistant expanded with ⟨sourceRole, rfl⟩
      rcases carried source sourceMember sourceRole with ⟨block, carriedBlock, reasoning⟩
      exact ⟨block, (isReasoning_mem_assistantBlocks_iff reasoning).mpr carriedBlock, reasoning⟩
  intro message member assistant
  rw [genericMessages, ← List.map_dropLast] at member
  rcases List.mem_map.mp member with ⟨turn, turnMember, rfl⟩
  rcases joined turn turnMember assistant with ⟨block, inTurn, reasoning⟩
  exact ⟨block, mem_blocks_ofBlocks_of_isReasoning inTurn reasoning, reasoning⟩

theorem keepsReasoning_builtMessages {request : ChatRequest}
    (carried : ∀ message ∈ request.inboundMessages.dropLast, message.role = .assistant →
      message.CarriesReasoning) :
    ∀ message ∈ request.builtMessages.dropLast, message.KeepsReasoning := by
  rw [ChatRequest.builtMessages]
  split
  · exact keepsReasoning_structuredMessages carried
  · exact keepsReasoning_genericMessages carried

namespace Outgoing

/-- Thinking that the caller did not configure is only sent with an intact
history: every assistant message before the last message that is sent shows
reasoning. -/
theorem history_intact_of_implicit_thinking (request : ChatRequest) (call : CallContext)
    (options : PayloadOptions) (budget : UInt64) (implicit : request.thinking = none)
    (reasoningOnly : ∀ message ∈ request.messages, ∀ block ∈ message.sideBlocks,
      block.TaggedReasoning)
    (enabled : (ofRequest request call options).payload.thinking = some (.enabled budget)) :
    ∀ message ∈ (ofRequest request call options).payload.messages.dropLast,
      message.role = .assistant → ∃ block ∈ message.blocks, block.TaggedReasoning := by
  have noTools := hasTools_eq_false_of_thinking request call options enabled
  rcases (thinking_of_implicit request call options noTools implicit _).mp enabled with
    ⟨_, intact, _⟩
  have shown := (assess_ne_broken_iff request.messages).mp intact
  have kept : ∀ message ∈ request.builtMessages.dropLast, message.KeepsReasoning := by
    apply keepsReasoning_builtMessages
    rw [inboundMessages_of_no_tools request call options noTools]
    intro message member assistant
    apply carriesReasoning_of_showsReasoning _ (shown message member assistant)
    intro block beside
    have inRequest : message ∈ request.messages := (List.dropLast_sublist _).subset member
    exact (isReasoning_iff block).mpr (reasoningOnly message inRequest block beside)
  rw [messages_of_no_tools request call options noTools]
  intro message member assistant
  rcases kept message member assistant with ⟨block, inBlocks, reasoning⟩
  exact ⟨block, inBlocks, (isReasoning_iff block).mp reasoning⟩

def resumedRequest : ChatRequest :=
  .ofMessages "claude-Thinking"
    [.ofContent .user (.text "first"),
      { ChatMessage.ofContent .assistant (.text "half") with
        thinkingBlocks := some [.thinking "weighing" (some "signed") .empty] },
      .ofContent .system (.text "brief"),
      .ofContent .assistant (.blocks [.redactedThinking "sealed" .empty, .plainText "whole"]),
      .ofContent .user (.text "second"),
      .ofContent .assistant (.text "so")]

theorem history_intact_of_resumedRequest :
    let payload := (ofRequest resumedRequest default plainOptions).payload
    payload.thinking = some (.enabled 2048) ∧ payload.messages.length = 4 ∧
      ∀ message ∈ payload.messages.dropLast,
        message.role = .assistant → ∃ block ∈ message.blocks, block.TaggedReasoning := by
  have enabled : (ofRequest resumedRequest default plainOptions).payload.thinking =
      some (.enabled 2048) := by decide
  have reasoningOnly : ∀ message ∈ resumedRequest.messages, ∀ block ∈ message.sideBlocks,
      block.TaggedReasoning := by
    simp only [← isReasoning_iff]
    decide
  exact ⟨enabled, by decide, history_intact_of_implicit_thinking resumedRequest default
    plainOptions 2048 rfl reasoningOnly enabled⟩

end Outgoing

end ChatGateway

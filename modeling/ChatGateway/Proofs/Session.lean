import ChatGateway.Proofs.Echo
import ChatGateway.Proofs.Reasoning

namespace ChatGateway

/-! Sessions of a client that repeats what it was answered. Every answer that reasons
leaves its reasoning in the history, in its place, and building a payload moves no
reasoning from one place to another; so a session that asks for thinking is never
refused it for want of a history. -/

/-! The reasoning of a conversation, in order. -/

/-- The reasoning of an assistant message, beside its content and in it. -/
def ChatMessage.reasoning (message : ChatMessage) : List ContentBlock :=
  if message.role = .assistant then
    (message.sideBlocks ++ message.blocks).filter ContentBlock.isReasoning
  else []

def reasonedIn (said : List (Role × ContentBlock)) : List ContentBlock :=
  (said.filter fun (role, block) => role == .assistant && block.isReasoning).map Prod.snd

theorem reasonedIn_flatMap {α : Type} (items : List α) (say : α → List (Role × ContentBlock)) :
    reasonedIn (items.flatMap say) = items.flatMap (reasonedIn ∘ say) := by
  rw [reasonedIn, List.filter_flatMap, List.map_flatMap]
  rfl

theorem reasonedIn_map (role : Role) (blocks : List ContentBlock) :
    reasonedIn (blocks.map (role, ·)) =
      if role = .assistant then blocks.filter ContentBlock.isReasoning else [] := by
  rw [reasonedIn, List.filter_map, List.map_map]
  cases role <;> simp [Function.comp_def]

theorem reasonedIn_withoutEmptyTexts (said : List (Role × ContentBlock)) :
    reasonedIn (withoutEmptyTexts said) = reasonedIn said := by
  rw [reasonedIn, withoutEmptyTexts, List.filter_filter]
  congr 2
  funext item
  cases reasoning : item.2.isReasoning with
  | false => simp [reasoning]
  | true => simp [ne_plainText_of_isReasoning reasoning]

/-! Texts are no reasoning, so it does not matter how they are written. -/

theorem reasoning_parts (message : ChatMessage) :
    message.parts.filter ContentBlock.isReasoning =
      message.blocks.filter ContentBlock.isReasoning := by
  unfold ChatMessage.parts ChatMessage.blocks
  cases message.content with
  | none => rfl
  | some content => cases content <;> rfl

theorem reasoning_toBlocks (message : ChatMessage) :
    (MessageContent.toBlocks message.content).filter ContentBlock.isReasoning =
      message.blocks.filter ContentBlock.isReasoning := by
  unfold MessageContent.toBlocks ChatMessage.blocks
  cases message.content with
  | none => rfl
  | some content =>
      cases content with
      | text text =>
          dsimp only
          split <;> rfl
      | blocks blocks => rfl

theorem reasoning_map_shown (blocks : List ContentBlock) :
    (blocks.map ContentBlock.shown).filter ContentBlock.isReasoning =
      blocks.filter ContentBlock.isReasoning := by
  have same : ContentBlock.isReasoning ∘ ContentBlock.shown = ContentBlock.isReasoning := by
    funext block
    exact isReasoning_shown block
  rw [List.filter_map, same]
  calc
    (blocks.filter ContentBlock.isReasoning).map ContentBlock.shown =
        (blocks.filter ContentBlock.isReasoning).map id :=
      List.map_congr_left fun block member => shown_of_isReasoning (List.mem_filter.mp member).2
    _ = blocks.filter ContentBlock.isReasoning := List.map_id _

/-! Building messages keeps all reasoning in its order. -/

theorem reasonedIn_expansion (message : ChatMessage) :
    reasonedIn message.expansion = message.reasoning := by
  rw [ChatMessage.expansion, ChatMessage.reasoning]
  cases message.role with
  | system => rfl
  | user => exact reasonedIn_map .user _
  | assistant =>
      have noCall : ((message.toolCalls.getD []).map ToolCall.asked).filter
          ContentBlock.isReasoning = [] := by
        rw [List.filter_eq_nil_iff]
        intro block member
        rcases List.mem_map.mp member with ⟨call, _, rfl⟩
        exact Bool.false_ne_true
      simp only [reasonedIn_map, if_true, List.filter_append, reasoning_map_shown, reasoning_parts,
        noCall, List.append_nil]
  | tool => rfl

theorem reasonedIn_spoken {message : ChatMessage} (nothingBeside : message.thinkingBlocks = none) :
    reasonedIn message.spoken = message.reasoning := by
  rw [ChatMessage.spoken, reasonedIn_map, ChatMessage.reasoning, ChatMessage.sideBlocks,
    nothingBeside, reasoning_parts]
  rfl

theorem reasoning_genericMessages (messages : List ChatMessage) :
    (genericMessages messages).flatMap ChatMessage.reasoning =
      messages.flatMap ChatMessage.reasoning := by
  calc
    (genericMessages messages).flatMap ChatMessage.reasoning =
        (genericMessages messages).flatMap (reasonedIn ∘ ChatMessage.spoken) := by
      refine List.flatMap_congr fun message member => ?_
      rcases eq_ofContent_of_mem_genericMessages member with ⟨content, written⟩
      rw [written]
      exact (reasonedIn_spoken rfl).symm
    _ = reasonedIn (withoutEmptyTexts ((genericMessages messages).flatMap ChatMessage.spoken)) := by
      rw [reasonedIn_withoutEmptyTexts, reasonedIn_flatMap]
    _ = messages.flatMap (reasonedIn ∘ ChatMessage.expansion) := by
      rw [genericMessages_say_expansions, reasonedIn_withoutEmptyTexts, reasonedIn_flatMap]
    _ = messages.flatMap ChatMessage.reasoning :=
      List.flatMap_congr fun message _ => reasonedIn_expansion message

theorem reasoning_foldReasoning (message : ChatMessage) :
    message.foldReasoning.reasoning = message.reasoning := by
  have moved : (message.sideBlocks ++ MessageContent.toBlocks message.content).filter
      ContentBlock.isReasoning =
        (message.sideBlocks ++ message.blocks).filter ContentBlock.isReasoning := by
    rw [List.filter_append, List.filter_append, reasoning_toBlocks]
  rw [ChatMessage.reasoning, ChatMessage.reasoning, role_foldReasoning, ChatMessage.sideBlocks,
    thinkingBlocks_foldReasoning, ChatMessage.foldReasoning]
  split
  · split
    · next nothing =>
        rw [List.isEmpty_iff] at nothing
        rw [nothing]
        rfl
    · exact moved
  · rfl

theorem reasoning_structuredMessages (messages : List ChatMessage) :
    (structuredMessages messages).flatMap ChatMessage.reasoning =
      messages.flatMap ChatMessage.reasoning := by
  induction messages with
  | nil => rfl
  | cons message rest induction =>
      rw [structuredMessages, List.filter_cons, List.flatMap_cons, ← induction]
      split
      · rw [List.map_cons, List.flatMap_cons, reasoning_foldReasoning]
        rfl
      · next lifted =>
          have system : message.role = .system := by simpa using lifted
          rw [ChatMessage.reasoning, system]
          rfl

theorem reasoning_builtMessages (request : ChatRequest) :
    request.builtMessages.flatMap ChatMessage.reasoning =
      request.inboundMessages.flatMap ChatMessage.reasoning := by
  rw [ChatRequest.builtMessages]
  split
  · exact reasoning_structuredMessages _
  · exact reasoning_genericMessages _

/-! Sessions. -/

/-- The history that a client sends, and the answers that it has had. Whatever is
asked next, an answer that reasons is put behind the history as it was received. -/
inductive Session : List ChatMessage → List Answer → Prop where
  | start {messages : List ChatMessage}
      (fresh : ∀ message ∈ messages, message.role ≠ .assistant) : Session messages []
  | exchange {history : List ChatMessage} {answers : List Answer}
      (session : Session history answers) (answer : Answer) (freshId : String) (created : Int)
      (model : String) (next : ChatMessage) (reasons : answer.thinkingBlocks ≠ [])
      (asks : next.role = .user) :
      Session
        (history ++ ((answer.toCompletion freshId created).normalize model).1.echoes ++ [next])
        (answers ++ [answer])

namespace Answer

theorem isReasoning_of_mem_thinkingBlocks {answer : Answer} {block : ContentBlock}
    (member : block ∈ answer.thinkingBlocks) : block.isReasoning = true := by
  have thinking := (List.mem_filter.mp member).2
  cases block with
  | thinking thought signature extra => rfl
  | redactedThinking data extra => rfl
  | _ => cases thinking

theorem reasoning_echo (answer : Answer) :
    answer.replied.echo.reasoning = answer.thinkingBlocks := by
  have noBlocks : answer.replied.echo.blocks = [] := by
    rw [ChatMessage.blocks, ChoiceMessage.echo]
    cases answer.replied.content <;> rfl
  have assistant : answer.replied.echo.role = .assistant := rfl
  rw [ChatMessage.reasoning, if_pos assistant, noBlocks, List.append_nil, sideBlocks_echo]
  exact List.filter_eq_self.mpr fun block member => isReasoning_of_mem_thinkingBlocks member

end Answer

namespace Session

variable {history : List ChatMessage} {answers : List Answer}

theorem thinkingBlocks_ne_nil (session : Session history answers) :
    ∀ answer ∈ answers, answer.thinkingBlocks ≠ [] := by
  induction session with
  | start => simp
  | exchange _ last _ _ _ _ reasons _ induction =>
      intro answer member
      rcases List.mem_append.mp member with earlier | equal
      · exact induction answer earlier
      · rw [List.mem_singleton.mp equal]
        exact reasons

theorem assistants (session : Session history answers) :
    history.filter (·.role == .assistant) = answers.map (·.replied.echo) ∧
      history.dropLast.filter (·.role == .assistant) = answers.map (·.replied.echo) := by
  induction session with
  | start fresh =>
      refine ⟨List.filter_eq_nil_iff.mpr ?_, List.filter_eq_nil_iff.mpr ?_⟩
      · intro message member
        simpa using fresh message member
      · intro message member
        simpa using fresh message ((List.dropLast_sublist _).subset member)
  | @exchange history answers _ answer _ _ _ next _ asks induction =>
      have echoed : (history ++ [answer.replied.echo]).filter (·.role == .assistant) =
          (answers ++ [answer]).map (·.replied.echo) := by
        rw [List.filter_append, induction.1, List.map_append]
        rfl
      rw [Answer.echoes_normalize_toCompletion, List.dropLast_concat, echoed, List.filter_append,
        echoed]
      refine ⟨?_, rfl⟩
      simp [asks]

theorem reasoning (session : Session history answers) :
    history.flatMap ChatMessage.reasoning = answers.flatMap Answer.thinkingBlocks := by
  induction session with
  | start fresh =>
      rw [List.flatMap_nil, List.flatMap_eq_nil_iff]
      intro message member
      exact if_neg (fresh message member)
  | exchange _ answer _ _ _ next _ asks induction =>
      have asked : next.reasoning = [] := by
        rw [ChatMessage.reasoning, asks]
        rfl
      rw [Answer.echoes_normalize_toCompletion, List.flatMap_append, List.flatMap_append,
        List.flatMap_append, List.flatMap_singleton, List.flatMap_singleton,
        List.flatMap_singleton, induction, Answer.reasoning_echo, asked, List.append_nil]

theorem assess_eq (session : Session history answers) :
    Continuity.assess history =
      if answers = [] then .firstTurn else .preserved answers.length := by
  have intact : history.dropLast.findIdx? (fun message =>
      message.role == .assistant && !message.showsReasoning) = none := by
    rw [List.findIdx?_eq_none_iff]
    intro message member
    cases assistant : message.role == .assistant with
    | false => rfl
    | true =>
        have echoed : message ∈ history.dropLast.filter (·.role == .assistant) :=
          List.mem_filter.mpr ⟨member, assistant⟩
        rw [session.assistants.2] at echoed
        rcases List.mem_map.mp echoed with ⟨answer, answered, rfl⟩
        have shows : answer.replied.echo.sideBlocks ≠ [] := by
          rw [Answer.sideBlocks_echo]
          exact session.thinkingBlocks_ne_nil answer answered
        simp [ChatMessage.showsReasoning, shows]
  have turns : history.dropLast.countP (·.role == .assistant) = answers.length := by
    rw [List.countP_eq_length_filter, session.assistants.2, List.length_map]
  simp only [Continuity.assess, intact, turns]
  cases answers <;> rfl

end Session

/-! What is sent for a session. -/

theorem lacksCodeExecution_eq_false {request : ChatRequest}
    (noUploads : ∀ message ∈ request.inboundMessages,
      ∀ block ∈ message.sideBlocks ++ message.blocks,
        block.typeName ≠ some "container_upload") :
    request.lacksCodeExecution = false := by
  have unmentioned : ∀ message ∈ request.builtMessages, ∀ block ∈ message.blocks,
      block.typeName ≠ some "container_upload" := by
    intro message member block inside upload
    rw [ChatRequest.builtMessages] at member
    split at member
    · rcases List.mem_map.mp member with ⟨source, sourceMember, rfl⟩
      have notText (text : String) : block ≠ .plainText text := by
        rintro rfl
        exact absurd (Option.some.inj upload) (by decide)
      rw [mem_blocks_foldReasoning_iff source notText, ← List.mem_append] at inside
      exact noUploads source (List.mem_filter.mp sourceMember).1 block inside upload
    · have foreign : ∀ type ∈ ["text", "image", "tool_use", "tool_result"],
          block.typeName ≠ some type := by
        rw [upload]
        decide
      rcases kept_of_mem_genericMessages member inside foreign with
        ⟨source, sourceMember, ⟨_, beside⟩ | ⟨inContent, _⟩⟩
      · exact noUploads source sourceMember block (List.mem_append_left _ beside) upload
      · exact noUploads source sourceMember block (List.mem_append_right _ inContent) upload
  rw [ChatRequest.lacksCodeExecution, Outgoing.needsCodeExecution, Bool.and_eq_false_iff]
  left
  simpa [Outgoing.mentionsContainerUpload] using unmentioned

namespace Outgoing

/-- A request that sends a history and asks for thinking by a name or a header alone,
without tools or uploads and with room for a budget. -/
structure AsksOver (history : List ChatMessage) (request : ChatRequest) (call : CallContext)
    (options : PayloadOptions) : Prop where
  sends : request.messages = history
  noTools : request.toolList = []
  implicit : request.thinking = none
  asks : AsksForThinking request call
  noUploads : ∀ message ∈ history, ∀ block ∈ message.sideBlocks ++ message.blocks,
    block.typeName ≠ some "container_upload"
  room : 1124 ≤ ((request.maxTokens.or request.maxCompletionTokens).getD
    (call.maxTokens.getD options.maxTokens)).toNat

variable {history : List ChatMessage} {request : ChatRequest} {call : CallContext}
  {options : PayloadOptions}

theorem hasTools_of_asksOver (turn : AsksOver history request call options) :
    (ofRequest request call options).payload.hasTools = false := by
  have noTools : request.hasTools = false := by
    rw [ChatRequest.hasTools, turn.noTools]
    rfl
  have inbound : request.inboundMessages = history := by
    rw [ChatRequest.inboundMessages, noTools, turn.sends]
    rfl
  rw [hasTools_ofRequest, noTools, Bool.false_or]
  apply lacksCodeExecution_eq_false
  rw [inbound]
  exact turn.noUploads

/-- Such a request is given thinking unless its history is broken. -/
theorem activated_of_asksOver (turn : AsksOver history request call options)
    (intact : (Continuity.assess history).allowsActivation = true) :
    ∃ signal budget, (thinkingInputs request call options).outcome =
      .activated signal budget (Continuity.assess history == .firstTurn) := by
  have noTools := hasTools_of_asksOver turn
  rcases Option.isSome_iff_exists.mp ((isSome_detect_iff request call).mpr turn.asks) with
    ⟨signal, detected⟩
  have room := turn.room
  rw [← maxTokens_ofRequest] at room
  cases halved : thinkingBudget (ofRequest request call options).payload.maxTokens with
  | none =>
      have noRoom := (clampBudget_eq_none_iff _ _).mp halved
      omega
  | some budget =>
      refine ⟨signal, budget, ?_⟩
      rw [thinkingInputs, noTools, turn.implicit, Option.isSome_none, detected,
        inboundMessages_of_no_tools request call options noTools, turn.sends]
      cases assessed : Continuity.assess history with
      | broken index =>
          rw [assessed] at intact
          cases intact
      | firstTurn => simp [ThinkingInputs.outcome, halved]
      | preserved turns => simp [ThinkingInputs.outcome, halved]

end Outgoing

/-- A session that asks for thinking is given it at every turn: the decision is told
once and tells the first turn from the others, and the assistant messages that are
sent have the reasoning of all earlier answers, as it was received and in order. -/
theorem Session.keeps_thinking {history : List ChatMessage} {answers : List Answer}
    (session : Session history answers) {request : ChatRequest} {call : CallContext}
    {options : PayloadOptions} (turn : Outgoing.AsksOver history request call options) :
    let sent := Outgoing.ofRequest request call options
    ∃ signal budget, sent.payload.thinking = some (.enabled budget) ∧
      sent.decisions.filterMap Decision.outcome? =
        [.activated signal budget answers.isEmpty] ∧
      sent.payload.messages.flatMap ChatMessage.reasoning =
        answers.flatMap Answer.thinkingBlocks := by
  intro sent
  have intact : (Continuity.assess history).allowsActivation = true := by
    rw [session.assess_eq]
    split <;> rfl
  have first : (Continuity.assess history == .firstTurn) = answers.isEmpty := by
    rw [session.assess_eq]
    cases answers <;> rfl
  rcases Outgoing.activated_of_asksOver turn intact with ⟨signal, budget, activated⟩
  rw [first] at activated
  refine ⟨signal, budget, ?_, ?_, ?_⟩
  · rw [Outgoing.thinking_ofRequest, activated]
    rfl
  · rw [Outgoing.outcomes_ofRequest, activated]
  · have noTools := Outgoing.hasTools_of_asksOver turn
    rw [Outgoing.messages_of_no_tools request call options noTools, reasoning_builtMessages,
      Outgoing.inboundMessages_of_no_tools request call options noTools, turn.sends,
      session.reasoning]

def openAnswer : Answer :=
  { scatteredAnswer with
    content := [.plainText "half", .thinking "weighing" (some "signed") .empty] }

def hiddenAnswer : Answer :=
  { scatteredAnswer with
    content := [.redactedThinking "sealed" .empty, .toolUse "call_1" "f" (.object []) .empty] }

def reasonedHistory : List ChatMessage :=
  [.ofContent .system (.text "brief"), .ofContent .user (.text "first"),
    openAnswer.replied.echo, .ofContent .user (.text "second"),
    hiddenAnswer.replied.echo,
    .ofContent .user (.blocks [.toolResult "call_1" (some (.string "fine")) none .empty])]

theorem thinking_of_reasonedHistory :
    let sent := Outgoing.ofRequest (.ofMessages "claude-Thinking" reasonedHistory) default
      Outgoing.plainOptions
    ∃ signal budget, sent.payload.thinking = some (.enabled budget) ∧
      sent.decisions.filterMap Decision.outcome? = [.activated signal budget false] ∧
      sent.payload.messages.flatMap ChatMessage.reasoning =
        [.thinking "weighing" (some "signed") .empty, .redactedThinking "sealed" .empty] := by
  have started : Session (reasonedHistory.take 2) [] := .start (by decide)
  have answered := started.exchange openAnswer "fresh" 0 "claude"
    (.ofContent .user (.text "second")) (by decide) rfl
  have session : Session reasonedHistory [openAnswer, hiddenAnswer] :=
    answered.exchange hiddenAnswer "fresh" 0 "claude"
      (.ofContent .user (.blocks [.toolResult "call_1" (some (.string "fine")) none .empty]))
      (by decide) rfl
  have turn : Outgoing.AsksOver reasonedHistory (.ofMessages "claude-Thinking" reasonedHistory)
      default Outgoing.plainOptions :=
    { sends := rfl
      noTools := rfl
      implicit := rfl
      asks := .inl ((Text.mentions_iff _ _).mp (by decide))
      noUploads := by decide
      room := by decide }
  exact session.keeps_thinking turn

end ChatGateway

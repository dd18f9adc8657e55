import ChatGateway.Proofs.Conversation
import ChatGateway.Proofs.Outgoing

namespace ChatGateway

/-! System messages on their way into the prompt. A conversation is passed over once: what
a system message says is lifted, and every other message is kept for the form that the
payload takes. What is lifted does not depend on the form, and of a payload nothing but its
messages does. -/

theorem Role.ofName?_eq_system_iff (name : String) :
    Role.ofName? name = some .system ↔ name = "system" ∨ name = "developer" := by
  constructor
  · intro named
    unfold ofName? at named
    split at named
    · exact .inl rfl
    · exact .inr rfl
    all_goals cases named
  · intro known
    rcases known with equal | equal
    · rw [equal]
      rfl
    · rw [equal]
      rfl

/-! The prompt. -/

/-- The prompt of the request itself: a text that is not empty, or blocks as they are. -/
inductive SystemContent.Opens : Option SystemContent → List SystemBlock → Prop where
  | absent : Opens none []
  | emptyText : Opens (some (.text "")) []
  | text {text : String} (visible : text ≠ "") : Opens (some (.text text)) [⟨text, none⟩]
  | blocks (blocks : List SystemBlock) : Opens (some (.blocks blocks)) blocks

theorem SystemContent.opens_toBlocks (content : Option SystemContent) :
    Opens content ((content.map toBlocks).getD []) := by
  cases content with
  | none => exact .absent
  | some content =>
      cases content with
      | blocks blocks => exact .blocks blocks
      | text text =>
          by_cases empty : text = ""
          · subst empty
            exact .emptyText
          · have block : SystemBlock.ofText text = [⟨text, none⟩] := if_neg empty
            rw [Option.map_some, Option.getD_some, toBlocks, block]
            exact .text empty

/-- The texts among the parts of a message that are not empty, each with its own place in
the cache. -/
inductive SystemBlock.Collects : List ContentBlock → List SystemBlock → Prop where
  | nil : Collects [] []
  | text {text : String} {extra : Object} {parts : List ContentBlock}
      {prompt : List SystemBlock} (visible : text ≠ "") (rest : Collects parts prompt) :
      Collects (.text text extra :: parts) (⟨text, extra.get? "cache_control"⟩ :: prompt)
  | emptyText {extra : Object} {parts : List ContentBlock} {prompt : List SystemBlock}
      (rest : Collects parts prompt) : Collects (.text "" extra :: parts) prompt
  | other {block : ContentBlock} {parts : List ContentBlock} {prompt : List SystemBlock}
      (noText : ∀ text extra, block ≠ .text text extra) (rest : Collects parts prompt) :
      Collects (block :: parts) prompt

namespace SystemBlock

theorem collects_filterMap (parts : List ContentBlock) :
    Collects parts (parts.filterMap ofBlock?) := by
  induction parts with
  | nil => exact .nil
  | cons block parts induction =>
      cases block with
      | text text extra =>
          by_cases empty : text = ""
          · subst empty
            exact .emptyText induction
          · have block : ofBlock? (.text text extra) = some ⟨text, extra.get? "cache_control"⟩ :=
              if_neg empty
            rw [List.filterMap_cons_some block]
            exact .text empty induction
      | _ => exact .other nofun induction

theorem Collects.unique {parts : List ContentBlock} {left right : List SystemBlock}
    (first : Collects parts left) (second : Collects parts right) : left = right := by
  induction first generalizing right with
  | nil => cases second; rfl
  | text visible _ induction =>
      cases second with
      | text _ rest => rw [induction rest]
      | emptyText => exact absurd rfl visible
      | other noText => exact absurd rfl (noText _ _)
  | emptyText _ induction =>
      cases second with
      | text visible => exact absurd rfl visible
      | emptyText rest => exact induction rest
      | other noText => exact absurd rfl (noText _ _)
  | other noText _ induction =>
      cases second with
      | text => exact absurd rfl (noText _ _)
      | emptyText => exact absurd rfl (noText _ _)
      | other _ rest => exact induction rest

end SystemBlock

theorem ChatMessage.systemBlocks_eq {message : ChatMessage} (system : message.role = .system) :
    message.systemBlocks = message.parts.filterMap SystemBlock.ofBlock? := by
  unfold systemBlocks parts
  rw [system]
  cases message.content with
  | none => rfl
  | some content =>
      cases content with
      | blocks blocks => rfl
      | text text =>
          by_cases empty : text = ""
          · subst empty
            rfl
          · have block : SystemBlock.ofText text = [⟨text, none⟩] := if_neg empty
            have part : SystemBlock.ofBlock? (.plainText text) = some ⟨text, none⟩ :=
              if_neg empty
            simp [block, part]

theorem ChatMessage.systemBlocks_of_role_ne {message : ChatMessage}
    (other : message.role ≠ .system) : message.systemBlocks = [] := by
  unfold systemBlocks
  split
  · next system _ => exact absurd system other
  · next system _ => exact absurd system other
  · rfl

/-! The messages of the structured form. -/

/-- A content that stands behind reasoning, as blocks; a text is one block unless it is
empty. -/
inductive MessageContent.Continues : Option MessageContent → List ContentBlock → Prop where
  | absent : Continues none []
  | emptyText : Continues (some (.text "")) []
  | text {text : String} (visible : text ≠ "") :
      Continues (some (.text text)) [.plainText text]
  | blocks (blocks : List ContentBlock) : Continues (some (.blocks blocks)) blocks

namespace MessageContent

theorem continues_toBlocks (content : Option MessageContent) :
    Continues content (toBlocks content) := by
  unfold toBlocks
  split
  · next text =>
      split
      · next empty => rw [empty]; exact .emptyText
      · next visible => exact .text visible
  · exact .blocks _
  · exact .absent

theorem Continues.unique {content : Option MessageContent} {left right : List ContentBlock}
    (first : Continues content left) (second : Continues content right) : left = right := by
  cases first with
  | absent => cases second; rfl
  | blocks => cases second; rfl
  | emptyText =>
      cases second with
      | emptyText => rfl
      | text visible => exact absurd rfl visible
  | text visible =>
      cases second with
      | emptyText => exact absurd rfl visible
      | text => rfl

end MessageContent

namespace ChatMessage

inductive FoldsTo : ChatMessage → ChatMessage → Prop where
  | same {message : ChatMessage} (nothing : message.sideBlocks = []) :
      FoldsTo message { message with thinkingBlocks := none }
  | moved {message : ChatMessage} {blocks : List ContentBlock}
      (reasoned : message.sideBlocks ≠ [])
      (continues : MessageContent.Continues message.content blocks) :
      FoldsTo message { message with
        content := some (.blocks (message.sideBlocks ++ blocks))
        thinkingBlocks := none }

theorem foldsTo_foldReasoning (message : ChatMessage) :
    message.FoldsTo message.foldReasoning := by
  rw [foldReasoning]
  split
  · next nothing => exact .same (List.isEmpty_iff.mp nothing)
  · next reasoned =>
      exact .moved (mt List.isEmpty_iff.mpr reasoned) (MessageContent.continues_toBlocks _)

theorem FoldsTo.unique {message left right : ChatMessage} (first : message.FoldsTo left)
    (second : message.FoldsTo right) : left = right := by
  cases first with
  | same nothing =>
      cases second with
      | same => rfl
      | moved reasoned => exact absurd nothing reasoned
  | moved reasoned continues =>
      cases second with
      | same nothing => exact absurd nothing reasoned
      | moved _ again => rw [continues.unique again]

theorem FoldsTo.role {message folded : ChatMessage} (folds : message.FoldsTo folded) :
    folded.role = message.role := by
  cases folds <;> rfl

end ChatMessage

/-! The pass over a conversation. -/

/-- A conversation, what is lifted from it into the prompt, and the messages that are kept,
both in their order. -/
inductive Lifts : List ChatMessage → List SystemBlock → List ChatMessage → Prop where
  | nil : Lifts [] [] []
  | lifted {message : ChatMessage} {messages kept : List ChatMessage}
      {texts prompt : List SystemBlock} (system : message.role = .system)
      (collects : SystemBlock.Collects message.parts texts) (rest : Lifts messages prompt kept) :
      Lifts (message :: messages) (texts ++ prompt) kept
  | kept {message folded : ChatMessage} {messages kept : List ChatMessage}
      {prompt : List SystemBlock} (other : message.role ≠ .system)
      (folds : message.FoldsTo folded) (rest : Lifts messages prompt kept) :
      Lifts (message :: messages) prompt (folded :: kept)

namespace Lifts

theorem of_conversation (messages : List ChatMessage) :
    Lifts messages (messages.flatMap ChatMessage.systemBlocks) (structuredMessages messages) := by
  induction messages with
  | nil => exact .nil
  | cons message messages induction =>
      rw [structuredMessages] at induction ⊢
      by_cases system : message.role = .system
      · rw [List.flatMap_cons, ChatMessage.systemBlocks_eq system,
          List.filter_cons_of_neg (by simp [system])]
        exact .lifted system (SystemBlock.collects_filterMap message.parts) induction
      · rw [List.flatMap_cons, ChatMessage.systemBlocks_of_role_ne system, List.nil_append,
          List.filter_cons_of_pos (by simp [system]), List.map_cons]
        exact .kept system message.foldsTo_foldReasoning induction

theorem unique {messages leftKept rightKept : List ChatMessage} {left right : List SystemBlock}
    (first : Lifts messages left leftKept) (second : Lifts messages right rightKept) :
    left = right ∧ leftKept = rightKept := by
  induction first generalizing right rightKept with
  | nil =>
      cases second
      exact ⟨rfl, rfl⟩
  | lifted system collects _ induction =>
      cases second with
      | lifted _ again rest =>
          have same := induction rest
          rw [collects.unique again, same.1]
          exact ⟨rfl, same.2⟩
      | kept other => exact absurd system other
  | kept other folds _ induction =>
      cases second with
      | lifted system => exact absurd system other
      | kept _ again rest =>
          have same := induction rest
          rw [folds.unique again, same.2]
          exact ⟨same.1, rfl⟩

theorem role_ne_system {messages kept : List ChatMessage} {prompt : List SystemBlock}
    (lifts : Lifts messages prompt kept) : ∀ message ∈ kept, message.role ≠ .system := by
  induction lifts with
  | nil => exact List.forall_mem_nil _
  | lifted _ _ _ induction => exact induction
  | kept other folds _ induction =>
      rw [List.forall_mem_cons, folds.role]
      exact ⟨other, induction⟩

end Lifts

/-- Of a conversation exactly this is lifted and kept. -/
theorem lifts_iff (messages kept : List ChatMessage) (prompt : List SystemBlock) :
    Lifts messages prompt kept ↔
      prompt = messages.flatMap ChatMessage.systemBlocks ∧ kept = structuredMessages messages := by
  constructor
  · intro lifts
    exact lifts.unique (.of_conversation messages)
  · intro equal
    rw [equal.1, equal.2]
    exact .of_conversation messages

structure Payload.Prompts (payload : Payload) (prompt : List SystemBlock) : Prop where
  system : payload.system.getD [] = prompt
  absent : payload.system = none ↔ prompt = []

theorem Payload.prompts_ofRequest (request : ChatRequest) (structured : Bool)
    (defaults : PayloadDefaults) :
    (ofRequest request structured defaults).Prompts request.systemPrompt := by
  have system : (ofRequest request structured defaults).system =
      if request.systemPrompt.isEmpty then none else some request.systemPrompt := rfl
  cases prompt : request.systemPrompt with
  | nil => exact ⟨by rw [system, prompt]; rfl, by rw [system, prompt]; exact iff_of_true rfl rfl⟩
  | cons block blocks =>
      refine ⟨by rw [system, prompt]; rfl, ?_⟩
      rw [system, prompt]
      exact iff_of_false (Option.some_ne_none _) (List.cons_ne_nil _ _)

/-- A message of the name `developer` is lifted like one of the name `system`. The forms of
a payload differ in their messages alone: both have the prompt of the request, followed by
what is lifted from the conversation, and neither has a system message. What is lifted, and
what the structured form keeps, is that of the one pass over the conversation. -/
theorem forms_differ_in_messages (request : ChatRequest) (defaults : PayloadDefaults) :
    let structured := Payload.ofRequest request true defaults
    let generic := Payload.ofRequest request false defaults
    (∀ name, Role.ofName? name = some .system ↔ name = "system" ∨ name = "developer") ∧
      generic = { structured with messages := generic.messages } ∧
      ∃ opening lifted, SystemContent.Opens request.system opening ∧
        (∀ prompt kept, Lifts request.messages prompt kept ↔
          prompt = lifted ∧ kept = structured.messages) ∧
        ∀ payload ∈ [structured, generic], payload.Prompts (opening ++ lifted) ∧
          ∀ message ∈ payload.messages, message.role ≠ .system := by
  intro structured generic
  refine ⟨Role.ofName?_eq_system_iff, rfl, (request.system.map SystemContent.toBlocks).getD [],
    request.messages.flatMap ChatMessage.systemBlocks, SystemContent.opens_toBlocks _,
    fun prompt kept => lifts_iff request.messages kept prompt, ?_⟩
  rw [List.forall_mem_cons, List.forall_mem_singleton]
  refine ⟨⟨Payload.prompts_ofRequest request true defaults, ?_⟩,
    Payload.prompts_ofRequest request false defaults, ?_⟩
  · exact (Lifts.of_conversation request.messages).role_ne_system
  · intro message member
    rcases role_of_mem_genericMessages member with role | role <;> rw [role] <;> nofun

/-- System messages stand between the others; their texts come behind the prompt of the
request, one of them with a place in the cache. -/
example :
    let request : ChatRequest :=
      { ChatRequest.ofMessages "claude"
          [.ofContent .system (.text "Be brief."), .ofContent .user (.text "Hello"),
            .ofContent .system (.blocks [.plainText "", .text "Be exact."
              (.ofList [("cache_control", .bool true)])])] with
        system := some (.text "Be kind.") }
    (Payload.ofRequest request false default).system =
      some [⟨"Be kind.", none⟩, ⟨"Be brief.", none⟩, ⟨"Be exact.", some (.bool true)⟩] := by
  decide

end ChatGateway

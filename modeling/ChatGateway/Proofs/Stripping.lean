import ChatGateway.Chat.Reasoning
import Mathlib.Algebra.Ring.Nat
import Mathlib.Data.List.Forall2

namespace ChatGateway

/-! Stripping, message by message. Messages of the assistant lose what is tagged as
reasoning, in their content and beside it, and nothing else changes; what is counted is
what went. Whatever else is said of stripped messages follows from the relation of a
message to what is left of it. -/

def ordinaryBlocks (blocks : List ContentBlock) : List ContentBlock :=
  blocks.filter fun block => !block.isReasoning

@[simp] theorem ordinaryBlocks_append (first second : List ContentBlock) :
    ordinaryBlocks (first ++ second) = ordinaryBlocks first ++ ordinaryBlocks second :=
  List.filter_append ..

theorem not_isReasoning_of_mem_ordinaryBlocks {blocks : List ContentBlock} {block : ContentBlock}
    (member : block ∈ ordinaryBlocks blocks) : ¬ block.isReasoning = true := by
  simpa using (List.mem_filter.mp member).2

theorem ordinaryBlocks_of_none_tagged {blocks : List ContentBlock}
    (untagged : ∀ block ∈ blocks, ¬ block.isReasoning = true) : ordinaryBlocks blocks = blocks := by
  apply List.filter_eq_self.mpr
  intro block member
  simpa using untagged block member

theorem ordinaryBlocks_of_all_tagged {blocks : List ContentBlock}
    (tagged : ∀ block ∈ blocks, block.isReasoning = true) : ordinaryBlocks blocks = [] := by
  apply List.filter_eq_nil_iff.mpr
  intro block member
  simpa using tagged block member

theorem length_sub_length_ordinaryBlocks (blocks : List ContentBlock) :
    blocks.length - (ordinaryBlocks blocks).length = blocks.countP ContentBlock.isReasoning := by
  have both := List.length_eq_countP_add_countP ContentBlock.isReasoning (l := blocks)
  have rest : (ordinaryBlocks blocks).length =
      blocks.countP fun block => !block.isReasoning := List.countP_eq_length_filter.symm
  simp only [Bool.not_eq_true, Bool.decide_eq_false] at both
  omega

/-! The content of one message. -/

/-- Something goes from the blocks, and nothing is left. -/
def Emptied (blocks : List ContentBlock) : Prop :=
  (∃ block ∈ blocks, block.isReasoning = true) ∧ ordinaryBlocks blocks = []

theorem emptied_iff (blocks : List ContentBlock) :
    Emptied blocks ↔
      (ordinaryBlocks blocks).isEmpty ∧ 0 < blocks.countP ContentBlock.isReasoning := by
  rw [Emptied, List.isEmpty_iff, List.countP_pos_iff, and_comm]

namespace MessageContent

/-- A content, and what is left of it without reasoning. -/
inductive SiftsTo : Option MessageContent → Option MessageContent → Prop where
  | absent : SiftsTo none none
  | text (content : String) : SiftsTo (some (.text content)) (some (.text content))
  | emptied {blocks : List ContentBlock} (emptied : Emptied blocks) :
      SiftsTo (some (.blocks blocks)) (some (.text ""))
  | kept {blocks : List ContentBlock} (stays : ¬ Emptied blocks) :
      SiftsTo (some (.blocks blocks)) (some (.blocks (ordinaryBlocks blocks)))

theorem SiftsTo.unique {content left right : Option MessageContent}
    (first : SiftsTo content left) (second : SiftsTo content right) : left = right := by
  cases first with
  | absent => cases second; rfl
  | text => cases second; rfl
  | emptied emptied =>
      cases second with
      | emptied => rfl
      | kept stays => exact absurd emptied stays
  | kept stays =>
      cases second with
      | kept => rfl
      | emptied emptied => exact absurd emptied stays

theorem SiftsTo.again {content left : Option MessageContent} (sifts : SiftsTo content left) :
    SiftsTo left left := by
  cases sifts with
  | absent => exact .absent
  | text content => exact .text content
  | emptied => exact .text ""
  | @kept blocks stays =>
      have untagged : ∀ block ∈ ordinaryBlocks blocks, ¬ block.isReasoning = true :=
        fun block member => not_isReasoning_of_mem_ordinaryBlocks member
      have stays : ¬ Emptied (ordinaryBlocks blocks) := by
        intro emptied
        rcases emptied.1 with ⟨block, member, tagged⟩
        exact untagged block member tagged
      have again := SiftsTo.kept stays
      rwa [ordinaryBlocks_of_none_tagged untagged] at again

theorem withoutReasoning_blocks (blocks : List ContentBlock) :
    (MessageContent.blocks blocks).withoutReasoning =
      (if (ordinaryBlocks blocks).isEmpty ∧ 0 < blocks.countP ContentBlock.isReasoning then .text ""
        else .blocks (ordinaryBlocks blocks),
        blocks.countP ContentBlock.isReasoning) := by
  rw [← length_sub_length_ordinaryBlocks]
  rfl

theorem siftsTo_withoutReasoning (content : Option MessageContent) :
    SiftsTo content (content.map fun content => content.withoutReasoning.1) := by
  cases content with
  | none => exact .absent
  | some content =>
      cases content with
      | text content => exact .text content
      | blocks blocks =>
          rw [Option.map_some, withoutReasoning_blocks]
          split
          · next emptied => exact .emptied ((emptied_iff blocks).mpr emptied)
          · next stays => exact .kept (mt (emptied_iff blocks).mp stays)

end MessageContent

/-! One message. -/

namespace ChatMessage

/-- A message, and what stripping leaves of it. -/
inductive StripsTo : ChatMessage → ChatMessage → Prop where
  | other {message : ChatMessage} (other : message.role ≠ .assistant) : StripsTo message message
  | assistant {message : ChatMessage} {content : Option MessageContent}
      (assistant : message.role = .assistant)
      (sifts : MessageContent.SiftsTo message.content content) :
      StripsTo message { message with content, thinkingBlocks := none }

/-- The number of blocks that stripping takes from a message: all that stands beside the
content of an assistant, and what is tagged as reasoning in it. -/
def reasoningCount (message : ChatMessage) : Nat :=
  if message.role = .assistant then
    message.sideBlocks.length + message.blocks.countP ContentBlock.isReasoning
  else 0

theorem StripsTo.unique {message left right : ChatMessage} (first : message.StripsTo left)
    (second : message.StripsTo right) : left = right := by
  cases first with
  | other other =>
      cases second with
      | other => rfl
      | assistant assistant => exact absurd assistant other
  | assistant assistant sifts =>
      cases second with
      | other other => exact absurd assistant other
      | assistant _ siftsAgain => rw [sifts.unique siftsAgain]

theorem stripsTo_withoutReasoning (message : ChatMessage) :
    message.StripsTo message.withoutReasoning.1 := by
  rw [withoutReasoning]
  split
  · next assistant =>
      apply StripsTo.assistant assistant
      rw [Option.map_map]
      exact MessageContent.siftsTo_withoutReasoning message.content
  · next other => exact .other other

theorem removed_withoutReasoning (message : ChatMessage) :
    message.withoutReasoning.2 = message.reasoningCount := by
  rw [withoutReasoning, reasoningCount]
  split
  · unfold blocks
    cases message.content with
    | none => rfl
    | some content =>
        cases content with
        | text content => rfl
        | blocks blocks => simp [MessageContent.withoutReasoning_blocks]
  · rfl

theorem role_of_stripsTo {message stripped : ChatMessage} (strips : message.StripsTo stripped) :
    stripped.role = message.role := by
  cases strips <;> rfl

theorem sideBlocks_of_stripsTo {message stripped : ChatMessage}
    (strips : message.StripsTo stripped) (assistant : message.role = .assistant) :
    stripped.sideBlocks = [] := by
  cases strips with
  | other other => exact absurd assistant other
  | assistant => rfl

theorem blocks_of_stripsTo {message stripped : ChatMessage} (strips : message.StripsTo stripped)
    (assistant : message.role = .assistant) :
    stripped.blocks = ordinaryBlocks message.blocks := by
  cases strips with
  | other other => exact absurd assistant other
  | @assistant content _ sifts =>
      unfold blocks
      generalize message.content = given at sifts
      cases sifts with
      | absent => rfl
      | text => rfl
      | emptied emptied => exact emptied.2.symm
      | kept => rfl

theorem reasoningCount_of_stripsTo {message stripped : ChatMessage}
    (strips : message.StripsTo stripped) : stripped.reasoningCount = 0 := by
  rw [reasoningCount, role_of_stripsTo strips]
  split
  · next assistant =>
      rw [sideBlocks_of_stripsTo strips assistant, blocks_of_stripsTo strips assistant,
        List.length_nil, Nat.zero_add, List.countP_eq_zero]
      intro block member
      exact not_isReasoning_of_mem_ordinaryBlocks member
  · rfl

theorem showsReasoning_of_stripsTo {message stripped : ChatMessage}
    (strips : message.StripsTo stripped) (assistant : stripped.role = .assistant) :
    stripped.showsReasoning = false := by
  rw [role_of_stripsTo strips] at assistant
  rw [showsReasoning, sideBlocks_of_stripsTo strips assistant, blocks_of_stripsTo strips assistant,
    List.isEmpty_nil, Bool.not_true, Bool.false_or, List.any_eq_false]
  intro block member
  exact not_isReasoning_of_mem_ordinaryBlocks member

theorem withoutReasoning_of_stripsTo {message stripped : ChatMessage}
    (strips : message.StripsTo stripped) : stripped.withoutReasoning = (stripped, 0) := by
  have same : stripped.StripsTo stripped := by
    cases strips with
    | other other => exact .other other
    | assistant assistant sifts => exact .assistant assistant sifts.again
  apply Prod.ext
  · exact (same.unique stripped.stripsTo_withoutReasoning).symm
  · exact stripped.removed_withoutReasoning.trans (reasoningCount_of_stripsTo strips)

end ChatMessage

/-! All messages. -/

/-- What stripping makes of messages, and what it reports. -/
structure Strips (messages stripped : List ChatMessage) (report : StripReport) : Prop where
  oneByOne : List.Forall₂ ChatMessage.StripsTo messages stripped
  bare : ∀ message ∈ stripped, message.role = .assistant → message.showsReasoning = false
  blocks : report.blocks = (messages.map ChatMessage.reasoningCount).sum
  messages : report.messages = messages.countP (0 < ·.reasoningCount)
  /-- Stripped once more, the messages stay as they are. -/
  again : stripReasoning stripped = (stripped, ⟨0, 0⟩)

theorem stripReasoning_eq (messages : List ChatMessage) :
    stripReasoning messages =
      (messages.map fun message => message.withoutReasoning.1,
        { messages := messages.countP (0 < ·.reasoningCount)
          blocks := (messages.map ChatMessage.reasoningCount).sum }) := by
  simp [stripReasoning, List.countP_map, List.sum, Function.comp_def,
    ChatMessage.removed_withoutReasoning]

theorem stripReasoning_again (messages : List ChatMessage) :
    stripReasoning (stripReasoning messages).1 = ((stripReasoning messages).1, ⟨0, 0⟩) := by
  have same (message : ChatMessage) :
      message.withoutReasoning.1.withoutReasoning = (message.withoutReasoning.1, 0) :=
    ChatMessage.withoutReasoning_of_stripsTo message.stripsTo_withoutReasoning
  have nothing (message : ChatMessage) : message.withoutReasoning.1.reasoningCount = 0 :=
    ChatMessage.reasoningCount_of_stripsTo message.stripsTo_withoutReasoning
  simp [stripReasoning_eq, List.countP_map, Function.comp_def, same, nothing]

theorem forall₂_stripsTo (messages : List ChatMessage) :
    List.Forall₂ ChatMessage.StripsTo messages (stripReasoning messages).1 := by
  rw [stripReasoning_eq, List.forall₂_map_right_iff, List.forall₂_same]
  intro message _
  exact message.stripsTo_withoutReasoning

/-- Stripping gives those messages and that report, and no others, that are related to the
messages of the conversation as its rules say. -/
theorem stripReasoning_eq_iff (messages stripped : List ChatMessage) (report : StripReport) :
    stripReasoning messages = (stripped, report) ↔ Strips messages stripped report := by
  constructor
  · intro equal
    have strippedEqual := congrArg Prod.fst equal
    have reportEqual := congrArg Prod.snd equal
    subst strippedEqual reportEqual
    refine ⟨forall₂_stripsTo messages, ?_, ?_, ?_, stripReasoning_again messages⟩
    · intro message member assistant
      rw [stripReasoning_eq] at member
      rcases List.mem_map.mp member with ⟨source, _, rfl⟩
      exact ChatMessage.showsReasoning_of_stripsTo source.stripsTo_withoutReasoning assistant
    · rw [stripReasoning_eq]
    · rw [stripReasoning_eq]
  · intro strips
    have unique : Relator.RightUnique ChatMessage.StripsTo :=
      fun _ _ _ first second => first.unique second
    have sameMessages : (stripReasoning messages).1 = stripped :=
      unique.forall₂ (forall₂_stripsTo messages) strips.oneByOne
    have sameReport : (stripReasoning messages).2 = report := by
      rcases report with ⟨counted, went⟩
      rw [stripReasoning_eq, ← strips.blocks, ← strips.messages]
    rw [← sameMessages, ← sameReport]

end ChatGateway

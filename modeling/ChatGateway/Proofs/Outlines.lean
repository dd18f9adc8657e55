import ChatGateway.Proofs.Reasoning
import Mathlib.Data.List.Forall2

namespace ChatGateway

/-! What is decided from the types of blocks alone. Of a message the decisions before a payload
is built see its role, how many blocks stand beside its content, and the types of the blocks in
it: its outline. What a block holds, and whether it was understood, changes none of them. -/

/-- What can be told of a content without reading its text or its blocks. -/
inductive ContentOutline where
  | absent
  | text
  | blocks (types : List (Option String))
  deriving DecidableEq

structure MessageOutline where
  role : Role
  beside : Nat
  content : ContentOutline
  deriving DecidableEq

def MessageContent.outline : Option MessageContent → ContentOutline
  | none => .absent
  | some (.text _) => .text
  | some (.blocks content) => .blocks (content.map ContentBlock.typeName)

def ChatMessage.outline (message : ChatMessage) : MessageOutline where
  role := message.role
  beside := message.sideBlocks.length
  content := MessageContent.outline message.content

def reasoningType (type : Option String) : Bool :=
  type == some "thinking" || type == some "redacted_thinking"

def structuralType (type : Option String) : Bool :=
  type == some "tool_use" || type == some "tool_result" || type == some "thinking"

theorem isReasoning_eq_comp : ContentBlock.isReasoning = reasoningType ∘ ContentBlock.typeName :=
  rfl

theorem isStructural_eq_comp :
    ContentBlock.isStructural = structuralType ∘ ContentBlock.typeName :=
  rfl

namespace ContentOutline

def types : ContentOutline → List (Option String)
  | .blocks types => types
  | _ => []

def stripped : ContentOutline → ContentOutline
  | .blocks types =>
      let kept := types.filter fun type => !reasoningType type
      if kept.isEmpty ∧ 0 < types.countP reasoningType then .text else .blocks kept
  | other => other

end ContentOutline

namespace MessageOutline

def showsReasoning (outline : MessageOutline) : Bool :=
  outline.beside != 0 || outline.content.types.any reasoningType

def reasoningCount (outline : MessageOutline) : Nat :=
  if outline.role = .assistant then outline.beside + outline.content.types.countP reasoningType
  else 0

def stripped (outline : MessageOutline) : MessageOutline :=
  if outline.role = .assistant then
    { outline with beside := 0, content := outline.content.stripped }
  else outline

def keptPlaces (outline : MessageOutline) : List Nat :=
  outline.content.types.findIdxs fun type => outline.role != .assistant || !reasoningType type

end MessageOutline

theorem map_some_filter {α : Type} (keep : α → Bool) (items : List α) :
    (items.filter keep).map some = (items.findIdxs keep).map (items[·]?) := by
  apply List.ext_getElem
  · rw [List.length_map, List.length_map, List.length_findIdxs, List.countP_eq_length_filter]
  · intro index _ found
    rw [List.length_map] at found
    rw [List.getElem_map, List.getElem_map, List.getElem_filter_eq_getElem_getElem_findIdxs,
      List.getElem?_eq_getElem]

/-! One message. -/

namespace ChatMessage

theorem types_outline (message : ChatMessage) :
    message.outline.content.types = message.blocks.map ContentBlock.typeName := by
  unfold outline blocks
  cases message.content with
  | none => rfl
  | some content => cases content <;> rfl

theorem showsReasoning_outline (message : ChatMessage) :
    message.outline.showsReasoning = message.showsReasoning := by
  rw [MessageOutline.showsReasoning, showsReasoning, types_outline, List.any_map,
    ← isReasoning_eq_comp]
  congr 1
  have beside : message.outline.beside = message.sideBlocks.length := rfl
  rw [beside]
  cases message.sideBlocks <;> rfl

theorem reasoningCount_outline (message : ChatMessage) :
    message.outline.reasoningCount = message.reasoningCount := by
  rw [MessageOutline.reasoningCount, reasoningCount, types_outline, List.countP_map,
    ← isReasoning_eq_comp]
  rfl

theorem stripped_outline_of_blocks (content : List ContentBlock) :
    (MessageContent.outline (some (.blocks content))).stripped =
      if (ordinaryBlocks content).isEmpty ∧ 0 < content.countP ContentBlock.isReasoning then .text
      else .blocks ((ordinaryBlocks content).map ContentBlock.typeName) := by
  have kept : (content.map ContentBlock.typeName).filter (fun type => !reasoningType type) =
      (ordinaryBlocks content).map ContentBlock.typeName := by
    rw [List.filter_map]
    rfl
  rw [MessageContent.outline, ContentOutline.stripped, kept, List.isEmpty_map, List.countP_map,
    ← isReasoning_eq_comp]

theorem outline_of_siftsTo {content left : Option MessageContent}
    (sifts : MessageContent.SiftsTo content left) :
    MessageContent.outline left = (MessageContent.outline content).stripped := by
  cases sifts with
  | absent => rfl
  | text => rfl
  | emptied emptied => rw [stripped_outline_of_blocks, if_pos ((emptied_iff _).mp emptied)]; rfl
  | kept stays => rw [stripped_outline_of_blocks, if_neg (mt (emptied_iff _).mpr stays)]; rfl

theorem outline_of_stripsTo {message stripped : ChatMessage} (strips : message.StripsTo stripped) :
    stripped.outline = message.outline.stripped := by
  cases strips with
  | other other => exact (if_neg other).symm
  | assistant assistant sifts =>
      have role : message.outline.role = .assistant := assistant
      rw [MessageOutline.stripped, if_pos role]
      simp only [outline, outline_of_siftsTo sifts]
      rfl

/-- A message, places among its blocks, and a message that has just the blocks at these
places: all of them, but for reasoning of an assistant. -/
structure KeepsAt (message : ChatMessage) (places : List Nat) (stripped : ChatMessage) :
    Prop where
  ascending : places.Pairwise (· < ·)
  kept : ∀ place, place ∈ places ↔ ∃ block, message.blocks[place]? = some block ∧
    (message.role = .assistant → ¬ block.TaggedReasoning)
  blocks : stripped.blocks.map some = places.map (message.blocks[·]?)

theorem keptPlaces_outline (message : ChatMessage) :
    message.outline.keptPlaces =
      message.blocks.findIdxs fun block =>
        message.role != .assistant || !block.isReasoning := by
  rw [MessageOutline.keptPlaces, types_outline, List.findIdxs_map]
  rfl

theorem blocks_of_stripsTo_eq_filter {message stripped : ChatMessage}
    (strips : message.StripsTo stripped) :
    stripped.blocks = message.blocks.filter fun block =>
      message.role != .assistant || !block.isReasoning := by
  cases strips with
  | other other =>
      refine (List.filter_eq_self.mpr ?_).symm
      intro block _
      rw [bne_iff_ne.mpr other, Bool.true_or]
  | assistant assistant sifts =>
      rw [blocks_of_stripsTo (.assistant assistant sifts) assistant, ordinaryBlocks, assistant]
      rfl

theorem keepsAt_of_stripsTo {message stripped : ChatMessage} (strips : message.StripsTo stripped) :
    message.KeepsAt message.outline.keptPlaces stripped where
  ascending := List.pairwise_findIdxs
  kept place := by
    rw [keptPlaces_outline, List.mem_findIdxs_iff_exists_getElem_pos]
    simp only [List.getElem?_eq_some_iff, Bool.or_eq_true, bne_iff_ne, Bool.not_eq_true',
      ← Bool.not_eq_true, isReasoning_iff, imp_iff_not_or]
    constructor
    · intro stays
      rcases stays with ⟨inside, spared⟩
      exact ⟨_, ⟨inside, rfl⟩, spared⟩
    · intro holds
      rcases holds with ⟨block, ⟨inside, rfl⟩, spared⟩
      exact ⟨inside, spared⟩
  blocks := by
    rw [blocks_of_stripsTo_eq_filter strips, keptPlaces_outline, map_some_filter]

end ChatMessage

/-! All messages. -/

theorem isStructured_eq_any_outline (messages : List ChatMessage) :
    isStructured messages = (messages.map ChatMessage.outline).any fun outline =>
      outline.content.types.any structuralType := by
  rw [List.any_map, isStructured]
  congr 1
  funext message
  rw [Function.comp_apply, ChatMessage.types_outline, List.any_map, ← isStructural_eq_comp]

theorem findIdx?_bare_outline (messages : List ChatMessage) :
    messages.dropLast.findIdx? (fun message =>
      message.role == .assistant && !message.showsReasoning) =
      (messages.map ChatMessage.outline).dropLast.findIdx? fun outline =>
        outline.role == .assistant && !outline.showsReasoning := by
  rw [← List.map_dropLast, List.findIdx?_map]
  congr 1
  funext message
  rw [Function.comp_apply, ChatMessage.showsReasoning_outline]
  rfl

theorem countP_assistant_outline (messages : List ChatMessage) :
    messages.dropLast.countP (·.role == .assistant) =
      (messages.map ChatMessage.outline).dropLast.countP (·.role == .assistant) := by
  rw [← List.map_dropLast, List.countP_map]
  rfl

theorem report_eq_of_outlines (messages : List ChatMessage) :
    (stripReasoning messages).2 =
      { messages := (messages.map ChatMessage.outline).countP (0 < ·.reasoningCount)
        blocks := ((messages.map ChatMessage.outline).map MessageOutline.reasoningCount).sum } := by
  rw [stripReasoning_eq, List.countP_map, List.map_map]
  simp only [Function.comp_def, ChatMessage.reasoningCount_outline]

theorem outlines_stripReasoning (messages : List ChatMessage) :
    (stripReasoning messages).1.map ChatMessage.outline =
      (messages.map ChatMessage.outline).map MessageOutline.stripped := by
  rw [stripReasoning_eq, List.map_map, List.map_map]
  apply List.map_congr_left
  intro message _
  exact ChatMessage.outline_of_stripsTo message.stripsTo_withoutReasoning

/-- Messages, places among the blocks of each, and what is left of the messages. -/
inductive KeepsPlaces : List ChatMessage → List (List Nat) → List ChatMessage → Prop where
  | nil : KeepsPlaces [] [] []
  | cons {message stripped : ChatMessage} {places : List Nat} {messages left : List ChatMessage}
      {others : List (List Nat)} (keeps : message.KeepsAt places stripped)
      (rest : KeepsPlaces messages others left) :
      KeepsPlaces (message :: messages) (places :: others) (stripped :: left)

theorem keepsPlaces_stripReasoning (messages : List ChatMessage) :
    KeepsPlaces messages ((messages.map ChatMessage.outline).map MessageOutline.keptPlaces)
      (stripReasoning messages).1 := by
  rw [List.map_map]
  have strips := forall₂_stripsTo messages
  generalize (stripReasoning messages).1 = left at strips
  induction strips with
  | nil => exact .nil
  | cons strips _ induction => exact .cons (ChatMessage.keepsAt_of_stripsTo strips) induction

/-- Conversations of the same outlines are classified alike, are as much of a continuation, and
lose blocks at the same places when they are stripped. -/
theorem decisions_of_outlines {left right : List ChatMessage}
    (alike : left.map ChatMessage.outline = right.map ChatMessage.outline) :
    isStructured left = isStructured right ∧
      Continuity.assess left = Continuity.assess right ∧
      (stripReasoning left).2 = (stripReasoning right).2 ∧
      (stripReasoning left).1.map ChatMessage.outline =
        (stripReasoning right).1.map ChatMessage.outline ∧
      ∃ places, KeepsPlaces left places (stripReasoning left).1 ∧
        KeepsPlaces right places (stripReasoning right).1 := by
  refine ⟨?_, ?_, ?_, ?_, ?_⟩
  · rw [isStructured_eq_any_outline, alike, ← isStructured_eq_any_outline]
  · simp only [Continuity.assess, findIdx?_bare_outline, countP_assistant_outline, alike]
  · rw [report_eq_of_outlines, alike, ← report_eq_of_outlines]
  · rw [outlines_stripReasoning, alike, ← outlines_stripReasoning]
  · refine ⟨_, keepsPlaces_stripReasoning left, ?_⟩
    rw [alike]
    exact keepsPlaces_stripReasoning right

def readAnswer : List ChatMessage :=
  [.ofContent .user (.text "first"),
    { ChatMessage.ofContent .assistant
        (.blocks [.thinking "weighing" (some "signed") .empty, .plainText "whole"]) with
      thinkingBlocks := some [.redactedThinking "sealed" .empty] },
    .ofContent .user (.text "second")]

/-- The same types of blocks, of which none was understood, and other words. -/
def unreadAnswer : List ChatMessage :=
  [.ofContent .user (.text ""),
    { ChatMessage.ofContent .assistant
        (.blocks [.other (.object [("type", .string "thinking"), ("thinking", .null)]),
          .other (.object [("type", .string "text")])]) with
      thinkingBlocks := some [.other .null] },
    .ofContent .user (.text "again")]

theorem decisions_of_unreadAnswer :
    readAnswer.map ChatMessage.outline = unreadAnswer.map ChatMessage.outline ∧
      (stripReasoning readAnswer).2 = { messages := 1, blocks := 2 } ∧
      (stripReasoning unreadAnswer).2 = { messages := 1, blocks := 2 } ∧
      ∃ places, KeepsPlaces readAnswer places (stripReasoning readAnswer).1 ∧
        KeepsPlaces unreadAnswer places (stripReasoning unreadAnswer).1 := by
  have alike : readAnswer.map ChatMessage.outline = unreadAnswer.map ChatMessage.outline := by
    decide
  rcases decisions_of_outlines alike with ⟨_, _, sameReport, _, samePlaces⟩
  have report : (stripReasoning readAnswer).2 = { messages := 1, blocks := 2 } := by decide
  exact ⟨alike, report, sameReport ▸ report, samePlaces⟩

end ChatGateway

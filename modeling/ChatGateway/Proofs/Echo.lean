import ChatGateway.Chat.Reply
import ChatGateway.Proofs.Conversation
import ChatGateway.Proofs.ReadBack

namespace ChatGateway

/-! The echo of an answer. A client repeats the message it was answered with in its
next request. Expanded into blocks, the echo is the answer again, in the order in
which an assistant turn is written: reasoning, then one text, then calls. -/

/-- The chat message in which a client repeats what it was answered. -/
def ChoiceMessage.echo (message : ChoiceMessage) : ChatMessage where
  role := .assistant
  content := message.content.map .text
  toolCalls := message.toolCalls
  toolCallId := none
  name := none
  thinkingBlocks := message.thinkingBlocks
  extra := .empty

def Completion.echoes (completion : Completion) : List ChatMessage :=
  completion.choices.map (·.message.echo)

/-! What is to come back of an answer. -/

/-- A call with its identity, its tool and its input. An input that is no object, or
nests more brackets than a reader may open, comes back empty. -/
def ContentBlock.recalledCall? : ContentBlock → Option ContentBlock
  | .toolUse id name input _ =>
      some (.toolUse id name (if input.isObject ∧ input.depth ≤ 127 then input else .object [])
        .empty)
  | _ => none

namespace Answer

/-- The texts of the answer as one; its reasoning where they say nothing. -/
def recalledText (answer : Answer) : List ContentBlock :=
  let text := Text.join "" answer.texts
  let reasoning := Text.join "\n" answer.thoughts
  if text ≠ "" then [.plainText text]
  else if reasoning ≠ "" then [.plainText reasoning]
  else []

def recalled (answer : Answer) : List ContentBlock :=
  answer.content.filter isThinkingBlock ++ answer.recalledText ++
    answer.content.filterMap ContentBlock.recalledCall?

/-! What is answered. -/

@[simp] theorem getD_nonEmpty {α : Type} (items : List α) : (nonEmpty items).getD [] = items := by
  cases items <;> rfl

def replied (answer : Answer) : ChoiceMessage :=
  { answer.chatMessage with
    content := answer.chatMessage.promoted?.or answer.chatMessage.content }

theorem echoes_normalize_toCompletion (answer : Answer) (freshId : String) (created : Int)
    (model : String) :
    ((answer.toCompletion freshId created).normalize model).1.echoes = [answer.replied.echo] := by
  rw [Completion.echoes, Completion.normalize, toCompletion]
  simp only [List.map_cons, List.map_nil, Choice.normalize, replied]
  cases answer.chatMessage.promoted? <;> rfl

theorem sideBlocks_echo (answer : Answer) :
    answer.replied.echo.sideBlocks = answer.content.filter isThinkingBlock :=
  getD_nonEmpty _

theorem getD_joined (separator : String) (parts : List String) :
    ((nonEmpty parts).map (Text.join separator)).getD "" = Text.join separator parts := by
  cases parts <;> rfl

theorem toBlocks_map_text (content : Option String) :
    MessageContent.toBlocks (content.map .text) =
      if content.getD "" = "" then [] else [.plainText (content.getD "")] := by
  cases content <;> rfl

theorem getD_promoted (message : ChoiceMessage) :
    (message.promoted?.or message.content).getD "" =
      if message.content.getD "" = "" then message.reasoningContent.getD ""
      else message.content.getD "" := by
  have chosen : (message.reasoningContent.filter (· != "")).getD "" =
      message.reasoningContent.getD "" := by
    cases message.reasoningContent with
    | none => rfl
    | some reasoning => by_cases empty : reasoning = "" <;> simp [Option.filter_some, empty]
  rw [ChoiceMessage.promoted?]
  cases message.content with
  | none => simp [chosen]
  | some content =>
      by_cases empty : content = ""
      · subst empty
        rw [Option.or_some, Option.getD_some, ← chosen]
        simp
      · simp [empty]

theorem toBlocks_echo (answer : Answer) :
    MessageContent.toBlocks answer.replied.echo.content = answer.recalledText := by
  have content : answer.replied.echo.content =
      (answer.chatMessage.promoted?.or answer.chatMessage.content).map .text := rfl
  have said : answer.chatMessage.content.getD "" = Text.join "" answer.texts :=
    getD_joined "" answer.texts
  have thought : answer.chatMessage.reasoningContent.getD "" = Text.join "\n" answer.thoughts :=
    getD_joined "\n" answer.thoughts
  rw [content, toBlocks_map_text, getD_promoted, said, thought, recalledText]
  by_cases silent : Text.join "" answer.texts = "" <;> simp [silent]

end Answer

theorem input_of_render {input : Json}
    (printable : input.isObject = true → input.WellFormed ∧ input.DoublesReadBack) :
    ((Json.read input.render).filter Json.isObject).getD (.object []) =
      if input.isObject ∧ input.depth ≤ 127 then input else .object [] := by
  cases object : input.isObject with
  | true =>
      rcases printable object with ⟨wellFormed, doubles⟩
      rw [Json.read_render wellFormed doubles, maximalDepth]
      by_cases shallow : input.depth ≤ 127 <;> simp [shallow, object, Option.filter_some]
  | false =>
      have refused : (Json.read input.render).filter Json.isObject = none := by
        rw [Option.filter_eq_none_iff]
        intro value read isObject
        cases value with
        | object members => exact Json.read_render_ne_object object members read
        | _ => cases isObject
      simp [refused]

theorem asked_callOf? {block : ContentBlock}
    (printable : ∀ id name input extra, block = .toolUse id name input extra →
      input.isObject = true → input.WellFormed ∧ input.DoublesReadBack) :
    (Answer.callOf? block).map ToolCall.asked = block.recalledCall? := by
  cases block with
  | toolUse id name input extra =>
      rw [Answer.callOf?, Option.map_some, ToolCall.asked, ContentBlock.recalledCall?,
        input_of_render (printable id name input extra rfl)]
  | _ => rfl

theorem shown_recalledText (answer : Answer) :
    answer.recalledText.map ContentBlock.shown = answer.recalledText := by
  rw [Answer.recalledText]
  split
  · rfl
  · split <;> rfl

/-- The echo of an answer is expanded to the answer in canonical order: its reasoning
as it came; one text, if anything was said or thought; and its calls. Of the inputs
that are objects it is only used that they can be held, and that the doubles in them
read back. -/
theorem echo_expands_to_answer (answer : Answer) (freshId : String) (created : Int)
    (model : String)
    (printable : ∀ id name input extra, .toolUse id name input extra ∈ answer.content →
      input.isObject = true → input.WellFormed ∧ input.DoublesReadBack) :
    ((answer.toCompletion freshId created).normalize model).1.echoes.map
      ChatMessage.assistantBlocks = [answer.recalled] := by
  have calls : (answer.replied.echo.toolCalls.getD []).map ToolCall.asked =
      answer.content.filterMap ContentBlock.recalledCall? := by
    have listed : answer.replied.echo.toolCalls.getD [] = answer.toolCalls :=
      Answer.getD_nonEmpty _
    rw [listed, Answer.toolCalls, List.map_filterMap]
    apply List.filterMap_congr
    intro block member
    apply asked_callOf?
    rintro id name input extra rfl
    exact printable id name input extra member
  rw [Answer.echoes_normalize_toCompletion, List.map_singleton, ChatMessage.assistantBlocks,
    Answer.sideBlocks_echo, Answer.toBlocks_echo, withImageSource_eq_shown, toBlock_eq_asked,
    calls, shown_recalledText, Answer.recalled]

def scatteredAnswer : Answer where
  id := "answer"
  type := "message"
  role := "assistant"
  content :=
    [.toolUse "first" "weigh" (.object [("grams", .array [.number (.float 0.5),
        .number (.integer (-7))]), ("unit", .object [])]) .empty,
      .thinking "weighing" (some "signed") .empty,
      .plainText "half ",
      .other (.object [("type", .string "image")]),
      .redactedThinking "sealed" .empty,
      .toolUse "second" "list" (.array [.object []]) .empty,
      .plainText "whole"]
  model := "claude"
  stopReason := none
  stopSequence := none
  usage := ⟨0, 0, none, none⟩

theorem echo_of_scatteredAnswer :
    ((scatteredAnswer.toCompletion "fresh" 0).normalize "claude").1.echoes.map
      ChatMessage.assistantBlocks =
        [[.thinking "weighing" (some "signed") .empty, .redactedThinking "sealed" .empty,
          .plainText "half whole",
          .toolUse "first" "weigh" (.object [("grams", .array [.number (.float 0.5),
            .number (.integer (-7))]), ("unit", .object [])]) .empty,
          .toolUse "second" "list" (.object []) .empty]] := by
  have halfReadsBack : Json.read (Json.number (.float 0.5)).render =
      some (.number (.float 0.5)) := by decide +kernel
  have printable : ∀ id name input extra,
      .toolUse id name input extra ∈ scatteredAnswer.content → input.isObject = true →
        input.WellFormed ∧ input.DoublesReadBack := by
    intro id name input extra member isObject
    simp only [scatteredAnswer, ContentBlock.plainText, List.mem_cons, List.not_mem_nil,
      ContentBlock.toolUse.injEq, reduceCtorEq, or_false, false_or] at member
    rcases member with ⟨_, _, rfl, _⟩ | ⟨_, _, rfl, _⟩
    · refine ⟨?_, ?_⟩
      · simp only [Json.WellFormed, Json.ItemsWellFormed, Json.MembersWellFormed]
        decide
      · intro double held
        simp only [Json.numbers, Json.itemsNumbers, Json.membersNumbers, List.append_nil,
          List.mem_append, List.mem_singleton, Number.float.injEq, reduceCtorEq, or_false] at held
        rw [held]
        exact halfReadsBack
    · cases isObject
  exact echo_expands_to_answer scatteredAnswer "fresh" 0 "claude" printable

end ChatGateway

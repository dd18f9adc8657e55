import ChatGateway.Chat.Completion
import ChatGateway.Decision
import ChatGateway.Messages.Answer

namespace ChatGateway

/-! From the provider's answer to a chat completion. -/

def finishReason : (stopReason : String) → String
  | "max_tokens" => "length"
  | "tool_use" => "tool_calls"
  | "refusal" => "content_filter"
  | _ => "stop"

namespace Answer

def texts (answer : Answer) : List String :=
  answer.content.filterMap MessageContent.textOf?

def thoughtOf? : ContentBlock → Option String
  | .thinking thought _ _ => some thought
  | _ => none

def thoughts (answer : Answer) : List String :=
  answer.content.filterMap thoughtOf?

def isThinkingBlock : ContentBlock → Bool
  | .thinking .. | .redactedThinking .. => true
  | _ => false

def thinkingBlocks (answer : Answer) : List ContentBlock :=
  answer.content.filter isThinkingBlock

def callOf? : ContentBlock → Option ToolCall
  | .toolUse id name input _ => some ⟨id, "function", name, input.render⟩
  | _ => none

def toolCalls (answer : Answer) : List ToolCall :=
  answer.content.filterMap callOf?

def nonEmpty {α : Type} (items : List α) : Option (List α) :=
  if items.isEmpty then none else some items

def chatMessage (answer : Answer) : ChoiceMessage where
  role := "assistant"
  content := (nonEmpty answer.texts).map (Text.join "")
  reasoningContent := (nonEmpty answer.thoughts).map (Text.join "\n")
  thinkingBlocks := nonEmpty answer.thinkingBlocks
  toolCalls := nonEmpty answer.toolCalls

def chatUsage (answer : Answer) : ChatUsage where
  promptTokens := answer.usage.inputTokens
  completionTokens := answer.usage.outputTokens
  totalTokens := answer.usage.inputTokens + answer.usage.outputTokens

/-- The completion of an answer. `freshId` serves an answer without an id. -/
def toCompletion (answer : Answer) (freshId : String) (created : Int) : Completion where
  id := if answer.id = "" then freshId else answer.id
  object := "chat.completion"
  created := created
  model := answer.model
  choices :=
    [{ index := 0
       message := answer.chatMessage
       finishReason := some ((answer.stopReason.map finishReason).getD "stop") }]
  usage := some answer.chatUsage

end Answer

/-! Normalisation: the model is the one that was asked for, and a choice that has
reasoning but no text answers with its reasoning. -/

namespace ChoiceMessage

/-- The reasoning that takes the place of missing text. -/
def promoted? (message : ChoiceMessage) : Option String :=
  if message.content.all (· == "") then
    message.reasoningContent.filter (· != "")
  else none

end ChoiceMessage

namespace Choice

def normalize (choice : Choice) : Choice × List Decision :=
  match choice.message.promoted? with
  | some reasoning =>
      ({ choice with message := { choice.message with content := some reasoning } },
        [.reasoningContentPromoted choice.index])
  | none => (choice, [])

end Choice

namespace Completion

def normalize (completion : Completion) (model : String) : Completion × List Decision :=
  let normalized := completion.choices.map Choice.normalize
  ({ completion with model, choices := normalized.map Prod.fst },
    normalized.flatMap Prod.snd)

end Completion

end ChatGateway

import ChatGateway.Chat.Message

namespace ChatGateway

/-! Reasoning in a conversation: whether earlier assistant turns still carry it,
and how it is removed. Everything here looks at the tags of blocks only. -/

namespace ChatMessage

/-- The message carries reasoning, in its content or beside it. -/
def showsReasoning (message : ChatMessage) : Bool :=
  !message.sideBlocks.isEmpty || message.blocks.any ContentBlock.isReasoning

end ChatMessage

inductive Continuity where
  | firstTurn
  | preserved (assistantTurns : Nat)
  /-- The first assistant message without reasoning. -/
  | broken (messageIndex : Nat)
  deriving DecidableEq, Inhabited

namespace Continuity

def allowsActivation : Continuity → Bool
  | .broken _ => false
  | _ => true

/-- Checks every assistant message before the last message. -/
def assess (messages : List ChatMessage) : Continuity :=
  let history := messages.dropLast
  match history.findIdx? fun message => message.role == .assistant && !message.showsReasoning with
  | some index => .broken index
  | none =>
      match history.countP (·.role == .assistant) with
      | 0 => .firstTurn
      | turns + 1 => .preserved (turns + 1)

end Continuity

/-! Removal. An assistant message loses its reasoning blocks, in its content and
beside it; content that is emptied so becomes the empty text. -/

structure StripReport where
  messages : Nat
  blocks : Nat
  deriving DecidableEq, Inhabited

namespace MessageContent

/-- The content without reasoning, and the number of blocks that went. -/
def withoutReasoning : MessageContent → MessageContent × Nat
  | .text content => (.text content, 0)
  | .blocks content =>
      let kept := content.filter fun block => !block.isReasoning
      let removed := content.length - kept.length
      (if kept.isEmpty ∧ 0 < removed then .text "" else .blocks kept, removed)

end MessageContent

namespace ChatMessage

def withoutReasoning (message : ChatMessage) : ChatMessage × Nat :=
  if message.role = .assistant then
    let content := message.content.map MessageContent.withoutReasoning
    ({ message with content := content.map Prod.fst, thinkingBlocks := none },
      message.sideBlocks.length + (content.map Prod.snd).getD 0)
  else (message, 0)

end ChatMessage

def stripReasoning (messages : List ChatMessage) : List ChatMessage × StripReport :=
  let stripped := messages.map ChatMessage.withoutReasoning
  (stripped.map Prod.fst,
    { messages := stripped.countP fun (_, removed) => 0 < removed
      blocks := (stripped.map Prod.snd).foldr (· + ·) 0 })

/-! A conversation is structured when some content block is one that only the
Messages dialect has. -/

def ContentBlock.isStructural (block : ContentBlock) : Bool :=
  block.typeName == some "tool_use" || block.typeName == some "tool_result" ||
    block.typeName == some "thinking"

def isStructured (messages : List ChatMessage) : Bool :=
  messages.any fun message => message.blocks.any ContentBlock.isStructural

end ChatGateway

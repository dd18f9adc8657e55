import ChatGateway.Thinking.Activation

namespace ChatGateway

/-! The decisions that were taken about a request or an answer. They are what the
log tells about a payload beyond its text. -/

/-- When a tool choice was repaired: before the payload was built, or after. -/
inductive RepairStage where
  | inbound
  | outbound
  deriving DecidableEq, Inhabited

inductive Decision where
  | classified (structured : Bool) (messages : Nat)
  | toolChoiceDropped (stage : RepairStage) (toolChoice : Json)
  | reasoningBlocksStripped (messages blocks : Nat)
  | paramsDropped (params : List String)
  | codeExecutionToolAdded
  | betaDropped (token : String)
  | betasSelected (betas : List String)
  | thinking (outcome : ThinkingOutcome)
  | reasoningContentPromoted (choice : UInt64)
  deriving DecidableEq, Inhabited

namespace Decision

def tagged (decision : String) (fields : List (String × Json)) : Json :=
  .ofMembers (member "decision" (.string decision) ++ fields)

def toJson : Decision → Json
  | classified structured messages =>
      tagged "classified" (member "structured" (.bool structured) ++
        member "messages" (.ofNat messages))
  | toolChoiceDropped stage toolChoice =>
      let stage := match stage with
        | .inbound => "inbound"
        | .outbound => "outbound"
      tagged "tool_choice_dropped" (member "stage" (.string stage) ++
        member "tool_choice" toolChoice)
  | reasoningBlocksStripped messages blocks =>
      tagged "reasoning_blocks_stripped" (member "messages" (.ofNat messages) ++
        member "blocks" (.ofNat blocks))
  | paramsDropped params => tagged "params_dropped" (member "params" (.ofStrings params))
  | codeExecutionToolAdded => tagged "code_execution_tool_added" []
  | betaDropped token => tagged "beta_dropped" (member "token" (.string token))
  | betasSelected betas => tagged "betas_selected" (member "betas" (.ofStrings betas))
  | thinking outcome => tagged "reasoning" (member "outcome" outcome.toJson)
  | reasoningContentPromoted choice =>
      tagged "reasoning_content_promoted" (member "choice" (.ofUInt64 choice))

def summary : Decision → String
  | classified structured messages =>
      Text.ofNat messages ++ " messages classified as " ++
        (if structured then "anthropic" else "openai") ++ " format"
  | toolChoiceDropped stage toolChoice =>
      let stage := match stage with
        | .inbound => "Inbound"
        | .outbound => "Outbound"
      "Dropped invalid tool_choice " ++ toolChoice.render ++ " (" ++ stage ++ ")"
  | reasoningBlocksStripped messages blocks =>
      "Stripped " ++ Text.ofNat blocks ++ " thinking blocks from " ++ Text.ofNat messages ++
        " assistant messages"
  | paramsDropped params => "Dropped params: " ++ Text.join ", " params
  | codeExecutionToolAdded => "Added code execution tool"
  | betaDropped token => "Beta " ++ token ++ " not supported on Vertex"
  | betasSelected betas => "anthropic_beta=" ++ Text.join "," betas
  | thinking outcome => "Thinking: " ++ outcome.describe
  | reasoningContentPromoted choice =>
      "Copied reasoning_content into content for choice " ++ Text.ofNat choice.toNat

end Decision

end ChatGateway

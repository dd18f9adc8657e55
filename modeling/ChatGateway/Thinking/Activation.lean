import ChatGateway.Chat.Reasoning
import ChatGateway.Thinking

namespace ChatGateway

/-! Whether a payload asks for extended thinking. Tools rule it out; a
configuration of the caller is otherwise kept; and where only the model name or
a header asks for it, every earlier assistant turn must carry its reasoning. -/

inductive ThinkingSignal where
  | modelName
  | betaHeader
  | explicitConfig
  deriving DecidableEq, Inhabited

namespace ThinkingSignal

def key : ThinkingSignal → String
  | .modelName => "model_name"
  | .betaHeader => "beta_header"
  | .explicitConfig => "explicit_config"

def describe : ThinkingSignal → String
  | .modelName => "ModelName"
  | .betaHeader => "BetaHeader"
  | .explicitConfig => "ExplicitConfig"

def marker : String := "thinking"

/-- The model name comes before the header, and the header before the
configuration. -/
def detect (model : String) (betaHeader : Option String) (hasExplicit : Bool) :
    Option ThinkingSignal :=
  if Text.mentions model marker then some .modelName
  else if betaHeader.any (Text.mentions · marker) then some .betaHeader
  else if hasExplicit then some .explicitConfig
  else none

end ThinkingSignal

inductive ThinkingOutcome where
  | notRequested
  | suppressedByTools (removedExplicit : Bool)
  | activated (signal : ThinkingSignal) (budgetTokens : UInt64) (firstTurn : Bool)
  | refusedContinuity (messageIndex : Nat)
  | explicitKept (config : ThinkingConfig)
  | insufficientMaxTokens (maxTokens : UInt64)
  deriving DecidableEq, Inhabited

namespace ThinkingOutcome

def describe : ThinkingOutcome → String
  | .notRequested => "not requested"
  | .suppressedByTools false => "disabled because tools are present"
  | .suppressedByTools true => "disabled because tools are present (removed caller config)"
  | .activated signal budgetTokens firstTurn =>
      "enabled via " ++ signal.describe ++ ", " ++
        (if firstTurn then "first turn" else "multi-turn") ++ ", budget " ++
        Text.ofNat budgetTokens.toNat
  | .refusedContinuity messageIndex =>
      "skipped, assistant message " ++ Text.ofNat messageIndex ++ " has no thinking blocks"
  | .explicitKept config => "caller config kept: " ++ config.describe
  | .insufficientMaxTokens maxTokens =>
      "skipped, max_tokens " ++ Text.ofNat maxTokens.toNat ++ " leaves no valid budget"

def toJson : ThinkingOutcome → Json
  | .notRequested => tagged "not_requested" []
  | .suppressedByTools removedExplicit =>
      tagged "suppressed_by_tools" (member "removed_explicit" (.bool removedExplicit))
  | .activated signal budgetTokens firstTurn =>
      tagged "activated" (member "signal" (.string signal.key) ++
        member "budget_tokens" (.ofUInt64 budgetTokens) ++
        member "first_turn" (.bool firstTurn))
  | .refusedContinuity messageIndex =>
      tagged "refused_continuity" (member "message_index" (.ofNat messageIndex))
  | .explicitKept config => tagged "explicit_kept" (member "config" config.toJson)
  | .insufficientMaxTokens maxTokens =>
      tagged "insufficient_max_tokens" (member "max_tokens" (.ofUInt64 maxTokens))
where
  tagged (outcome : String) (fields : List (String × Json)) : Json :=
    .ofMembers (member "outcome" (.string outcome) ++ fields)

end ThinkingOutcome

structure ThinkingInputs where
  hasTools : Bool
  explicit : Option ThinkingConfig
  signal : Option ThinkingSignal
  continuity : Continuity
  maxTokens : UInt64
  deriving DecidableEq, Inhabited

namespace ThinkingInputs

def outcome (inputs : ThinkingInputs) : ThinkingOutcome :=
  if inputs.hasTools then .suppressedByTools inputs.explicit.isSome
  else
    match inputs.explicit, inputs.signal, inputs.continuity with
    | some config, _, _ =>
        match config.fit? inputs.maxTokens with
        | some config => .explicitKept config
        | none => .insufficientMaxTokens inputs.maxTokens
    | none, none, _ => .notRequested
    | none, some _, .broken messageIndex => .refusedContinuity messageIndex
    | none, some signal, continuity =>
        match thinkingBudget inputs.maxTokens with
        | some budgetTokens => .activated signal budgetTokens (continuity == .firstTurn)
        | none => .insufficientMaxTokens inputs.maxTokens

end ThinkingInputs

def ThinkingOutcome.config? : ThinkingOutcome → Option ThinkingConfig
  | .activated _ budgetTokens _ => some (.enabled budgetTokens)
  | .explicitKept config => some config
  | _ => none

end ChatGateway

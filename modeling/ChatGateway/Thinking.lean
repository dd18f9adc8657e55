import ChatGateway.Decoding

namespace ChatGateway

/-! Extended thinking: the configuration a payload carries, and the token budget
that it needs. A budget lies between the provider's minimum and the limit of the
answer less the tokens kept free for visible text. -/

inductive ThinkingConfig where
  | enabled (budgetTokens : UInt64)
  | disabled
  deriving DecidableEq, Inhabited

namespace ThinkingConfig

inductive Tag where
  | enabled
  | disabled
  deriving DecidableEq

def tag : Decoder Tag
  | .string "enabled" => .ok .enabled
  | .string "disabled" => .ok .disabled
  | .string name => .error (.unknownVariant name "`enabled` or `disabled`")
  | document => Decoder.fails document "variant identifier"

def enabledBody : Record ThinkingConfig :=
  enabled <$> .required "budget_tokens" .uint64

def decode : Decoder ThinkingConfig :=
  .tagged "internally tagged enum ThinkingConfig" tag fun
    | .enabled => enabledBody.decodeBody "struct variant ThinkingConfig::Enabled"
    | .disabled => fun _ => .ok .disabled

def write (object : ObjectMaker) : ThinkingConfig → Json
  | .enabled budgetTokens =>
      object (member "type" (.string "enabled") ++
        member "budget_tokens" (.ofUInt64 budgetTokens))
  | .disabled => object (member "type" (.string "disabled"))

def toJson : ThinkingConfig → Json := write .ofMembers

def describe : ThinkingConfig → String
  | .enabled budgetTokens =>
      "Enabled \x7b budget_tokens: " ++ Text.ofNat budgetTokens.toNat ++ " \x7d"
  | .disabled => "Disabled"

end ThinkingConfig

def minimalBudget : UInt64 := 1024

def answerReserve : UInt64 := 100

/-- The difference, or zero where it would be negative. -/
def saturatingSub (minuend subtrahend : UInt64) : UInt64 :=
  if minuend < subtrahend then 0 else minuend - subtrahend

/-- Brings a budget between the minimum and the limit less the reserve; none
when no budget lies there. -/
def clampBudget (budget maxTokens : UInt64) : Option UInt64 :=
  let clamped := min (max budget minimalBudget) (saturatingSub maxTokens answerReserve)
  if minimalBudget ≤ clamped then some clamped else none

/-- Half of the limit, brought into range. -/
def thinkingBudget (maxTokens : UInt64) : Option UInt64 :=
  clampBudget (maxTokens / 2) maxTokens

/-- Fits a configuration of the caller to the limit; none when it cannot be. -/
def ThinkingConfig.fit? (config : ThinkingConfig) (maxTokens : UInt64) :
    Option ThinkingConfig :=
  match config with
  | .enabled budgetTokens => (clampBudget budgetTokens maxTokens).map .enabled
  | .disabled => some .disabled

example : clampBudget 5000 1123 = none ∧ clampBudget 5000 1124 = some 1024 := by decide

end ChatGateway

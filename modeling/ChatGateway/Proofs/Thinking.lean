import ChatGateway.Proofs.Budget
import ChatGateway.Proofs.Outgoing

namespace ChatGateway

/-! When a payload asks for thinking, and with which budget. The decision reads
the final tools and limit, the configuration of the caller, the word that asks
for thinking, and the history; each has its one place in the decision. -/

/-! The word that asks for thinking. -/

namespace Text

/-- The pattern, which is in lower case, stands somewhere in the text when the
case of ASCII letters is ignored. -/
def Mentions (text pattern : String) : Prop :=
  ∃ part, part <:+: text.toList ∧ part.map Char.toLower = pattern.toList

theorem occursIn_iff_infix (pattern text : List Char) :
    occursIn pattern text = true ↔ pattern <:+: text := by
  induction text with
  | nil => rw [occursIn, List.isEmpty_iff, List.infix_nil]
  | cons char rest induction =>
      rw [occursIn, Bool.or_eq_true, List.isPrefixOf_iff_prefix, induction, List.infix_cons_iff]

theorem mentions_iff (text pattern : String) :
    mentions text pattern = true ↔ Mentions text pattern := by
  rw [mentions, occursIn_iff_infix, lowerAscii, List.infix_map_iff]
  constructor
  · rintro ⟨part, inText, lowered⟩
    exact ⟨part, inText, lowered.symm⟩
  · rintro ⟨part, inText, lowered⟩
    exact ⟨part, inText, lowered.symm⟩

end Text

/-- The model that the client asked for, or the beta header, asks for thinking. -/
def AsksForThinking (request : ChatRequest) (call : CallContext) : Prop :=
  Text.Mentions (call.requestedModel.getD request.model) "thinking" ∨
    ∃ header, call.anthropicBeta = some header ∧ Text.Mentions header "thinking"

theorem isSome_detect_iff (request : ChatRequest) (call : CallContext) :
    (ThinkingSignal.detect (call.requestedModel.getD request.model) call.anthropicBeta
      false).isSome = true ↔ AsksForThinking request call := by
  have headerMentions :
      call.anthropicBeta.any (Text.mentions · ThinkingSignal.marker) = true ↔
        ∃ header, call.anthropicBeta = some header ∧ Text.Mentions header "thinking" := by
    rw [Option.any_eq_true]
    exact exists_congr fun header => and_congr_right fun _ => Text.mentions_iff header _
  rw [AsksForThinking, ← headerMentions, ← Text.mentions_iff, ThinkingSignal.detect,
    ThinkingSignal.marker]
  split
  · next named => simp [named]
  · next unnamed =>
      split
      · next inHeader => simp [inHeader]
      · next notInHeader => simp [unnamed, notInHeader]

/-! Configurations of the caller. -/

/-- The configuration that is sent for one of the caller: itself, its budget
brought between the minimum and the limit less the reserve. -/
def ThinkingConfig.FittedTo (limit : Nat) : ThinkingConfig → ThinkingConfig → Prop
  | .enabled wanted, sent =>
      ∃ budget, sent = .enabled budget ∧ budget.toNat = max 1024 (min wanted.toNat (limit - 100))
  | .disabled, sent => sent = .disabled

theorem fit?_eq_none_iff (wanted : ThinkingConfig) (maxTokens : UInt64) :
    wanted.fit? maxTokens = none ↔
      (∃ budget, wanted = .enabled budget) ∧ maxTokens.toNat < 1124 := by
  cases wanted with
  | enabled budget => simp [ThinkingConfig.fit?, clampBudget_eq_none_iff]
  | disabled => simp [ThinkingConfig.fit?]

theorem fittedTo_of_fit?_eq_some {wanted sent : ThinkingConfig} {maxTokens : UInt64}
    (fits : wanted.fit? maxTokens = some sent) : wanted.FittedTo maxTokens.toNat sent := by
  cases wanted with
  | enabled budget =>
      rcases Option.map_eq_some_iff.mp fits with ⟨found, clamped, rfl⟩
      exact ⟨found, rfl, (toNat_of_clampBudget_eq_some clamped).2⟩
  | disabled => exact (Option.some.inj fits).symm

theorem bounds_of_fit?_eq_enabled {wanted : ThinkingConfig} {maxTokens budget : UInt64}
    (fits : wanted.fit? maxTokens = some (.enabled budget)) :
    1024 ≤ budget.toNat ∧ budget.toNat + 100 ≤ maxTokens.toNat := by
  cases wanted with
  | enabled wanted =>
      rcases Option.map_eq_some_iff.mp fits with ⟨found, clamped, equal⟩
      cases equal
      have bounds := toNat_of_clampBudget_eq_some clamped
      omega
  | disabled => cases fits

/-! The decision. -/

theorem allowsActivation_iff (continuity : Continuity) :
    continuity.allowsActivation = true ↔ ∀ index, continuity ≠ .broken index := by
  cases continuity <;> simp [Continuity.allowsActivation]

/-- What is sent: nothing beside tools, else what the caller configured, else half
of the limit where thinking is asked for and the history allows it. -/
theorem config?_outcome (inputs : ThinkingInputs) :
    inputs.outcome.config? =
      if inputs.hasTools then none
      else match inputs.explicit with
        | some wanted => wanted.fit? inputs.maxTokens
        | none =>
            if inputs.signal.isSome ∧ inputs.continuity.allowsActivation then
              (thinkingBudget inputs.maxTokens).map .enabled
            else none := by
  rcases inputs with ⟨hasTools, explicit, signal, continuity, maxTokens⟩
  cases hasTools with
  | true => rfl
  | false =>
      cases explicit with
      | some wanted =>
          cases fitted : wanted.fit? maxTokens <;>
            simp [ThinkingInputs.outcome, fitted, ThinkingOutcome.config?]
      | none =>
          cases signal with
          | none => rfl
          | some signal =>
              cases budget : thinkingBudget maxTokens <;> cases continuity <;>
                simp [ThinkingInputs.outcome, budget, ThinkingOutcome.config?,
                  Continuity.allowsActivation]

namespace Outgoing

variable (request : ChatRequest) (call : CallContext) (options : PayloadOptions)

theorem thinking_eq_none_of_tools
    (tools : (ofRequest request call options).payload.hasTools = true) :
    (ofRequest request call options).payload.thinking = none := by
  rw [thinking_ofRequest, thinkingInputs, config?_outcome]
  simp only [tools, if_true]

theorem thinking_of_explicit {wanted : ThinkingConfig}
    (noTools : (ofRequest request call options).payload.hasTools = false)
    (explicit : request.thinking = some wanted) :
    (ofRequest request call options).payload.thinking =
      wanted.fit? (ofRequest request call options).payload.maxTokens := by
  rw [thinking_ofRequest, thinkingInputs, config?_outcome]
  simp only [noTools, explicit]
  rfl

theorem thinking_of_implicit
    (noTools : (ofRequest request call options).payload.hasTools = false)
    (implicit : request.thinking = none) (sent : ThinkingConfig) :
    (ofRequest request call options).payload.thinking = some sent ↔
      AsksForThinking request call ∧
      (∀ index, Continuity.assess request.messages ≠ .broken index) ∧
      ∃ budget, sent = .enabled budget ∧
        thinkingBudget (ofRequest request call options).payload.maxTokens = some budget := by
  rw [thinking_ofRequest, thinkingInputs, config?_outcome]
  simp only [noTools, implicit, inboundMessages_of_no_tools request call options noTools,
    Option.isSome_none, isSome_detect_iff, allowsActivation_iff, Bool.false_eq_true, if_false,
    Option.ite_none_right_eq_some, Option.map_eq_some_iff, and_assoc]
  refine and_congr_right fun _ => and_congr_right fun _ => exists_congr fun budget => ?_
  constructor
  · rintro ⟨found, rfl⟩
    exact ⟨rfl, found⟩
  · rintro ⟨rfl, found⟩
    exact ⟨found, rfl⟩

theorem hasTools_eq_false_of_thinking {sent : ThinkingConfig}
    (present : (ofRequest request call options).payload.thinking = some sent) :
    (ofRequest request call options).payload.hasTools = false := by
  cases tools : (ofRequest request call options).payload.hasTools with
  | false => rfl
  | true =>
      rw [thinking_eq_none_of_tools request call options tools] at present
      cases present

theorem bounds_of_thinking_enabled {budget : UInt64}
    (enabled : (ofRequest request call options).payload.thinking = some (.enabled budget)) :
    1024 ≤ budget.toNat ∧
      budget.toNat + 100 ≤ (ofRequest request call options).payload.maxTokens.toNat := by
  have noTools := hasTools_eq_false_of_thinking request call options enabled
  cases explicit : request.thinking with
  | some wanted =>
      rw [thinking_of_explicit request call options noTools explicit] at enabled
      exact bounds_of_fit?_eq_enabled enabled
  | none =>
      rcases (thinking_of_implicit request call options noTools explicit _).mp enabled with
        ⟨_, _, found, equal, halved⟩
      cases equal
      have bounds := toNat_of_thinkingBudget_eq_some halved
      omega

/-- Thinking that the caller did not configure needs no tools, a word that asks
for it, an intact history and room for a budget, and nothing else. -/
theorem isSome_thinking_iff_of_implicit (implicit : request.thinking = none) :
    (ofRequest request call options).payload.thinking.isSome ↔
      (ofRequest request call options).payload.hasTools = false ∧
      AsksForThinking request call ∧
      (∀ index, Continuity.assess request.messages ≠ .broken index) ∧
      1124 ≤ (ofRequest request call options).payload.maxTokens.toNat := by
  rw [Option.isSome_iff_exists]
  constructor
  · rintro ⟨sent, present⟩
    have noTools := hasTools_eq_false_of_thinking request call options present
    rcases (thinking_of_implicit request call options noTools implicit sent).mp present with
      ⟨asked, intact, budget, _, halved⟩
    exact ⟨noTools, asked, intact, (toNat_of_thinkingBudget_eq_some halved).1⟩
  · rintro ⟨noTools, asked, intact, room⟩
    cases halved : thinkingBudget (ofRequest request call options).payload.maxTokens with
    | none =>
        have noRoom := (clampBudget_eq_none_iff _ _).mp halved
        omega
    | some budget =>
        exact ⟨.enabled budget,
          (thinking_of_implicit request call options noTools implicit _).mpr
            ⟨asked, intact, budget, rfl, halved⟩⟩

/-- The thinking field is fixed by four laws: tools exclude it; an enabled budget
respects the minimum and the reserve; a configuration of the caller is sent as it
fits the limit, and left out only when no budget fits; and without one, thinking
is sent when it is asked for, the history allows it and the limit has room, with
half of the limit as its budget. -/
theorem thinking_field_laws (request : ChatRequest) (call : CallContext)
    (options : PayloadOptions) :
    let payload := (ofRequest request call options).payload
    let limit := payload.maxTokens.toNat
    (payload.thinking.isSome → payload.toolList = []) ∧
    (∀ budget, payload.thinking = some (.enabled budget) →
      1024 ≤ budget.toNat ∧ budget.toNat + 100 ≤ limit) ∧
    (∀ wanted, request.thinking = some wanted → payload.toolList = [] →
      (payload.thinking = none ↔ (∃ budget, wanted = .enabled budget) ∧ limit < 1124) ∧
      ∀ sent, payload.thinking = some sent → wanted.FittedTo limit sent) ∧
    (request.thinking = none →
      (payload.thinking.isSome ↔ payload.toolList = [] ∧ AsksForThinking request call ∧
        (∀ index, Continuity.assess request.messages ≠ .broken index) ∧ 1124 ≤ limit) ∧
      ∀ sent, payload.thinking = some sent →
        ∃ budget, sent = .enabled budget ∧ budget.toNat = max 1024 (limit / 2)) := by
  intro payload limit
  simp only [← hasTools_eq_false_iff payload]
  refine ⟨?_, ?_, ?_, ?_⟩
  · intro present
    rcases Option.isSome_iff_exists.mp present with ⟨sent, equal⟩
    exact hasTools_eq_false_of_thinking request call options equal
  · intro budget enabled
    exact bounds_of_thinking_enabled request call options enabled
  · intro wanted explicit noTools
    rw [thinking_of_explicit request call options noTools explicit]
    exact ⟨fit?_eq_none_iff wanted _, fun sent fits => fittedTo_of_fit?_eq_some fits⟩
  · intro implicit
    refine ⟨isSome_thinking_iff_of_implicit request call options implicit, ?_⟩
    intro sent present
    have noTools := hasTools_eq_false_of_thinking request call options present
    rcases (thinking_of_implicit request call options noTools implicit sent).mp present with
      ⟨_, _, budget, equal, halved⟩
    exact ⟨budget, equal, (toNat_of_thinkingBudget_eq_some halved).2⟩

def askingRequest : ChatRequest :=
  .ofMessages "claude-Thinking" [.ofContent .user (.text "first")]

theorem thinking_laws_of_askingRequest :
    ∃ budget, (ofRequest askingRequest default plainOptions).payload.thinking =
      some (.enabled budget) ∧ budget.toNat = 2048 := by
  have implicit :=
    (thinking_field_laws askingRequest default plainOptions).2.2.2 rfl
  have asked : AsksForThinking askingRequest default :=
    .inl ((Text.mentions_iff _ _).mp (by decide))
  have intact : ∀ index, Continuity.assess askingRequest.messages ≠ .broken index := by
    intro index
    exact Continuity.noConfusion
  rcases Option.isSome_iff_exists.mp (implicit.1.mpr ⟨by decide, asked, intact, by decide⟩) with
    ⟨sent, present⟩
  rcases implicit.2 sent present with ⟨budget, rfl, half⟩
  exact ⟨budget, present, half⟩

end Outgoing

end ChatGateway

import ChatGateway.Proofs.History

namespace ChatGateway

/-! Refused thinking. Where thinking is asked for over a broken history it is refused,
and the first assistant message without reasoning is named. Whatever is added to the
conversation later, that message stays the first of its kind, and stays before the last
message; so the refusal is never taken back, and never names another message. -/

theorem assess_eq_broken_iff {messages : List ChatMessage} {index : Nat} :
    Continuity.assess messages = .broken index ↔
      (messages.dropLast.findIdx? fun message =>
        message.role == .assistant && !message.showsReasoning) = some index := by
  rw [Continuity.assess]
  split
  · next found => simp [found]
  · next found =>
      simp only [found, reduceCtorEq, iff_false]
      split <;> simp

theorem dropLast_continued {messages longer : List ChatMessage}
    (continued : messages <+: longer) : messages.dropLast <+: longer.dropLast := by
  rcases continued with ⟨more, rfl⟩
  rw [List.dropLast_append]
  split
  · exact List.prefix_refl _
  · exact (List.dropLast_prefix messages).trans (List.prefix_append _ _)

theorem assess_continued {messages longer : List ChatMessage} {index : Nat}
    (continued : messages <+: longer) (broken : Continuity.assess messages = .broken index) :
    Continuity.assess longer = .broken index := by
  rw [assess_eq_broken_iff] at broken ⊢
  exact (dropLast_continued continued).findIdx?_eq_some broken

/-- Only a signal is refused, only without tools, and only over a broken history. -/
theorem outcome_eq_refused_iff (inputs : ThinkingInputs) (index : Nat) :
    inputs.outcome = .refusedContinuity index ↔
      inputs.hasTools = false ∧ inputs.explicit = none ∧ inputs.signal.isSome ∧
        inputs.continuity = .broken index := by
  rcases inputs with ⟨hasTools, explicit, signal, continuity, maxTokens⟩
  cases hasTools with
  | true => simp [ThinkingInputs.outcome]
  | false =>
      cases explicit with
      | some wanted =>
          cases fitted : wanted.fit? maxTokens <;> simp [ThinkingInputs.outcome, fitted]
      | none =>
          cases signal with
          | none => simp [ThinkingInputs.outcome]
          | some signal =>
              cases continuity with
              | broken found => simp [ThinkingInputs.outcome]
              | _ =>
                  cases budget : thinkingBudget maxTokens <;>
                    simp [ThinkingInputs.outcome, budget]

namespace Outgoing

variable (request : ChatRequest) (call : CallContext) (options : PayloadOptions)

theorem refused_iff (index : Nat) :
    .thinking (.refusedContinuity index) ∈ (ofRequest request call options).decisions ↔
      (ofRequest request call options).payload.hasTools = false ∧ request.thinking = none ∧
        AsksForThinking request call ∧ Continuity.assess request.messages = .broken index := by
  rw [thinking_mem_iff, eq_comm, outcome_eq_refused_iff]
  refine and_congr_right fun noTools =>
    and_congr_right fun (implicit : request.thinking = none) => ?_
  rw [thinkingInputs, inboundMessages_of_no_tools request call options noTools, implicit,
    Option.isSome_none, isSome_detect_iff]

/-- Once refused, thinking stays off: a later request of the same conversation is sent
without it, whatever else the request says, as long as it has no configuration of its
own; and where it is refused again it is over the same message. -/
theorem stays_refused {request later : ChatRequest} {call : CallContext}
    {options : PayloadOptions} {index : Nat}
    (refused : .thinking (.refusedContinuity index) ∈ (ofRequest request call options).decisions)
    (continued : request.messages <+: later.messages) (implicit : later.thinking = none)
    (laterCall : CallContext) (laterOptions : PayloadOptions) :
    let sent := ofRequest later laterCall laterOptions
    sent.payload.thinking = none ∧
      (∀ again, .thinking (.refusedContinuity again) ∈ sent.decisions → again = index) ∧
      (sent.payload.toolList = [] → AsksForThinking later laterCall →
        .thinking (.refusedContinuity index) ∈ sent.decisions) := by
  intro sent
  have broken := assess_continued continued
    ((refused_iff request call options index).mp refused).2.2.2
  refine ⟨?_, ?_, ?_⟩
  · rw [← Option.not_isSome_iff_eq_none, isSome_thinking_iff_of_implicit later _ _ implicit]
    rintro ⟨_, _, intact, _⟩
    exact intact index broken
  · intro again refusedAgain
    have brokenAgain := ((refused_iff later _ _ again).mp refusedAgain).2.2.2
    rw [broken] at brokenAgain
    exact (Continuity.broken.inj brokenAgain).symm
  · intro noTools asked
    rw [← hasTools_eq_false_iff] at noTools
    exact (refused_iff later _ _ index).mpr ⟨noTools, implicit, asked, broken⟩

def silentRequest : ChatRequest :=
  .ofMessages "claude-Thinking"
    [.ofContent .user (.text "first"), .ofContent .assistant (.text "plain"),
      .ofContent .user (.text "second")]

def resumedSilentRequest : ChatRequest :=
  .ofMessages "claude-opus"
    (silentRequest.messages ++
      [.ofContent .assistant (.blocks [.redactedThinking "sealed" .empty, .plainText "whole"]),
        .ofContent .user (.text "third")])

theorem stays_refused_of_silentRequest :
    let call : CallContext := { (default : CallContext) with anthropicBeta := some "thinking-on" }
    let sent := ofRequest resumedSilentRequest call plainOptions
    .thinking (.refusedContinuity 1) ∈
        (ofRequest silentRequest default plainOptions).decisions ∧
      sent.payload.thinking = none ∧ .thinking (.refusedContinuity 1) ∈ sent.decisions := by
  intro call sent
  have refused : .thinking (.refusedContinuity 1) ∈
      (ofRequest silentRequest default plainOptions).decisions := by decide
  have continued : silentRequest.messages <+: resumedSilentRequest.messages :=
    List.prefix_append _ _
  have stays := stays_refused refused continued rfl call plainOptions
  have asked : AsksForThinking resumedSilentRequest call :=
    .inr ⟨_, rfl, (Text.mentions_iff _ _).mp (by decide)⟩
  exact ⟨refused, stays.1, stays.2.2 (by decide) asked⟩

end Outgoing

end ChatGateway

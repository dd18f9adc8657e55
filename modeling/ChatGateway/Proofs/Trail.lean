import ChatGateway.Proofs.Keys
import ChatGateway.Proofs.ToolChoices

namespace ChatGateway

/-! The trail of decisions, as an audit of what was sent. Nothing ties the trail to the
payload but the order in which both are made, so each matter is taken by itself: what
the trail tells about it is read off against the request and the payload. -/

/-- The outcome tells which configuration is sent. -/
structure ThinkingOutcome.Describes (outcome : ThinkingOutcome) (sent : Option ThinkingConfig) :
    Prop where
  enabled : ∀ budget, sent = some (.enabled budget) ↔
    (∃ signal firstTurn, outcome = .activated signal budget firstTurn) ∨
      outcome = .explicitKept (.enabled budget)
  disabled : sent = some .disabled ↔ outcome = .explicitKept .disabled
  absent : sent = none ↔
    (∀ signal budget firstTurn, outcome ≠ .activated signal budget firstTurn) ∧
      ∀ config, outcome ≠ .explicitKept config

theorem ThinkingOutcome.describes_config? (outcome : ThinkingOutcome) :
    outcome.Describes outcome.config? := by
  cases outcome with
  | activated signal budget firstTurn => constructor <;> simp [config?]
  | explicitKept config => constructor <;> simp [config?]
  | _ => constructor <;> simp [config?]

namespace Outgoing

/-- A further parameter that is not passed on because the provider or the options do not
want it. The flag for parallel calls is none where it moves into the tool choice. -/
structure Unsupported (request : ChatRequest) (options : PayloadOptions) (key : String) :
    Prop where
  present : key ∈ request.extra.keys
  unwanted : key ∈ chatOnlyParams ∨ key ∈ options.dropParams
  unmoved : key = "parallel_tool_calls" → ∀ allowed, ¬ request.MovesParallel allowed

/-- A trail that tells what was done to a request, and tells it once. -/
structure Audits (request : ChatRequest) (options : PayloadOptions) (payload : Payload)
    (trail : List Decision) : Prop where
  once : ∀ kind, (Decision.told kind trail).length ≤ 1
  classified : ∃ structured,
    Decision.told .classified trail = [.classified structured request.messages.length]
  /-- The decision about thinking comes last. -/
  thinking : ∃ outcome, trail.getLast? = some (.thinking outcome) ∧
    Decision.told .thinking trail = [.thinking outcome] ∧ outcome.Describes payload.thinking
  toolChoiceDropped : ∀ stage value, .toolChoiceDropped stage value ∈ trail ↔
    stage = .inbound ∧ ∃ choice, request.toolChoice = some choice ∧ ¬ choice.Accepted ∧
      value = choice.toJson
  /-- All that is missing in the payload was not wanted, but for the flag for parallel
  calls and the model. -/
  removed : ∀ key ∈ request.extra.keys, key ∉ payload.extra.keys ↔
    Unsupported request options key ∨ key = "parallel_tool_calls" ∨ key = "model"
  paramsDropped : ∃ params : List String, params.Pairwise (· < ·) ∧
    (∀ key, key ∈ params ↔ Unsupported request options key) ∧
    Decision.told .paramsDropped trail = if params = [] then [] else [.paramsDropped params]
  codeExecutionToolAdded : .codeExecutionToolAdded ∈ trail ↔
    payload.toolList.length = request.toolList.length + 1
  betasSelected : ∀ betas, .betasSelected betas ∈ trail ↔ payload.anthropicBeta = some betas
  /-- The messages were stripped as the client sent them, or as they were built when the
  only tool is one that was added. -/
  reasoningBlocksStripped : ∀ messages blocks,
    .reasoningBlocksStripped messages blocks ∈ trail ↔ payload.toolList ≠ [] ∧ 0 < blocks ∧
      (stripReasoning (if request.toolList = [] then request.builtMessages
        else request.messages)).2 = ⟨messages, blocks⟩

variable (request : ChatRequest) (call : CallContext) (options : PayloadOptions)

theorem length_inboundMessages : request.inboundMessages.length = request.messages.length := by
  rw [ChatRequest.inboundMessages]
  cases request.hasTools <;> simp [stripIf, stripReasoning]

/-! Parameters. -/

theorem mem_keys_repaired {key : String} :
    key ∈ request.repaired.extra.keys ↔ key ∈ request.extra.keys ∧
      (key = parallelParam → ∀ allowed, ¬ request.MovesParallel allowed) := by
  rw [Object.mem_keys_iff, Object.mem_keys_iff]
  by_cases flag : key = parallelParam
  · subst flag
    rcases repaired_cases request with ⟨allowed, moved, equal⟩ | ⟨never, equal⟩
    · rw [equal, Object.erase, Object.get?_filter, if_neg (by simp)]
      refine iff_of_false Bool.false_ne_true ?_
      rintro ⟨_, never⟩
      exact never rfl allowed moved
    · rw [equal]
      exact (and_iff_left fun _ => never).symm
  · rw [get?_extra_repaired request flag]
    exact (and_iff_left fun equal => absurd equal flag).symm

theorem unsupported_iff (key : String) :
    key ∈ request.repaired.extra.keys.filter (isDropped options) ↔
      Unsupported request options key := by
  rw [List.mem_filter, mem_keys_repaired, isDropped, Bool.or_eq_true, List.contains_iff_mem,
    List.contains_iff_mem]
  constructor
  · rintro ⟨⟨present, unmoved⟩, unwanted⟩
    exact ⟨present, unwanted, unmoved⟩
  · rintro ⟨present, unwanted, unmoved⟩
    exact ⟨⟨present, unmoved⟩, unwanted⟩

theorem told_paramsDropped :
    ∃ params : List String, params.Pairwise (· < ·) ∧
      (∀ key, key ∈ params ↔ Unsupported request options key) ∧
      Decision.told .paramsDropped (ofRequest request call options).decisions =
        if params = [] then [] else [.paramsDropped params] := by
  refine ⟨request.repaired.extra.keys.filter (isDropped options),
    request.repaired.extra.ascending.filter _, unsupported_iff request options, ?_⟩
  rw [told_ofRequest, tellings, droppedParams]
  simp only [List.isEmpty_iff]

theorem not_mem_keys_extra_iff {key : String} (present : key ∈ request.extra.keys) :
    key ∉ (ofRequest request call options).payload.extra.keys ↔
      Unsupported request options key ∨ key = parallelParam ∨ key = "model" := by
  have gone : key ∉ (ofRequest request call options).payload.extra.keys ↔
      key = "model" ∨ isDropped options key = true := by
    rw [Object.mem_keys_iff] at present ⊢
    rw [get?_extra_ofRequest]
    split
    · next dropped => simp [dropped]
    · next kept => simp [kept, present]
  rw [gone, isDropped, Bool.or_eq_true, List.contains_iff_mem, List.contains_iff_mem]
  constructor
  · rintro (model | unwanted)
    · exact .inr (.inr model)
    · by_cases flag : key = parallelParam
      · exact .inr (.inl flag)
      · exact .inl ⟨present, unwanted, fun equal => absurd equal flag⟩
  · rintro (⟨_, unwanted, _⟩ | rfl | model)
    · exact .inr unwanted
    · exact .inr (.inl (by decide))
    · exact .inl model

/-! Tools, betas and stripping. -/

theorem codeExecutionToolAdded_mem_iff :
    .codeExecutionToolAdded ∈ (ofRequest request call options).decisions ↔
      (ofRequest request call options).payload.toolList.length = request.toolList.length + 1 := by
  rw [mem_decisions_ofRequest, Decision.kind, tellings, toolList_ofRequest, withCodeExecution,
    ChatRequest.lacksCodeExecution]
  split <;> simp

theorem betasSelected_mem_iff {betas : List String} :
    .betasSelected betas ∈ (ofRequest request call options).decisions ↔
      (ofRequest request call options).payload.anthropicBeta = some betas := by
  rw [mem_decisions_ofRequest, Decision.kind, tellings, anthropicBeta_ofRequest,
    Option.mem_toList, Option.map_eq_some_iff]
  simp

theorem length_dropped_ofTools (tools : List ToolDefinition) :
    (BetaSelection.ofTools tools).dropped.length ≤ 1 := by
  have supported (wanted : Bool) (token : String) (known : token ∈ Beta.supported) :
      (if wanted then [token] else []).filter (fun token => !Beta.supported.contains token) =
        [] := by
    cases wanted <;> simp [known]
  simp only [BetaSelection.ofTools, Beta.wanted, List.filter_append,
    supported (usesToolSearch tools) Beta.toolSearch (by decide),
    supported (usesWebSearch tools) Beta.webSearch (by decide),
    List.nil_append, List.append_nil]
  refine (List.length_filter_le _ _).trans ?_
  cases computerVersion? tools <;> simp

theorem mem_strippedBlocks {report : StripReport} {messages blocks : Nat} :
    .reasoningBlocksStripped messages blocks ∈ strippedBlocks report ↔
      0 < blocks ∧ report = ⟨messages, blocks⟩ := by
  rcases report with ⟨reported, removed⟩
  rw [strippedBlocks]
  split
  · next some =>
      rw [List.mem_singleton, Decision.reasoningBlocksStripped.injEq, StripReport.mk.injEq]
      constructor
      · rintro ⟨rfl, rfl⟩
        exact ⟨some, rfl, rfl⟩
      · rintro ⟨_, rfl, rfl⟩
        exact ⟨rfl, rfl⟩
  · next none =>
      refine iff_of_false List.not_mem_nil ?_
      rintro ⟨positive, equal⟩
      cases equal
      exact none positive

theorem length_strippedBlocks (report : StripReport) : (strippedBlocks report).length ≤ 1 := by
  rw [strippedBlocks]
  split <;> simp

/-- The two places at which messages are stripped exclude each other. -/
theorem told_reasoningBlocksStripped :
    Decision.told .reasoningBlocksStripped (ofRequest request call options).decisions =
      if (ofRequest request call options).payload.hasTools then
        strippedBlocks (stripReasoning (if request.toolList = [] then request.builtMessages
          else request.messages)).2
      else [] := by
  rw [told_ofRequest, tellings, hasTools_ofRequest]
  cases declared : request.hasTools with
  | true =>
      -- Stripped before the messages are built, and never again.
      rw [Bool.not_true, Bool.and_false, Bool.true_or, if_pos rfl,
        if_neg ((ChatRequest.hasTools_iff request).mp declared)]
      exact List.append_nil _
  | false =>
      have undeclared : request.toolList = [] := by
        simpa [ChatRequest.hasTools] using declared
      rw [Bool.not_false, Bool.and_true, Bool.false_or, if_pos undeclared, stripIf]
      cases request.lacksCodeExecution <;> rfl

theorem reasoningBlocksStripped_mem_iff {messages blocks : Nat} :
    .reasoningBlocksStripped messages blocks ∈ (ofRequest request call options).decisions ↔
      (ofRequest request call options).payload.toolList ≠ [] ∧ 0 < blocks ∧
        (stripReasoning (if request.toolList = [] then request.builtMessages
          else request.messages)).2 = ⟨messages, blocks⟩ := by
  rw [← Decision.mem_told, Decision.kind, told_reasoningBlocksStripped, Ne, ← hasTools_eq_false_iff]
  split
  · next tools => rw [mem_strippedBlocks]; simp [tools]
  · next noTools => simp [noTools]

theorem length_told_le_one (kind : Decision.Kind) :
    (Decision.told kind (ofRequest request call options).decisions).length ≤ 1 := by
  cases kind with
  | toolChoiceDropped =>
      rw [told_toolChoiceDropped]
      cases (ToolChoice.repair request.toolChoice).2 <;> simp [droppedChoice]
  | reasoningBlocksStripped =>
      rw [told_reasoningBlocksStripped]
      split
      · exact length_strippedBlocks _
      · exact Nat.zero_le 1
  | betaDropped =>
      rw [told_ofRequest, tellings, List.length_map]
      exact length_dropped_ofTools _
  | betasSelected =>
      rw [told_ofRequest, tellings]
      exact Option.length_toList_le
  | paramsDropped =>
      rw [told_ofRequest, tellings, droppedParams]
      split <;> simp
  | codeExecutionToolAdded =>
      rw [told_ofRequest, tellings]
      split <;> simp
  | _ => simp [told_ofRequest, tellings]

/-- The trail of every request is a faithful audit of what was made of it. -/
theorem trail_audits_payload (request : ChatRequest) (call : CallContext)
    (options : PayloadOptions) :
    let sent := ofRequest request call options
    Audits request options sent.payload sent.decisions where
  once := length_told_le_one request call options
  classified := by
    refine ⟨isStructured request.inboundMessages, ?_⟩
    rw [told_ofRequest, tellings, length_inboundMessages]
  thinking := by
    refine ⟨(thinkingInputs request call options).outcome, ?_, told_ofRequest _ _ _ _, ?_⟩
    · rw [decisions_ofRequest]
      exact List.getLast?_concat
    · rw [thinking_ofRequest]
      exact ThinkingOutcome.describes_config? _
  toolChoiceDropped _ _ := toolChoiceDropped_mem_iff request call options
  removed _ := not_mem_keys_extra_iff request call options
  paramsDropped := told_paramsDropped request call options
  codeExecutionToolAdded := codeExecutionToolAdded_mem_iff request call options
  betasSelected _ := betasSelected_mem_iff request call options
  reasoningBlocksStripped _ _ := reasoningBlocksStripped_mem_iff request call options

/-- A file is uploaded, an earlier answer shows its reasoning, and a tool is to be chosen
that has no name. -/
example :
    (ofRequest
      { ChatRequest.ofMessages "claude-thinking"
          [.ofContent .assistant (.blocks [.redactedThinking "sealed" .empty, .plainText "seen"]),
            .ofContent .user (.blocks [.other (.object
              [("file_id", .string "file_1"), ("type", .string "container_upload")])])] with
        toolChoice := some (.tool none .empty)
        extra := .ofList [("top_j", .null), ("seed", .null), ("n", .null)] }
      default plainOptions).decisions =
    [.toolChoiceDropped .inbound (.object [("type", .string "tool")]), .classified false 2,
      .paramsDropped ["n", "seed"], .codeExecutionToolAdded, .reasoningBlocksStripped 1 1,
      .thinking (.suppressedByTools false)] := by decide

end Outgoing

end ChatGateway

import ChatGateway.Messages.Outgoing

namespace ChatGateway

/-! What each part of an outgoing payload is made of. The stages in between are
named here once, so that what is said of a payload can be said of its stages. -/

namespace ChatRequest

def ofMessages (model : String) (messages : List ChatMessage) : ChatRequest where
  model := model
  messages := messages
  system := none
  maxTokens := none
  maxCompletionTokens := none
  temperature := none
  topP := none
  topK := none
  stop := none
  stream := none
  tools := none
  toolChoice := none
  thinking := none
  user := none
  metadata := none
  anthropicVersion := none
  extra := .empty

/-- The messages that the payload is built from; beside tools they have lost
their reasoning. -/
def inboundMessages (request : ChatRequest) : List ChatMessage :=
  (Outgoing.stripIf request.hasTools request.messages).1

/-- The messages as they are built, before the tool list is final. -/
def builtMessages (request : ChatRequest) : List ChatMessage :=
  if isStructured request.inboundMessages then structuredMessages request.inboundMessages
  else genericMessages request.inboundMessages

def lacksCodeExecution (request : ChatRequest) : Bool :=
  Outgoing.needsCodeExecution request.builtMessages request.toolList

theorem hasTools_iff (request : ChatRequest) :
    request.hasTools = true ↔ request.toolList ≠ [] := by
  rw [hasTools, Bool.not_eq_true', List.isEmpty_eq_false_iff]

/-- The request after its choice was repaired and had the flag for parallel calls
moved into it. -/
def repaired (request : ChatRequest) : ChatRequest :=
  Outgoing.applyParallelCalls
    { request with toolChoice := (ToolChoice.repair request.toolChoice).1 }

/-- The flag for parallel calls is one that moves into the tool choice: it says yes or
no, and the client declared tools. -/
structure MovesParallel (request : ChatRequest) (allowed : Bool) : Prop where
  declared : request.toolList ≠ []
  flagged : request.extra.get? Outgoing.parallelParam = some (.bool allowed)

end ChatRequest

namespace Decision

def outcome? : Decision → Option ThinkingOutcome
  | .thinking outcome => some outcome
  | _ => none

inductive Kind where
  | classified
  | toolChoiceDropped
  | reasoningBlocksStripped
  | paramsDropped
  | codeExecutionToolAdded
  | betaDropped
  | betasSelected
  | thinking
  | reasoningContentPromoted
  deriving DecidableEq

def kind : Decision → Kind
  | .classified .. => .classified
  | .toolChoiceDropped .. => .toolChoiceDropped
  | .reasoningBlocksStripped .. => .reasoningBlocksStripped
  | .paramsDropped .. => .paramsDropped
  | .codeExecutionToolAdded => .codeExecutionToolAdded
  | .betaDropped .. => .betaDropped
  | .betasSelected .. => .betasSelected
  | .thinking .. => .thinking
  | .reasoningContentPromoted .. => .reasoningContentPromoted

/-- What a trail of decisions tells about one matter, in the order in which it was told. -/
def told (kind : Kind) (trail : List Decision) : List Decision :=
  trail.filter (·.kind = kind)

theorem told_append (kind : Kind) (trail more : List Decision) :
    told kind (trail ++ more) = told kind trail ++ told kind more :=
  List.filter_append ..

theorem mem_told {decision : Decision} {trail : List Decision} :
    decision ∈ told decision.kind trail ↔ decision ∈ trail := by
  simp [told]

theorem told_of_kind {kind : Kind} {trail : List Decision}
    (alike : ∀ decision ∈ trail, decision.kind = kind) (wanted : Kind) :
    told wanted trail = if kind = wanted then trail else [] := by
  split
  · next equal =>
      subst equal
      exact List.filter_eq_self.mpr fun decision member => by simp [alike decision member]
  · next different =>
      refine List.filter_eq_nil_iff.mpr fun decision member => ?_
      simp [alike decision member, different]

theorem told_singleton (kind : Kind) (decision : Decision) :
    told kind [decision] = if decision.kind = kind then [decision] else [] :=
  told_of_kind (fun _ member => by rw [List.mem_singleton.mp member]) kind

theorem outcome?_eq_none {decision : Decision} (other : decision.kind ≠ .thinking) :
    decision.outcome? = none := by
  cases decision with
  | thinking outcome => exact absurd rfl other
  | _ => rfl

theorem filterMap_outcome? (trail : List Decision) :
    trail.filterMap outcome? = (told .thinking trail).filterMap outcome? := by
  rw [told, List.filterMap_filter]
  congr 1
  funext decision
  by_cases about : decision.kind = .thinking
  · simp [about]
  · simp [about, outcome?_eq_none about]

end Decision

namespace Outgoing

def plainOptions : PayloadOptions where
  anthropicVersion := defaultAnthropicVersion
  maxTokens := defaultMaxTokens
  dropParams := []

theorem hasTools_eq_false_iff (payload : Payload) :
    payload.hasTools = false ↔ payload.toolList = [] := by
  rw [Payload.hasTools, Bool.not_eq_false', List.isEmpty_iff]

/-- All that comes before the messages are read: the repaired choice takes in the flag
for parallel calls, which is then no further parameter, or the request has no flag
that moves and only its choice is repaired. -/
theorem repaired_cases (request : ChatRequest) :
    (∃ allowed, request.MovesParallel allowed ∧ request.repaired =
      { request with
        extra := request.extra.erase parallelParam
        toolChoice := some
          (((ToolChoice.repair request.toolChoice).1.getD .plainAuto).withParallelCalls
            allowed) }) ∨
    (∀ allowed, ¬ request.MovesParallel allowed) ∧ request.repaired =
      { request with toolChoice := (ToolChoice.repair request.toolChoice).1 } := by
  rw [ChatRequest.repaired, applyParallelCalls]
  split
  · next declared =>
      have tools : request.toolList ≠ [] := (ChatRequest.hasTools_iff request).mp declared
      split
      · next allowed flagged => exact .inl ⟨allowed, ⟨tools, flagged⟩, rfl⟩
      · next unflagged => exact .inr ⟨fun allowed moves => unflagged allowed moves.flagged, rfl⟩
  · next undeclared =>
      exact .inr ⟨fun _ moves => undeclared ((ChatRequest.hasTools_iff _).mpr moves.declared), rfl⟩

theorem repaired_frame (request : ChatRequest) :
    ∃ extra toolChoice,
      applyParallelCalls { request with toolChoice := (ToolChoice.repair request.toolChoice).1 } =
        { request with extra, toolChoice } := by
  rcases repaired_cases request with ⟨_, _, equal⟩ | ⟨_, equal⟩
  · exact ⟨_, _, equal⟩
  · exact ⟨request.extra, _, equal⟩

variable (request : ChatRequest) (call : CallContext) (options : PayloadOptions)

theorem messages_ofRequest :
    (ofRequest request call options).payload.messages =
      (stripIf (request.lacksCodeExecution && !request.hasTools) request.builtMessages).1 := by
  rcases repaired_frame request with ⟨extra, toolChoice, frame⟩
  simp only [ofRequest, frame]
  rfl

theorem tools_ofRequest :
    (ofRequest request call options).payload.tools =
      let tools := withCodeExecution request.builtMessages request.toolList
      if tools.isEmpty then none else some tools := by
  rcases repaired_frame request with ⟨extra, toolChoice, frame⟩
  simp only [ofRequest, frame]
  rfl

theorem toolList_ofRequest :
    (ofRequest request call options).payload.toolList =
      withCodeExecution request.builtMessages request.toolList := by
  rw [Payload.toolList, tools_ofRequest]
  cases withCodeExecution request.builtMessages request.toolList <;> rfl

theorem hasTools_ofRequest :
    (ofRequest request call options).payload.hasTools =
      (request.hasTools || request.lacksCodeExecution) := by
  rw [Payload.hasTools, toolList_ofRequest, withCodeExecution, ChatRequest.hasTools,
    ChatRequest.lacksCodeExecution]
  cases needsCodeExecution request.builtMessages request.toolList <;> simp

/-- What the decision about thinking rests on: what the final payload declares and
allows, and the history that the payload was built from. -/
def thinkingInputs : ThinkingInputs where
  hasTools := (ofRequest request call options).payload.hasTools
  explicit := request.thinking
  signal := ThinkingSignal.detect (call.requestedModel.getD request.model)
    call.anthropicBeta request.thinking.isSome
  continuity := Continuity.assess request.inboundMessages
  maxTokens := (ofRequest request call options).payload.maxTokens

theorem thinking_ofRequest :
    (ofRequest request call options).payload.thinking =
      (thinkingInputs request call options).outcome.config? := by
  rcases repaired_frame request with ⟨extra, toolChoice, frame⟩
  rw [thinkingInputs, Payload.hasTools, toolList_ofRequest]
  simp only [ofRequest, frame]
  rfl

theorem maxTokens_ofRequest :
    (ofRequest request call options).payload.maxTokens =
      (request.maxTokens.or request.maxCompletionTokens).getD
        (call.maxTokens.getD options.maxTokens) := by
  rcases repaired_frame request with ⟨extra, toolChoice, frame⟩
  simp only [ofRequest, frame]
  rfl

/-! What is told about a payload. Each stage tells decisions of a kind of its own, but
for the betas, of which one kind was dropped and the other selected. -/

theorem told_droppedChoice (kind : Decision.Kind) (stage : RepairStage)
    (dropped : Option ToolChoice) :
    Decision.told kind (droppedChoice stage dropped) =
      if .toolChoiceDropped = kind then droppedChoice stage dropped else [] := by
  apply Decision.told_of_kind
  cases dropped <;> simp [droppedChoice, Decision.kind]

theorem told_stripIf (kind : Decision.Kind) (condition : Bool) (messages : List ChatMessage) :
    Decision.told kind (stripIf condition messages).2 =
      if .reasoningBlocksStripped = kind then (stripIf condition messages).2 else [] := by
  apply Decision.told_of_kind
  cases condition with
  | false => simp [stripIf]
  | true =>
      rw [stripIf, if_pos rfl]
      simp only [strippedBlocks]
      split <;> simp [Decision.kind]

theorem told_droppedParams (kind : Decision.Kind) (extra : Object) :
    Decision.told kind (droppedParams extra options) =
      if .paramsDropped = kind then droppedParams extra options else [] := by
  apply Decision.told_of_kind
  rw [droppedParams]
  split <;> simp [Decision.kind]

theorem told_codeExecution (kind : Decision.Kind) (added : Bool) :
    Decision.told kind (if added then [.codeExecutionToolAdded] else []) =
      if .codeExecutionToolAdded = kind then
        (if added then [.codeExecutionToolAdded] else []) else [] := by
  apply Decision.told_of_kind
  cases added <;> simp [Decision.kind]

theorem told_selectedBetas (kind : Decision.Kind) (selection : BetaSelection) :
    Decision.told kind (selectedBetas selection) =
      (if .betaDropped = kind then selection.dropped.map .betaDropped else []) ++
        if .betasSelected = kind then (selection.field?.map .betasSelected).toList else [] := by
  have parts : selectedBetas selection =
      selection.dropped.map .betaDropped ++ (selection.field?.map .betasSelected).toList := by
    rw [selectedBetas]
    cases selection.field? <;> rfl
  rw [parts, Decision.told_append]
  congr 1
  · exact Decision.told_of_kind (by simp [Decision.kind]) kind
  · exact Decision.told_of_kind (by simp [Decision.kind]) kind

/-- The trail of a request, stage by stage. -/
theorem decisions_ofRequest :
    (ofRequest request call options).decisions =
      droppedChoice .inbound (ToolChoice.repair request.toolChoice).2 ++
        (stripIf request.hasTools request.messages).2 ++
        [.classified (isStructured request.inboundMessages) request.inboundMessages.length] ++
        droppedParams request.repaired.extra options ++
        (if request.lacksCodeExecution then [.codeExecutionToolAdded] else []) ++
        (stripIf (request.lacksCodeExecution && !request.hasTools) request.builtMessages).2 ++
        droppedChoice .outbound (ToolChoice.repair request.repaired.toolChoice).2 ++
        selectedBetas (BetaSelection.ofTools (ofRequest request call options).payload.toolList) ++
        [.thinking (thinkingInputs request call options).outcome] := by
  rcases repaired_frame request with ⟨extra, toolChoice, frame⟩
  rw [thinkingInputs, Payload.hasTools, toolList_ofRequest]
  simp only [ofRequest, ChatRequest.repaired, frame]
  rfl

/-- What the trail of a request tells about each matter. -/
def tellings : Decision.Kind → List Decision
  | .classified =>
      [.classified (isStructured request.inboundMessages) request.inboundMessages.length]
  | .toolChoiceDropped =>
      droppedChoice .inbound (ToolChoice.repair request.toolChoice).2 ++
        droppedChoice .outbound (ToolChoice.repair request.repaired.toolChoice).2
  | .reasoningBlocksStripped =>
      (stripIf request.hasTools request.messages).2 ++
        (stripIf (request.lacksCodeExecution && !request.hasTools) request.builtMessages).2
  | .paramsDropped => droppedParams request.repaired.extra options
  | .codeExecutionToolAdded =>
      if request.lacksCodeExecution then [.codeExecutionToolAdded] else []
  | .betaDropped =>
      (BetaSelection.ofTools (ofRequest request call options).payload.toolList).dropped.map
        .betaDropped
  | .betasSelected =>
      ((BetaSelection.ofTools
        (ofRequest request call options).payload.toolList).field?.map .betasSelected).toList
  | .thinking => [.thinking (thinkingInputs request call options).outcome]
  | .reasoningContentPromoted => []

theorem told_ofRequest (kind : Decision.Kind) :
    Decision.told kind (ofRequest request call options).decisions =
      tellings request call options kind := by
  -- Each stage answers for its own kinds; which of them are asked for is settled last.
  rw [decisions_ofRequest]
  simp only [Decision.told_append, Decision.told_singleton, Decision.kind, told_droppedChoice,
    told_stripIf, told_droppedParams, told_codeExecution, told_selectedBetas]
  cases kind <;> simp [tellings]

theorem mem_decisions_ofRequest {decision : Decision} :
    decision ∈ (ofRequest request call options).decisions ↔
      decision ∈ tellings request call options decision.kind := by
  rw [← told_ofRequest, Decision.mem_told]

theorem thinking_mem_iff {outcome : ThinkingOutcome} :
    .thinking outcome ∈ (ofRequest request call options).decisions ↔
      outcome = (thinkingInputs request call options).outcome := by
  rw [mem_decisions_ofRequest, Decision.kind, tellings, List.mem_singleton,
    Decision.thinking.injEq]

theorem outcomes_ofRequest :
    (ofRequest request call options).decisions.filterMap Decision.outcome? =
      [(thinkingInputs request call options).outcome] := by
  rw [Decision.filterMap_outcome?, told_ofRequest]
  rfl

/-- Without tools nothing is stripped: the messages are built from those of the
request and sent as they are built. -/
theorem inboundMessages_of_no_tools
    (noTools : (ofRequest request call options).payload.hasTools = false) :
    request.inboundMessages = request.messages := by
  rw [hasTools_ofRequest, Bool.or_eq_false_iff] at noTools
  rw [ChatRequest.inboundMessages, noTools.1]
  rfl

theorem messages_of_no_tools
    (noTools : (ofRequest request call options).payload.hasTools = false) :
    (ofRequest request call options).payload.messages = request.builtMessages := by
  rw [hasTools_ofRequest, Bool.or_eq_false_iff] at noTools
  rw [messages_ofRequest, noTools.2]
  rfl

end Outgoing

end ChatGateway

import ChatGateway.Proofs.Keys

namespace ChatGateway

/-! Who chooses the betas of a payload. They follow from the tools that are sent, and
of these only what the provider accepts is named. A client can ask for betas by a
header and by two parameters: the header is looked at for thinking alone, and the
parameters are dropped before anything reads them. -/

namespace Object

theorem mem_keys_ofList {members : List (String × Json)} {key : String} :
    key ∈ (ofList members).keys ↔ key ∈ members.map Prod.fst := by
  rw [mem_keys_iff, get?_ofList, lookup_isSome_iff_mem, List.map_reverse, List.mem_reverse]

theorem filter_comm (object : Object) (keep other : String → Bool) :
    (object.filter other).filter keep = (object.filter keep).filter other := by
  simp only [filter, mk.injEq, List.filter_filter]
  exact List.filter_congr fun member _ => Bool.and_comm _ _

theorem filter_filter_of_imp (object : Object) {keep other : String → Bool}
    (implied : ∀ key, keep key = true → other key = true) :
    (object.filter other).filter keep = object.filter keep := by
  simp only [filter, mk.injEq, List.filter_filter]
  refine List.filter_congr ?_
  rintro ⟨key, value⟩ _
  exact Bool.and_eq_left_iff_imp.mpr (implied key)

end Object

/-! Tokens. -/

namespace Beta

theorem mem_ascending {token : String} {tokens : List String} :
    token ∈ ascending tokens ↔ token ∈ tokens := by
  rw [ascending, Object.mem_keys_ofList, List.map_map]
  simp

theorem pairwise_ascending (tokens : List String) : (ascending tokens).Pairwise (· < ·) :=
  (Object.ofList _).ascending

end Beta

theorem BetaSelection.field?_ofTools_eq_some {tools : List ToolDefinition} {betas : List String}
    (selected : (ofTools tools).field? = some betas) :
    betas ≠ [] ∧ betas.Pairwise (· < ·) ∧ ∀ token ∈ betas, token ∈ Beta.supported := by
  rw [field?] at selected
  split at selected
  · cases selected
  · next some =>
      cases selected
      refine ⟨by simpa using some, Beta.pairwise_ascending _, fun token member => ?_⟩
      rw [ofTools, Beta.mem_ascending, List.mem_filter] at member
      exact List.contains_iff_mem.mp member.2

namespace Outgoing

/-! What a payload does not depend on. -/

section

variable {request : ChatRequest}

theorem repaired_of_moves {allowed : Bool} (moves : request.MovesParallel allowed) :
    request.repaired =
      { request with
        extra := request.extra.erase parallelParam
        toolChoice := some
          (((ToolChoice.repair request.toolChoice).1.getD .plainAuto).withParallelCalls
            allowed) } := by
  rcases repaired_cases request with ⟨found, also, equal⟩ | ⟨never, _⟩
  · have same := also.flagged.symm.trans moves.flagged
    rw [Option.some.injEq, Json.bool.injEq] at same
    rw [equal, same]
  · exact absurd moves (never allowed)

theorem repaired_of_unmoved (never : ∀ allowed, ¬ request.MovesParallel allowed) :
    request.repaired =
      { request with toolChoice := (ToolChoice.repair request.toolChoice).1 } := by
  rcases repaired_cases request with ⟨allowed, moves, _⟩ | ⟨_, equal⟩
  · exact absurd moves (never allowed)
  · exact equal

end

variable (request : ChatRequest) (call : CallContext) (options : PayloadOptions)

theorem repaired_renamed (model : String) :
    ChatRequest.repaired { request with model } = { request.repaired with model } := by
  rcases repaired_cases request with ⟨allowed, moves, equal⟩ | ⟨never, equal⟩
  · have moved : ChatRequest.MovesParallel { request with model } allowed :=
      ⟨moves.declared, moves.flagged⟩
    rw [repaired_of_moves moved, equal]
  · have unmoved : ∀ allowed, ¬ ChatRequest.MovesParallel { request with model } allowed :=
      fun allowed moves => never allowed ⟨moves.declared, moves.flagged⟩
    rw [repaired_of_unmoved unmoved, equal]

theorem repaired_reduced {keep : String → Bool} (flag : keep parallelParam = true) :
    ChatRequest.repaired { request with extra := request.extra.filter keep } =
      { request.repaired with extra := request.repaired.extra.filter keep } := by
  have found : (request.extra.filter keep).get? parallelParam =
      request.extra.get? parallelParam := by
    rw [Object.get?_filter, if_pos flag]
  rcases repaired_cases request with ⟨allowed, moves, equal⟩ | ⟨never, equal⟩
  · have moved : ChatRequest.MovesParallel
        { request with extra := request.extra.filter keep } allowed :=
      ⟨moves.declared, found.trans moves.flagged⟩
    rw [repaired_of_moves moved, equal, Object.erase, Object.filter_comm]
    rfl
  · have unmoved : ∀ allowed, ¬ ChatRequest.MovesParallel
        { request with extra := request.extra.filter keep } allowed :=
      fun allowed moves => never allowed ⟨moves.declared, found.symm.trans moves.flagged⟩
    rw [repaired_of_unmoved unmoved, equal]

/-- Of what is sent only thinking depends on the header and on the names of the model. -/
theorem payload_of_header (model : String) (requestedModel anthropicBeta : Option String) :
    { (ofRequest { request with model } { call with requestedModel, anthropicBeta }
        options).payload with thinking := none } =
      { (ofRequest request call options).payload with thinking := none } := by
  rcases repaired_frame request with ⟨extra, toolChoice, frame⟩
  have renamed := repaired_renamed request model
  rw [ChatRequest.repaired, ChatRequest.repaired, frame] at renamed
  simp only [ofRequest, frame, renamed]
  rfl

theorem payload_of_params {keep : String → Bool} (flag : keep parallelParam = true)
    (dropped : ∀ key, keep key = false → isDropped options key = true) :
    (ofRequest { request with extra := request.extra.filter keep } call options).payload =
      (ofRequest request call options).payload := by
  rcases repaired_frame request with ⟨extra, toolChoice, frame⟩
  have reduced := repaired_reduced request flag
  rw [ChatRequest.repaired, ChatRequest.repaired, frame] at reduced
  have same : (extra.filter keep).filter (fun param => !isDropped options param) =
      extra.filter fun param => !isDropped options param := by
    refine Object.filter_filter_of_imp extra fun key passed => ?_
    by_contra lost
    rw [dropped key (Bool.eq_false_iff.mpr lost)] at passed
    cases passed
  simp only [ofRequest, frame, reduced, same]
  rfl

/-- Of what is told only the decision about thinking, which comes last, depends on the
header and on the names of the model. -/
theorem decisions_of_header (model : String) (requestedModel anthropicBeta : Option String) :
    ∃ trail outcome other,
      (ofRequest request call options).decisions = trail ++ [.thinking outcome] ∧
      (ofRequest { request with model } { call with requestedModel, anthropicBeta }
        options).decisions = trail ++ [.thinking other] := by
  have renamed := decisions_ofRequest { request with model }
    { call with requestedModel, anthropicBeta } options
  rw [toolList_ofRequest, repaired_renamed] at renamed
  refine ⟨_, (thinkingInputs request call options).outcome, _, ?_, renamed⟩
  rw [decisions_ofRequest, toolList_ofRequest]
  rfl

def betaParams : List String := ["anthropic_beta", "betas"]

theorem isDropped_of_mem_betaParams {param : String} (asks : param ∈ betaParams) :
    isDropped options param = true := by
  have chatOnly : ∀ param ∈ betaParams, param ∈ chatOnlyParams := by decide
  rw [isDropped, List.contains_iff_mem.mpr (chatOnly param asks), Bool.true_or]

theorem betaParam_not_mem_keys_extra {param : String} (asks : param ∈ betaParams) :
    param ∉ (ofRequest request call options).payload.extra.keys := by
  rw [Object.mem_keys_iff, get?_extra_ofRequest,
    if_pos (.inr (isDropped_of_mem_betaParams options asks))]
  exact Bool.false_ne_true

theorem betas_not_mem_keys_members :
    "betas" ∉ (ofRequest request call options).payload.members.map Prod.fst := by
  rw [Payload.members, List.map_append, List.mem_append]
  rintro (declared | further)
  · exact absurd ((Payload.keys_declaredMembers_sublist _).subset declared) (by decide)
  · exact betaParam_not_mem_keys_extra request call options (by decide) further

/-- The betas of a payload are negotiated by the gateway, whatever the client asks for. -/
structure NegotiatesBetas : Prop where
  /-- What is sent is accepted by the provider, ascending and never an empty list. -/
  accepted : ∀ betas, (ofRequest request call options).payload.anthropicBeta = some betas →
    betas ≠ [] ∧ betas.Pairwise (· < ·) ∧ ∀ token ∈ betas, token ∈ Beta.supported
  /-- The tools that are sent decide alone. -/
  decided : (ofRequest request call options).payload.anthropicBeta =
    (BetaSelection.ofTools (ofRequest request call options).payload.toolList).field?
  /-- With another header and other names of the model the same is sent, but for
  thinking. -/
  sent : ∀ (model : String) (requestedModel anthropicBeta : Option String),
    { (ofRequest { request with model } { call with requestedModel, anthropicBeta }
        options).payload with thinking := none } =
      { (ofRequest request call options).payload with thinking := none }
  /-- And the same is told, but for the decision about thinking at the end. -/
  told : ∀ (model : String) (requestedModel anthropicBeta : Option String),
    ∃ trail outcome other,
      (ofRequest request call options).decisions = trail ++ [.thinking outcome] ∧
      (ofRequest { request with model } { call with requestedModel, anthropicBeta }
        options).decisions = trail ++ [.thinking other]
  /-- Without the parameters that ask for betas the same is sent. -/
  unread : (ofRequest { request with extra := request.extra.eraseAll betaParams } call
    options).payload = (ofRequest request call options).payload
  /-- The parameters themselves are not sent. -/
  unsent : "betas" ∉ (ofRequest request call options).payload.members.map Prod.fst ∧
    "anthropic_beta" ∉ (ofRequest request call options).payload.extra.keys

theorem negotiatesBetas_ofRequest : NegotiatesBetas request call options where
  accepted betas named := by
    rw [anthropicBeta_ofRequest] at named
    exact BetaSelection.field?_ofTools_eq_some named
  decided := anthropicBeta_ofRequest request call options
  sent := payload_of_header request call options
  told := decisions_of_header request call options
  unread := by
    refine payload_of_params request call options (by decide) fun key asks => ?_
    rw [Bool.not_eq_false', List.contains_iff_mem] at asks
    exact isDropped_of_mem_betaParams options asks
  unsent := ⟨betas_not_mem_keys_members request call options,
    betaParam_not_mem_keys_extra request call options (by decide)⟩

end Outgoing

end ChatGateway

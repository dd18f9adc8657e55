import ChatGateway.Proofs.Outgoing
import ChatGateway.Proofs.Records

namespace ChatGateway

/-! The keys of what is sent. Declared fields and the caller's further
parameters are written into one object, so each key has to be told from every
other: a parameter is passed on only when no field of the request has its name,
and every field of the payload is one of the request's, but for the list of beta
tokens, whose name no parameter may have. -/

/-! Members that are written. -/

theorem keys_member?_sublist (key : String) (value : Option Json) :
    ((member? key value).map Prod.fst).Sublist [key] := by
  cases value with
  | none => exact List.nil_sublist _
  | some value => exact List.Sublist.refl _

namespace ChatRequest

example : fields.keys =
    ["model", "messages", "system", "max_tokens", "max_completion_tokens", "temperature",
      "top_p", "top_k", "stop", "stop_sequences", "stream", "tools", "tool_choice", "thinking",
      "user", "metadata", "anthropic_version"] := rfl

theorem fields_pass_extra :
    fields.Passes (fun _ => True) fun build => ∀ others, (build others).extra = others := by
  repeat refine Record.passes_seq (fun _ => True) ?_ Record.passes_any_field
  refine Record.passes_pure ?_
  intros
  rfl

theorem keepOthers_of_decode {members : List (String × Document)} {request : ChatRequest}
    (decoded : decode (.object members) = .ok request) :
    Record.keepOthers fields.keys members = .ok request.extra := by
  rcases Record.decodeOpen_eq_ok decoded with ⟨build, others, built, kept, rfl⟩
  rw [fields_pass_extra.ofMembers members build (fun _ _ => trivial) built others]
  exact kept

end ChatRequest

namespace Payload

example : fields.keys =
    ["anthropic_version", "messages", "max_tokens", "system", "temperature", "top_p", "top_k",
      "stop_sequences", "tools", "tool_choice", "thinking", "metadata", "anthropic_beta"] := rfl

theorem keys_declaredMembers_sublist (payload : Payload) :
    (payload.declaredMembers.map Prod.fst).Sublist fields.keys := by
  have all : fields.keys =
      ["anthropic_version"] ++ ["messages"] ++ ["max_tokens"] ++ ["system"] ++ ["temperature"] ++
        ["top_p"] ++ ["top_k"] ++ ["stop_sequences"] ++ ["tools"] ++ ["tool_choice"] ++
        ["thinking"] ++ ["metadata"] ++ ["anthropic_beta"] := rfl
  rw [all]
  simp only [declaredMembers, writeDeclared, List.map_append]
  repeat refine List.Sublist.append ?_ (keys_member?_sublist _ _)
  exact List.Sublist.refl _

theorem lookup_betas_declaredMembers (payload : Payload) :
    payload.declaredMembers.lookup "anthropic_beta" = payload.anthropicBeta.map .ofStrings := by
  simp [declaredMembers, writeDeclared, List.lookup_append, lookup_member, lookup_member?]

theorem requested_or_chatOnly_of_mem_fields :
    ∀ key ∈ fields.keys, key ∈ ChatRequest.fields.keys ∨ key ∈ chatOnlyParams := by
  decide

theorem eq_betas_of_chatOnly :
    ∀ key ∈ chatOnlyParams, key ∈ fields.keys → key = "anthropic_beta" := by
  decide

theorem requested_not_sent :
    ∀ key ∈ ["model", "stream", "stop", "user", "max_completion_tokens"],
      key ∈ ChatRequest.fields.keys ∧ key ∉ fields.keys := by
  decide

end Payload

namespace Outgoing

variable (request : ChatRequest) (call : CallContext) (options : PayloadOptions)

/-- Before the messages are read no further parameter goes but the flag for parallel
calls. -/
theorem get?_extra_repaired {key : String} (other : key ≠ parallelParam) :
    request.repaired.extra.get? key = request.extra.get? key := by
  rcases repaired_cases request with ⟨_, _, equal⟩ | ⟨_, equal⟩
  · rw [equal, Object.erase, Object.get?_filter, if_pos (bne_iff_ne.mpr other)]
  · rw [equal]

/-- A parameter is passed on unless it is dropped; the model is never one. -/
theorem get?_extra_ofRequest (key : String) :
    (ofRequest request call options).payload.extra.get? key =
      if key = "model" ∨ isDropped options key then none else request.extra.get? key := by
  have passed : (ofRequest request call options).payload.extra =
      (request.repaired.extra.filter fun param => !isDropped options param).erase "model" := rfl
  rw [passed, Object.erase, Object.get?_filter, Object.get?_filter]
  by_cases model : key = "model"
  · simp [model]
  · by_cases dropped : isDropped options key
    · simp [dropped]
    · have other : key ≠ parallelParam := by
        rintro rfl
        exact dropped rfl
      simp [model, dropped, get?_extra_repaired request other]

theorem anthropicBeta_ofRequest :
    (ofRequest request call options).payload.anthropicBeta =
      (BetaSelection.ofTools (ofRequest request call options).payload.toolList).field? := by
  rcases repaired_frame request with ⟨extra, toolChoice, frame⟩
  rw [toolList_ofRequest]
  simp only [ofRequest, frame]
  rfl

theorem isDropped_eq_false_iff (key : String) :
    isDropped options key = false ↔ key ∉ chatOnlyParams ∧ key ∉ options.dropParams := by
  simp [isDropped]

/-- A key of the document under which no field is declared and that is not dropped. -/
structure PassedOn (options : PayloadOptions) (members : List (String × Document))
    (key : String) : Prop where
  present : key ∈ members.map Prod.fst
  undeclared : key ∉ ChatRequest.fields.keys
  notChatOnly : key ∉ chatOnlyParams
  notDropped : key ∉ options.dropParams

theorem PassedOn.not_mem_fields {options : PayloadOptions} {members : List (String × Document)}
    {key : String} (passed : PassedOn options members key) : key ∉ Payload.fields.keys := by
  intro field
  rcases Payload.requested_or_chatOnly_of_mem_fields key field with requested | chatOnly
  · exact passed.undeclared requested
  · exact passed.notChatOnly chatOnly

section Decoded

variable {members : List (String × Document)} {request : ChatRequest}
  (decoded : ChatRequest.decode (.object members) = .ok request)

include decoded

theorem get?_extra_of_passedOn {key : String} (passed : PassedOn options members key) :
    ∃ value, Document.valueAt? members key = some value ∧
      (ofRequest request call options).payload.extra.get? key = some value := by
  have kept := ChatRequest.keepOthers_of_decode decoded
  have found := Record.isSome_of_keepOthers kept passed.present passed.undeclared
  rcases Option.isSome_iff_exists.mp found with ⟨value, here⟩
  have valued := Record.get?_of_keepOthers kept key
  rw [if_neg (by simpa using passed.undeclared), here] at valued
  refine ⟨value, valued.symm, ?_⟩
  have notModel : key ≠ "model" := by
    rintro rfl
    exact passed.undeclared (by decide)
  have notDropped := (isDropped_eq_false_iff options key).mpr
    ⟨passed.notChatOnly, passed.notDropped⟩
  rw [get?_extra_ofRequest, if_neg (by simp [notModel, notDropped]), here]

theorem mem_keys_extra_iff {key : String} :
    key ∈ (ofRequest request call options).payload.extra.keys ↔ PassedOn options members key := by
  constructor
  · intro sent
    rw [Object.mem_keys_iff, get?_extra_ofRequest,
      Record.get?_of_keepOthers (ChatRequest.keepOthers_of_decode decoded)] at sent
    split at sent
    · cases sent
    · next kept =>
        split at sent
        · cases sent
        · next undeclared =>
            rw [not_or, Bool.not_eq_true, isDropped_eq_false_iff] at kept
            refine ⟨?_, by simpa using undeclared, kept.2.1, kept.2.2⟩
            have found := Option.isSome_of_isSome_bind sent
            rw [lookup_isSome_iff_mem, List.map_reverse, List.mem_reverse] at found
            exact found
  · intro passed
    rcases get?_extra_of_passedOn call options decoded passed with ⟨value, _, found⟩
    rw [Object.mem_keys_iff, found]
    rfl

theorem mem_keys_members {key : String}
    (sent : key ∈ (ofRequest request call options).payload.members.map Prod.fst) :
    key ∈ Payload.fields.keys ∨ PassedOn options members key := by
  rw [Payload.members, List.map_append] at sent
  rcases List.mem_append.mp sent with field | parameter
  · exact .inl ((Payload.keys_declaredMembers_sublist _).subset field)
  · exact .inr ((mem_keys_extra_iff call options decoded).mp parameter)

theorem nodup_keys_members :
    ((ofRequest request call options).payload.members.map Prod.fst).Nodup := by
  have declared := Payload.keys_declaredMembers_sublist (ofRequest request call options).payload
  rw [Payload.members, List.map_append]
  refine List.nodup_append.mpr ⟨declared.nodup (by decide), Object.keys_nodup _, ?_⟩
  rintro key field _ parameter rfl
  have passed := (mem_keys_extra_iff call options decoded).mp parameter
  exact passed.not_mem_fields (declared.subset field)

theorem lookup_members_of_passedOn {key : String} (passed : PassedOn options members key) :
    ∃ value, Document.valueAt? members key = some value ∧
      (ofRequest request call options).payload.members.lookup key = some value := by
  rcases get?_extra_of_passedOn call options decoded passed with ⟨value, valued, found⟩
  have undeclared : (ofRequest request call options).payload.declaredMembers.lookup key = none := by
    rw [← Option.not_isSome_iff_eq_none, lookup_isSome_iff_mem]
    intro field
    exact passed.not_mem_fields ((Payload.keys_declaredMembers_sublist _).subset field)
  refine ⟨value, valued, ?_⟩
  rw [Payload.members, List.lookup_append, undeclared]
  exact found

theorem lookup_betas_members :
    (ofRequest request call options).payload.members.lookup "anthropic_beta" =
      (BetaSelection.ofTools (ofRequest request call options).payload.toolList).field?.map
        .ofStrings := by
  have notPassed : (ofRequest request call options).payload.extra.get? "anthropic_beta" = none := by
    rw [← Option.not_isSome_iff_eq_none, ← Object.mem_keys_iff]
    intro parameter
    exact ((mem_keys_extra_iff call options decoded).mp parameter).notChatOnly (by decide)
  rw [Payload.members, List.lookup_append, Payload.lookup_betas_declaredMembers,
    anthropicBeta_ofRequest]
  change Option.or _ ((ofRequest request call options).payload.extra.get? "anthropic_beta") = _
  rw [notPassed, Option.or_none]

end Decoded

/-- What a payload for a document has for keys: none twice, none of the request's own,
of the parameters of the chat dialect only the list of beta tokens, and that one as
negotiated; every other parameter of the document unless it is dropped, with its
value, and none beside. -/
theorem keys_of_payload_of_decoded {members : List (String × Document)} {request : ChatRequest}
    (decoded : ChatRequest.decode (.object members) = .ok request) (call : CallContext)
    (options : PayloadOptions) :
    let payload := (ofRequest request call options).payload
    let sent := payload.members
    (sent.map Prod.fst).Nodup ∧
      (∀ key ∈ ["model", "stream", "stop", "user", "max_completion_tokens"],
        key ∉ sent.map Prod.fst) ∧
      (∀ key ∈ chatOnlyParams, key ∈ sent.map Prod.fst → key = "anthropic_beta") ∧
      sent.lookup "anthropic_beta" =
        (BetaSelection.ofTools payload.toolList).field?.map .ofStrings ∧
      (∀ key, PassedOn options members key →
        ∃ value, Document.valueAt? members key = some value ∧ sent.lookup key = some value) ∧
      (∀ key ∈ sent.map Prod.fst, key ∉ Payload.fields.keys → PassedOn options members key) := by
  intro payload sent
  refine ⟨nodup_keys_members call options decoded, ?_, ?_,
    lookup_betas_members call options decoded,
    fun key => lookup_members_of_passedOn call options decoded, ?_⟩
  · intro key own member
    rcases Payload.requested_not_sent key own with ⟨requested, notSent⟩
    rcases mem_keys_members call options decoded member with field | passed
    · exact notSent field
    · exact passed.undeclared requested
  · intro key chatOnly member
    rcases mem_keys_members call options decoded member with field | passed
    · exact Payload.eq_betas_of_chatOnly key chatOnly field
    · exact absurd chatOnly passed.notChatOnly
  · intro key member undeclared
    exact (mem_keys_members call options decoded member).resolve_left undeclared

def paramsDocument : List (String × Document) :=
  [("model", .string "claude"), ("top_j", .bool true), ("stop_sequences", .array [.string "END"]),
    ("user", .string "someone"), ("seed", .number (.integer 7)),
    ("messages", .array [.object [("role", .string "user"), ("content", .string "Hello")]]),
    ("anthropic_beta", .array [.string "own-token"]), ("trace", .null),
    ("tools", .array [.object [("type", .string "computer_20241022")]]), ("top_j", .bool false)]

def paramsRequest : ChatRequest :=
  { ChatRequest.ofMessages "claude" [.ofContent .user (.text "Hello")] with
    stop := some (.many ["END"])
    user := some "someone"
    tools := some [.provided (.ofList [("type", .string "computer_20241022")])]
    extra := .ofList
      [("anthropic_beta", .array [.string "own-token"]), ("seed", .number (.integer 7)),
        ("top_j", .bool false), ("trace", .null)] }

theorem keys_of_paramsDocument :
    ChatRequest.decode (.object paramsDocument) = .ok paramsRequest ∧
      let sent := (ofRequest paramsRequest default
        { plainOptions with dropParams := ["trace"] }).payload.members
      (sent.map Prod.fst).Nodup ∧ "user" ∉ sent.map Prod.fst ∧ "trace" ∉ sent.map Prod.fst ∧
        sent.lookup "anthropic_beta" = some (.ofStrings ["computer-use-2024-10-22"]) ∧
        sent.lookup "top_j" = some (.bool false) := by
  have decoded : ChatRequest.decode (.object paramsDocument) = .ok paramsRequest := rfl
  rcases keys_of_payload_of_decoded decoded default
      { plainOptions with dropParams := ["trace"] } with
    ⟨distinct, own, _, betas, passed, only⟩
  refine ⟨decoded, distinct, own "user" (by decide), ?_, ?_, ?_⟩
  · intro sent
    exact (only "trace" sent (by decide)).notDropped (by decide)
  · rw [betas]
    decide
  · rcases passed "top_j" ⟨by decide, by decide, by decide, by decide⟩ with
      ⟨value, valued, found⟩
    rw [found, ← valued]
    decide

end Outgoing

end ChatGateway

import ChatGateway.Proofs.Keys

namespace ChatGateway

/-! Parameters that the options drop. They are taken from the further parameters of a request
alone; what a request sets in a field of its own is sent, whatever the options list. -/

/-- The settings of a request that are sent as the client made them, under the keys that they
are sent with. -/
def ChatRequest.settings (request : ChatRequest) : List (String × Json) :=
  member? "temperature" (request.temperature.map .ofFloat) ++
    member? "top_p" (request.topP.map .ofFloat) ++
    member? "top_k" (request.topK.map .ofUInt64) ++
    member? "stop_sequences" ((request.stop.map StopSequences.toList).map .ofStrings)

namespace Payload

/-- Fields that the provider requires, and fields that are decided upon for the client. -/
def ownKeys : List String :=
  ["anthropic_version", "messages", "max_tokens", "system", "metadata", "tools", "tool_choice",
    "anthropic_beta", "thinking"]

def settings (payload : Payload) : List (String × Json) :=
  member? "temperature" (payload.temperature.map .ofFloat) ++
    member? "top_p" (payload.topP.map .ofFloat) ++
    member? "top_k" (payload.topK.map .ofUInt64) ++
    member? "stop_sequences" (payload.stopSequences.map .ofStrings)

theorem lookup_declaredMembers (payload : Payload) {key : String} (foreign : key ∉ ownKeys) :
    payload.declaredMembers.lookup key = payload.settings.lookup key := by
  simp only [ownKeys, List.mem_cons, List.not_mem_nil, not_or] at foreign
  simp [declaredMembers, writeDeclared, settings, List.lookup_append, lookup_member,
    lookup_member?, foreign]

end Payload

theorem keys_settings_sublist (request : ChatRequest) :
    (request.settings.map Prod.fst).Sublist ["temperature", "top_p", "top_k", "stop_sequences"] := by
  have all : ["temperature", "top_p", "top_k", "stop_sequences"] =
      ["temperature"] ++ ["top_p"] ++ ["top_k"] ++ ["stop_sequences"] := rfl
  rw [all]
  simp only [ChatRequest.settings, List.map_append]
  repeat refine List.Sublist.append ?_ (keys_member?_sublist _ _)
  exact keys_member?_sublist _ _

theorem not_mem_ownKeys_of_setting {request : ChatRequest} {key : String}
    (setting : key ∈ request.settings.map Prod.fst) : key ∉ Payload.ownKeys := by
  have apart : ∀ key ∈ ["temperature", "top_p", "top_k", "stop_sequences"],
      key ∉ Payload.ownKeys := by decide
  exact apart key ((keys_settings_sublist request).subset setting)

namespace Outgoing

theorem settings_ofRequest (request : ChatRequest) (call : CallContext)
    (options : PayloadOptions) :
    (ofRequest request call options).payload.settings = request.settings := by
  rcases repaired_frame request with ⟨extra, toolChoice, frame⟩
  simp only [ofRequest, frame]
  rfl

/-- Of a parameter that is dropped nothing is left but what the request sets in a field of its
own. -/
theorem lookup_members_of_dropped (request : ChatRequest) (call : CallContext)
    {options : PayloadOptions} {key : String} (listed : key ∈ options.dropParams)
    (foreign : key ∉ Payload.ownKeys) :
    (ofRequest request call options).payload.members.lookup key =
      request.settings.lookup key := by
  have dropped : isDropped options key = true := by simp [isDropped, listed]
  have notPassed : (ofRequest request call options).payload.extra.members.lookup key = none := by
    have passed := get?_extra_ofRequest request call options key
    rwa [if_pos (.inr dropped)] at passed
  rw [Payload.members, List.lookup_append, notPassed, Option.or_none,
    Payload.lookup_declaredMembers _ foreign, settings_ofRequest]

/-- Of the parameters that the options drop a payload has, beside the fields that are required or
decided upon here, just those that the request sets in fields of its own, with their values; so
the options drop what they list, just when the request sets none of it. -/
theorem drops_effective_iff (request : ChatRequest) (call : CallContext)
    (options : PayloadOptions) :
    let sent := (ofRequest request call options).payload.members
    (∀ key ∈ options.dropParams, key ∉ Payload.ownKeys →
      sent.lookup key = request.settings.lookup key) ∧
    ((∀ key ∈ options.dropParams, key ∈ sent.map Prod.fst → key ∈ Payload.ownKeys) ↔
      ∀ key ∈ options.dropParams, key ∉ request.settings.map Prod.fst) := by
  intro sent
  have found (key : String) (listed : key ∈ options.dropParams)
      (foreign : key ∉ Payload.ownKeys) : sent.lookup key = request.settings.lookup key :=
    lookup_members_of_dropped request call listed foreign
  have present (key : String) (listed : key ∈ options.dropParams)
      (foreign : key ∉ Payload.ownKeys) :
      key ∈ sent.map Prod.fst ↔ key ∈ request.settings.map Prod.fst := by
    rw [← lookup_isSome_iff_mem, ← lookup_isSome_iff_mem, found key listed foreign]
  refine ⟨found, ?_, ?_⟩
  · intro effective key listed setting
    have foreign := not_mem_ownKeys_of_setting setting
    exact foreign (effective key listed ((present key listed foreign).mpr setting))
  · intro unset key listed member
    by_contra foreign
    exact unset key listed ((present key listed foreign).mp member)

def warmRequest : ChatRequest :=
  { ChatRequest.ofMessages "claude" [.ofContent .user (.text "Hi")] with
    temperature := some 0.5
    extra := .ofList [("x_trace", .bool true)] }

def coolOptions : PayloadOptions :=
  { plainOptions with dropParams := ["temperature", "x_trace"] }

/-- The temperature is sent, and only the other parameter is dropped. -/
theorem temperature_sent_of_warmRequest :
    let sent := ofRequest warmRequest default coolOptions
    "temperature" ∈ coolOptions.dropParams ∧ "temperature" ∉ Payload.ownKeys ∧
      sent.payload.members.lookup "temperature" = some (.ofFloat 0.5) ∧
      "x_trace" ∉ sent.payload.members.map Prod.fst ∧
      .paramsDropped ["x_trace"] ∈ sent.decisions := by
  exact ⟨by decide, by decide, rfl, by decide, by decide⟩

end Outgoing

end ChatGateway

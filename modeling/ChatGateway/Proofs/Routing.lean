import ChatGateway.Proofs.Addresses
import ChatGateway.Proofs.Gate

namespace ChatGateway

/-! Where a model name leads. A name that is not in the table is what the client wrote, and
the client may have written anything: whatever it is, the call that carries the token goes
to the host of the settings. The name is one step of the path just when it has no mark that
divides an address, and then the call stays in the directory of the publisher. Nothing takes
such marks out of a name, and with them it can lead the call to another publisher. -/

namespace Endpoint

variable (endpoint : Endpoint)

def modelsDirectory : String :=
  endpoint.base ++ "/v1/projects/" ++ endpoint.projectId ++ "/locations/" ++ endpoint.region ++
    "/publishers/anthropic/models/"

theorem url_eq (model : String) :
    endpoint.url model = endpoint.modelsDirectory ++ (modelId model ++ ":rawPredict") := by
  unfold url path modelsDirectory
  simp only [String.append_assoc]

theorem isDirectory_modelsDirectory : Url.IsDirectory endpoint.modelsDirectory.toList := by
  have version : "/v1/projects/".toList = '/' :: 'v' :: "1/projects/".toList := by decide
  have publisher : "/publishers/anthropic/models/".toList =
      "/publishers/anthropic/models".toList ++ ['/'] := by decide
  have whole : endpoint.modelsDirectory.toList = endpoint.base.toList ++ '/' :: 'v' ::
      ("1/projects/".toList ++ endpoint.projectId.toList ++ "/locations/".toList ++
        endpoint.region.toList ++ "/publishers/anthropic/models".toList ++ ['/']) := by
    simp only [modelsDirectory, String.toList_append, version, publisher, List.append_assoc,
      List.cons_append]
  rw [whole]
  exact ⟨'v', _, by decide, List.suffix_append _ _⟩

theorem model_of_url {endpoint : Endpoint} {model step : String}
    (same : endpoint.modelsDirectory ++ model ++ ":rawPredict" =
      endpoint.modelsDirectory ++ step ++ ":rawPredict") : model = step := by
  rw [← String.toList_inj] at same ⊢
  simp only [String.toList_append] at same
  exact List.append_cancel_left (List.append_cancel_right same)

theorem modelId_cases (model : String) :
    modelId model = model ∨
      ∃ publisher ∈ ["publishers/anthropic/models/", "anthropic/", "vertex_ai/"],
        model = publisher ++ modelId model := by
  rw [modelId]
  cases whole : Text.dropHead? model "publishers/anthropic/models/" with
  | some rest => exact .inr ⟨_, .head _, Text.dropHead?_eq_some_iff.mp whole⟩
  | none =>
    cases short : Text.dropHead? model "anthropic/" with
    | some rest => exact .inr ⟨_, .tail _ (.head _), Text.dropHead?_eq_some_iff.mp short⟩
    | none =>
      cases other : Text.dropHead? model "vertex_ai/" with
      | some rest => exact .inr ⟨_, .tail _ (.tail _ (.head _)), Text.dropHead?_eq_some_iff.mp other⟩
      | none => exact .inl rfl

end Endpoint

theorem ProviderCall.address_eq_ok {call : ProviderCall} {url : Url}
    (accepted : call.address = .ok url) :
    Url.read call.url = some url ∧ Url.isWeb url.scheme = true := by
  rw [address] at accepted
  split at accepted
  · cases accepted
  · next read =>
      split at accepted
      · cases accepted
      split at accepted
      · cases accepted
      split at accepted
      · cases accepted
      · next web =>
          cases accepted
          exact ⟨read, by simpa using web⟩

namespace Url

theorem length_le_of_isUp {step : List Char} (up : isUp step = true) : step.length ≤ 6 := by
  have short : ∀ up ∈ ["..", ".%2e", "%2e.", "%2e%2e"], up.length ≤ 6 := by decide
  rw [isUp, List.contains_iff_mem] at up
  have bounded := short _ up
  rwa [String.length_ofList, Text.lowerAscii, List.length_map] at bounded

theorem length_le_of_isHere {step : List Char} (here : isHere step = true) : step.length ≤ 3 := by
  have short : ∀ here ∈ [['.'], "%2e".toList], here.length ≤ 3 := by decide
  rw [isHere, List.contains_iff_mem] at here
  have bounded := short _ here
  rwa [Text.lowerAscii, List.length_map] at bounded

theorem isPlain_of_mem_action {char : Char} (member : char ∈ ":rawPredict".toList) :
    isPlain char = true := by
  have plain : (":rawPredict".toList).all isPlain = true := by decide
  exact List.all_eq_true.mp plain char member

theorem isName_of_model {model : List Char} (undivided : Undivided model) :
    IsName ((model ++ ":rawPredict".toList).filter isKept) := by
  have tail : (":rawPredict".toList).filter isKept = ":rawPredict".toList := by decide
  have long : 6 < (model.filter isKept ++ ":rawPredict".toList).length := by
    have length : (":rawPredict".toList).length = 11 := by decide
    rw [List.length_append, length]
    omega
  rw [List.filter_append, tail]
  refine ⟨fun mark member => ?_, ?_, ?_⟩
  · rcases List.mem_append.mp member with inside | behind
    · exact undivided mark (List.mem_filter.mp inside).1
    · have plain := isPlain_of_mem_action behind
      refine ⟨?_, ?_, ?_, ?_⟩ <;> (rintro rfl; exact absurd plain (by decide))
  · exact Bool.eq_false_iff.mpr fun up => absurd (length_le_of_isUp up) (by omega)
  · exact Bool.eq_false_iff.mpr fun here => absurd (length_le_of_isHere here) (by omega)

/-- A name is written behind a directory as one step without a mark that divides. -/
theorem GoesOn.render_of_model {home url : Url} {model : String}
    (goesOn : GoesOn home url ((model ++ ":rawPredict").toList.filter isKept))
    (undivided : Undivided model.toList) :
    ∃ name : String, url.render = home.render ++ name ++ ":rawPredict" ∧
      ∀ char ∈ name.toList, char ≠ '/' ∧ char ≠ '?' ∧ char ≠ '#' := by
  have name : IsName ((model ++ ":rawPredict").toList.filter isKept) := by
    rw [String.toList_append]
    exact isName_of_model undivided
  rcases goesOn.step name with ⟨isCoded, kept, rendered⟩
  have tail : (":rawPredict".toList).filter isKept = ":rawPredict".toList := by decide
  refine ⟨String.ofList (encode isCoded (model.toList.filter isKept)), ?_, ?_⟩
  · rw [rendered, String.toList_append, List.filter_append, tail, encode_append,
      encode_of_not_coded fun char held => kept char (isPlain_of_mem_action held),
      String.ofList_append, String.ofList_toList, String.append_assoc]
  · intro char member
    rw [String.toList_ofList] at member
    rcases mem_of_mem_encode member with inside | rfl | letter
    · have undivided := undivided char (List.mem_filter.mp inside).1
      exact ⟨undivided.1, undivided.2.2⟩
    · decide
    · refine ⟨?_, ?_, ?_⟩ <;> (rintro rfl; exact absurd letter (by decide))

end Url

namespace Exchange

variable (gateway : Gateway)

/-- Where a post for a request goes, and with what. -/
structure Directed (request : ChatRequest) (post : Url × ProviderCall) : Prop where
  text : post.2.url = (Endpoint.ofSettings gateway.settings.vertex).base ++ "/v1/projects/" ++
    gateway.settings.vertex.projectId ++ "/locations/" ++ gateway.settings.vertex.region ++
      "/publishers/anthropic/models/" ++ Endpoint.modelId request.model ++ ":rawPredict"
  model : Endpoint.modelId request.model = request.model ∨
    ∃ publisher ∈ ["publishers/anthropic/models/", "anthropic/", "vertex_ai/"],
      request.model = publisher ++ Endpoint.modelId request.model
  /-- What stands for the model is one step just when the name is. -/
  step : (∃ step : String, (∀ char ∈ step.toList, char ≠ '/' ∧ char ≠ '?' ∧ char ≠ '#') ∧
      post.2.url = (Endpoint.ofSettings gateway.settings.vertex).modelsDirectory ++ step ++
        ":rawPredict") ↔
    ∀ char ∈ (Endpoint.modelId request.model).toList, char ≠ '/' ∧ char ≠ '?' ∧ char ≠ '#'
  token : gateway.environment gateway.settings.vertex.accessTokenVariable = some post.2.token
  read : Url.read post.2.url = some post.1
  /-- The address is on the host of the settings. If nothing in the name divides an address,
  it is in the directory of the publisher's models. -/
  address : ∃ home,
    Url.read (Endpoint.ofSettings gateway.settings.vertex).modelsDirectory = some home ∧
      post.1.scheme = home.scheme ∧ post.1.authority = home.authority ∧
        (Url.Undivided (Endpoint.modelId request.model).toList →
          ∃ name : String, post.1.render = home.render ++ name ++ ":rawPredict" ∧
            ∀ char ∈ name.toList, char ≠ '/' ∧ char ≠ '?' ∧ char ≠ '#')

/-- Every post for a request with a name that is not in the table goes there. -/
theorem directed_watch (fresh : Fresh) (headers : List Header) (body : ByteArray)
    (answer : Url → ProviderCall → Delivery) (request : ChatRequest)
    (read : decodeBytes ChatRequest.decode body = .ok request)
    (unmapped : gateway.settings.models.lookup request.model = none)
    (post : Url × ProviderCall) (posted : post ∈ (watch gateway fresh headers body answer).2) :
    Directed gateway request post := by
  rcases admitted_of_mem_posts gateway fresh headers answer posted with
    ⟨other, token, admitted, call, address⟩
  cases read.symm.trans admitted.read
  let endpoint := Endpoint.ofSettings gateway.settings.vertex
  have text : post.2.url = endpoint.url request.model := by
    rw [call, callFor, unmapped]
    rfl
  rcases ProviderCall.address_eq_ok address with ⟨found, web⟩
  have called : post.2.url =
      endpoint.modelsDirectory ++ Endpoint.modelId request.model ++ ":rawPredict" := by
    rw [text, endpoint.url_eq, ← String.append_assoc]
  refine ⟨called, Endpoint.modelId_cases request.model, ?_, ?_, found, ?_⟩
  · constructor
    · rintro ⟨step, unmarked, claimed⟩
      rwa [Endpoint.model_of_url (called.symm.trans claimed)]
    · intro unmarked
      exact ⟨Endpoint.modelId request.model, unmarked, called⟩
  · rw [call]
    exact admitted.held
  · rw [text, endpoint.url_eq] at found
    have ends : ['t'] <:+ (Endpoint.modelId request.model ++ ":rawPredict").toList := by
      rw [String.toList_append]
      exact List.IsSuffix.trans (by decide) (List.suffix_append _ _)
    rcases Url.goesOn_read endpoint.isDirectory_modelsDirectory ends (by decide) found web with
      ⟨home, directory, goesOn⟩
    exact ⟨home, directory, goesOn.scheme, goesOn.authority, goesOn.render_of_model⟩

theorem directed_prefixedName :
    let request := greeting "anthropic/claude-3-5-haiku"
    let body := greetingBody "anthropic/claude-3-5-haiku"
    decodeBytes ChatRequest.decode body = .ok request ∧
      routedGateway.settings.models.lookup request.model = none ∧
        ∃ post ∈ (watch routedGateway default [] body fun _ _ => .unreachable).2,
          Directed routedGateway request post := by
  intro request body
  have read : decodeBytes ChatRequest.decode body = .ok request :=
    eq_ok_of_toOption_eq_some (by decide +kernel)
  have unmapped : routedGateway.settings.models.lookup request.model = none := by decide
  have admitted : Admitted routedGateway body request "secret" := ⟨read, nofun, rfl, by decide⟩
  have addressed : (callFor routedGateway [] request "secret").address.toOption.isSome := by
    decide +kernel
  rcases Option.isSome_iff_exists.mp addressed with ⟨url, address⟩
  have posted := mem_posts_of_admitted routedGateway default [] (fun _ _ => .unreachable) admitted
    (eq_ok_of_toOption_eq_some address)
  exact ⟨read, unmapped, _, posted,
    directed_watch routedGateway default [] body _ request read unmapped _ posted⟩

/-- A name with slashes is not one step, and with steps upwards it leaves the directory. -/
theorem undirected_climbingName :
    let request := greeting "../../google/models/gemini-2.0"
    let endpoint := Endpoint.ofSettings routedGateway.settings.vertex
    let body := greetingBody "../../google/models/gemini-2.0"
    decodeBytes ChatRequest.decode body = .ok request ∧
      routedGateway.settings.models.lookup request.model = none ∧
        ∃ post ∈ (watch routedGateway default [] body fun _ _ => .unreachable).2,
          post.1.path = "/v1/projects/acme/locations/us-east5/publishers/google/models/" ++
            "gemini-2.0:rawPredict" ∧
          ¬ ∃ step : String, (∀ char ∈ step.toList, char ≠ '/' ∧ char ≠ '?' ∧ char ≠ '#') ∧
            post.2.url = endpoint.base ++ "/v1/projects/" ++ endpoint.projectId ++
              "/locations/" ++ endpoint.region ++ "/publishers/anthropic/models/" ++ step ++
                ":rawPredict" := by
  intro request endpoint body
  have admitted : Admitted routedGateway body request "secret" :=
    ⟨eq_ok_of_toOption_eq_some (by decide +kernel), nofun, rfl, by decide⟩
  have addressed : (callFor routedGateway [] request "secret").address.toOption.map Url.path =
      some ("/v1/projects/acme/locations/us-east5/publishers/google/models/" ++
        "gemini-2.0:rawPredict") := by
    decide +kernel
  rcases Option.map_eq_some_iff.mp addressed with ⟨url, address, path⟩
  have posted := mem_posts_of_admitted routedGateway default [] (fun _ _ => .unreachable) admitted
    (eq_ok_of_toOption_eq_some address)
  refine ⟨admitted.read, by decide, _, posted, path, ?_⟩
  rintro ⟨step, unmarked, claimed⟩
  have called : (callFor routedGateway [] request "secret").url =
      endpoint.modelsDirectory ++ "../../google/models/gemini-2.0" ++ ":rawPredict" := by
    decide +kernel
  have name : "../../google/models/gemini-2.0" = step :=
    Endpoint.model_of_url (called.symm.trans claimed)
  exact (unmarked '/' (name ▸ by decide)).1 rfl

end Exchange

end ChatGateway

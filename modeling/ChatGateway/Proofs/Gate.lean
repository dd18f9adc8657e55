import ChatGateway.Exchange
import ChatGateway.Proofs.HeaderValues
import ChatGateway.Proofs.SentText

namespace ChatGateway

/-! What passes the gateway. A request is passed on when its body can be read, when it
does not ask for a stream and when there is a token for the provider. It is then posted
once; every other request is answered without a post. -/

namespace Settings

variable (settings : Settings) (environment : String → Option String)

theorem accessToken_eq_ok {token : String}
    (held : environment settings.vertex.accessTokenVariable = some token)
    (visible : Text.allBlank token = false) :
    settings.accessToken environment = .ok token := by
  rw [accessToken, held, Option.filter_some_pos (by simp [visible])]

theorem accessToken_eq_error
    (missing : ∀ token, environment settings.vertex.accessTokenVariable = some token →
      Text.allBlank token = true) :
    ∃ message, settings.accessToken environment = .error (.config message) := by
  have none : (environment settings.vertex.accessTokenVariable).filter
      (fun token => !Text.allBlank token) = none := by
    rw [Option.filter_eq_none_iff]
    intro token held
    simp [missing token held]
  rw [accessToken, none]
  exact ⟨_, rfl⟩

end Settings

def Reply.Reports (reply : Reply) (status : UInt16) (type : String) : Prop :=
  reply.status = status ∧
    ∃ message, reply.body = some (ChatError.of type message (some status)).toJson

theorem Reply.reports_ofFault (fault : Fault) :
    (ofFault fault).Reports (statusOf fault) fault.type :=
  ⟨rfl, fault.clientMessage, rfl⟩

theorem ProviderCall.address_eq_of_target {first second : ProviderCall}
    (url : first.url = second.url) (token : first.token = second.token) :
    first.address = second.address := by
  rw [address, address, url, token]

namespace Exchange

/-- A request that is passed on: its body is read as the request, it does not ask for a
stream, and the variable of the token holds one that is not blank. -/
structure Admitted (gateway : Gateway) (body : ByteArray) (request : ChatRequest)
    (token : String) : Prop where
  read : decodeBytes ChatRequest.decode body = .ok request
  whole : request.stream ≠ some true
  held : gateway.environment gateway.settings.vertex.accessTokenVariable = some token
  visible : Text.allBlank token = false

/-- The call for a request: to the model behind its name, with the payload for it. -/
def callFor (gateway : Gateway) (headers : List Header) (request : ChatRequest)
    (token : String) : ProviderCall :=
  let route := gateway.settings.models.lookup request.model
  { url := (Endpoint.ofSettings gateway.settings.vertex).url
      ((route.map ModelRoute.model).getD request.model)
    token := token
    body := (Outgoing.ofRequest request
      { requestedModel := some request.model
        userId := Header.user? headers
        anthropicBeta := Header.joinBetas (Header.texts headers Header.betaName)
        maxTokens := route.bind ModelRoute.maxTokens }
      gateway.settings.payloadOptions).payload.wire }

/-- What a call for the request takes from beside its body: the name that the client gave its
model, the limit of the route, and the user and the betas that the headers name. -/
structure ContextFor (gateway : Gateway) (headers : List Header) (request : ChatRequest)
    (context : CallContext) : Prop where
  model : context.requestedModel = some request.model
  maxTokens : context.maxTokens =
    (gateway.settings.models.lookup request.model).bind ModelRoute.maxTokens
  user : ∀ user, context.userId = some user ↔ Header.NamesUser headers user
  betas : Header.NamesBetas headers context.anthropicBeta

theorem ContextFor.unique {gateway : Gateway} {headers : List Header} {request : ChatRequest}
    {first second : CallContext} (one : ContextFor gateway headers request first)
    (other : ContextFor gateway headers request second) : first = second := by
  have model := one.model.trans other.model.symm
  have maxTokens := one.maxTokens.trans other.maxTokens.symm
  have user : first.userId = second.userId :=
    Option.ext fun user => (one.user user).trans (other.user user).symm
  have betas : first.anthropicBeta = second.anthropicBeta :=
    (Header.joinBetas_eq_iff.mpr one.betas).symm.trans (Header.joinBetas_eq_iff.mpr other.betas)
  cases first
  cases second
  cases model
  cases maxTokens
  cases user
  cases betas
  rfl

section

variable {gateway : Gateway} {fresh : Fresh} {headers : List Header} {body : ByteArray}
  {request : ChatRequest} {token : String}

variable (gateway) in
theorem prepare_of_streamed (requestId : String) (context : CallContext)
    (streamed : request.stream = some true) :
    ∃ message, prepare gateway requestId context request =
      ([], .error (.invalidRequest message)) := by
  rw [prepare, if_pos streamed]
  exact ⟨_, rfl⟩

theorem prepare_of_no_token (requestId : String) (context : CallContext)
    (whole : request.stream ≠ some true)
    (missing : ∀ token,
      gateway.environment gateway.settings.vertex.accessTokenVariable = some token →
        Text.allBlank token = true) :
    ∃ message, prepare gateway requestId context request = ([], .error (.config message)) := by
  rcases gateway.settings.accessToken_eq_error gateway.environment missing with
    ⟨message, refused⟩
  rw [prepare, if_neg whole, refused]
  exact ⟨message, rfl⟩

variable (headers) in
theorem prepare_of_admitted (requestId : String)
    (admitted : Admitted gateway body request token) :
    ∃ notes, prepare gateway requestId (.ofHeaders headers) request =
      (notes, .ok ⟨callFor gateway headers request token, request.model⟩) := by
  rw [prepare, if_neg admitted.whole,
    gateway.settings.accessToken_eq_ok gateway.environment admitted.held admitted.visible]
  exact ⟨_, rfl⟩

/-! Exchanges, in whatever way calls are made. -/

variable {m : Type → Type} [Monad m] (send : ProviderCall → m CallOutcome)

theorem ofBody_of_unread {fault : DecodeFault}
    (unread : decodeBytes ChatRequest.decode body = .error fault) :
    ∃ message exchange, exchange.reply = .ofFault (.invalidRequest message) ∧
      ofBody gateway fresh headers body send = pure exchange := by
  rw [ofBody, unread]
  exact ⟨_, _, rfl, rfl⟩

theorem ofBody_of_refused [LawfulMonad m] {notes : List Note} {fault : Fault}
    (read : decodeBytes ChatRequest.decode body = .ok request)
    (refused : prepare gateway fresh.requestId (.ofHeaders headers) request =
      (notes, .error fault)) :
    ∃ exchange, exchange.reply = .ofFault fault ∧
      ofBody gateway fresh headers body send = pure exchange := by
  rw [ofBody, read]
  simp only [complete, refused, pure_bind]
  exact ⟨_, rfl, rfl⟩

theorem ofBody_of_prepared [LawfulMonad m] {notes : List Note} {pending : Pending}
    (read : decodeBytes ChatRequest.decode body = .ok request)
    (prepared : prepare gateway fresh.requestId (.ofHeaders headers) request =
      (notes, .ok pending)) :
    ∃ finish : CallOutcome → Exchange,
      (∀ outcome, (finish outcome).reply =
        .ofResult (conclude fresh pending.requestedModel outcome).2) ∧
      ofBody gateway fresh headers body send = finish <$> send pending.call := by
  rw [ofBody, read]
  simp only [complete, prepared, bind_assoc, pure_bind]
  refine ⟨_, ?_, (bind_pure_comp _ _)⟩
  intro outcome
  rfl

/-! Completions. -/

variable (fresh) in
/-- An answer that is no error and can be read makes a completion of the model that was
asked for. -/
theorem conclude_of_answered {answer : Answer} {status : UInt16} {content : ByteArray}
    (model : String) (success : status < 400)
    (read : decodeBytes Answer.decode content = .ok answer) :
    ∃ completion, (conclude fresh model (.answered status content)).2 = .ok completion ∧
      completion.model = model := by
  have answered : Answer.ofResponse status content = .ok answer := by
    rw [Answer.ofResponse, if_neg (UInt16.not_le.mpr success), read]
  rw [conclude, answered]
  exact ⟨_, rfl, rfl⟩

end

/-! A provider that is watched. -/

def watched (answer : Url → ProviderCall → Delivery) (url : Url) (call : ProviderCall) :
    StateM (List (Url × ProviderCall)) Delivery := do
  modify (· ++ [(url, call)])
  return answer url call

def sendTo (answer : Url → ProviderCall → Delivery) (call : ProviderCall) :
    StateM (List (Url × ProviderCall)) CallOutcome :=
  call.outcome (watched answer)

/-- An exchange, and all posts to the provider that were made in it. -/
def watch (gateway : Gateway) (fresh : Fresh) (headers : List Header) (body : ByteArray)
    (answer : Url → ProviderCall → Delivery) : Exchange × List (Url × ProviderCall) :=
  (ofBody gateway fresh headers body (sendTo answer)).run []

def outcomeOf (url : Url) : Delivery → CallOutcome
  | .answered status content => .answered status content
  | .unreachable => .failed (ProviderCall.forUrl "error sending request" url)

theorem sendTo_of_address {call : ProviderCall} {url : Url} (accepted : call.address = .ok url)
    (answer : Url → ProviderCall → Delivery) :
    sendTo answer call = fun posts =>
      (outcomeOf url (answer url call), posts ++ [(url, call)]) := by
  funext posts
  rw [sendTo, ProviderCall.outcome, accepted]
  simp only [watched]
  cases answer url call <;> rfl

section

variable (gateway : Gateway) (fresh : Fresh) (headers : List Header) {body : ByteArray}
  (answer : Url → ProviderCall → Delivery) {request : ChatRequest} {token : String}

theorem watch_of_unread (unread : ∀ request, decodeBytes ChatRequest.decode body ≠ .ok request) :
    (watch gateway fresh headers body answer).2 = [] ∧
      (watch gateway fresh headers body answer).1.reply.Reports 400 "invalid_request_error" := by
  cases read : decodeBytes ChatRequest.decode body with
  | ok request => exact absurd read (unread request)
  | error fault =>
      rcases ofBody_of_unread (sendTo answer) read with ⟨message, exchange, replied, equal⟩
      rw [watch, equal]
      refine ⟨rfl, ?_⟩
      change exchange.reply.Reports 400 "invalid_request_error"
      rw [replied]
      exact Reply.reports_ofFault (.invalidRequest message)

theorem watch_of_refused {notes : List Note} {fault : Fault}
    (read : decodeBytes ChatRequest.decode body = .ok request)
    (refused : prepare gateway fresh.requestId (.ofHeaders headers) request =
      (notes, .error fault)) :
    (watch gateway fresh headers body answer).2 = [] ∧
      (watch gateway fresh headers body answer).1.reply.Reports (Reply.statusOf fault)
        fault.type := by
  rcases ofBody_of_refused (sendTo answer) read refused with ⟨exchange, replied, equal⟩
  rw [watch, equal]
  refine ⟨rfl, ?_⟩
  change exchange.reply.Reports _ _
  rw [replied]
  exact Reply.reports_ofFault fault

theorem watch_of_admitted {url : Url} (admitted : Admitted gateway body request token)
    (accepted : (callFor gateway headers request token).address = .ok url) :
    (watch gateway fresh headers body answer).2 =
        [(url, callFor gateway headers request token)] ∧
      (watch gateway fresh headers body answer).1.reply = .ofResult (conclude fresh request.model
        (outcomeOf url (answer url (callFor gateway headers request token)))).2 := by
  rcases prepare_of_admitted headers fresh.requestId admitted with
    ⟨notes, prepared⟩
  rcases ofBody_of_prepared (sendTo answer) admitted.read prepared with ⟨finish, replied, equal⟩
  simp only [watch, equal, sendTo_of_address accepted]
  exact ⟨rfl, replied _⟩

theorem mem_posts_of_admitted {url : Url} (admitted : Admitted gateway body request token)
    (accepted : (callFor gateway headers request token).address = .ok url) :
    (url, callFor gateway headers request token) ∈ (watch gateway fresh headers body answer).2 := by
  rw [(watch_of_admitted gateway fresh headers answer admitted accepted).1]
  exact List.mem_singleton_self _

/-- A body is admitted, or refused for one of three reasons. -/
theorem admitted_or_refused :
    (∃ request token, Admitted gateway body request token) ∨
      (∀ request, decodeBytes ChatRequest.decode body ≠ .ok request) ∨
      ∃ request, decodeBytes ChatRequest.decode body = .ok request ∧
        (request.stream = some true ∨ request.stream ≠ some true ∧
          ∀ token, gateway.environment gateway.settings.vertex.accessTokenVariable = some token →
            Text.allBlank token = true) := by
  cases read : decodeBytes ChatRequest.decode body with
  | error fault => exact .inr (.inl fun _ => nofun)
  | ok request =>
      by_cases streamed : request.stream = some true
      · exact .inr (.inr ⟨request, rfl, .inl streamed⟩)
      · by_cases held : ∃ token, gateway.environment
            gateway.settings.vertex.accessTokenVariable = some token ∧
              Text.allBlank token = false
        · rcases held with ⟨token, held, visible⟩
          exact .inl ⟨request, token, read, streamed, held, visible⟩
        · refine .inr (.inr ⟨request, rfl, .inr ⟨streamed, fun token present => ?_⟩⟩)
          rw [← Bool.not_eq_false]
          exact fun visible => held ⟨token, present, visible⟩

theorem watch_of_streamed (read : decodeBytes ChatRequest.decode body = .ok request)
    (streamed : request.stream = some true) :
    (watch gateway fresh headers body answer).2 = [] ∧
      (watch gateway fresh headers body answer).1.reply.Reports 400 "invalid_request_error" := by
  rcases prepare_of_streamed gateway fresh.requestId (.ofHeaders headers) streamed with
    ⟨message, refused⟩
  exact watch_of_refused gateway fresh headers answer read refused

theorem watch_of_no_token (read : decodeBytes ChatRequest.decode body = .ok request)
    (whole : request.stream ≠ some true)
    (missing : ∀ token,
      gateway.environment gateway.settings.vertex.accessTokenVariable = some token →
        Text.allBlank token = true) :
    (watch gateway fresh headers body answer).2 = [] ∧
      (watch gateway fresh headers body answer).1.reply.Reports 500 "api_error" := by
  rcases prepare_of_no_token fresh.requestId (.ofHeaders headers) whole missing with
    ⟨message, refused⟩
  exact watch_of_refused gateway fresh headers answer read refused

theorem posts_of_refused_address {reason : String}
    (admitted : Admitted gateway body request token)
    (refused : (callFor gateway headers request token).address = .error reason) :
    (watch gateway fresh headers body answer).2 = [] := by
  rcases prepare_of_admitted headers fresh.requestId admitted with
    ⟨notes, prepared⟩
  rcases ofBody_of_prepared (sendTo answer) admitted.read prepared with ⟨finish, -, equal⟩
  rw [watch, equal, sendTo, ProviderCall.outcome, refused]
  rfl

theorem posts_of_not_admitted
    (refused : ¬ ∃ request token, Admitted gateway body request token) :
    (watch gateway fresh headers body answer).2 = [] := by
  rcases admitted_or_refused gateway with
    admitted | unread | ⟨request, read, streamed | ⟨whole, missing⟩⟩
  · exact absurd admitted refused
  · exact (watch_of_unread gateway fresh headers answer unread).1
  · exact (watch_of_streamed gateway fresh headers answer read streamed).1
  · exact (watch_of_no_token gateway fresh headers answer read whole missing).1

/-- What is posted is the call for an admitted request, to the address of that call. -/
theorem admitted_of_mem_posts {post : Url × ProviderCall}
    (posted : post ∈ (watch gateway fresh headers body answer).2) :
    ∃ request token, Admitted gateway body request token ∧
      post.2 = callFor gateway headers request token ∧ post.2.address = .ok post.1 := by
  by_cases admitted : ∃ request token, Admitted gateway body request token
  · rcases admitted with ⟨request, token, admitted⟩
    cases address : (callFor gateway headers request token).address with
    | error reason =>
        rw [posts_of_refused_address gateway fresh headers answer admitted address] at posted
        cases posted
    | ok url =>
        rw [(watch_of_admitted gateway fresh headers answer admitted address).1,
          List.mem_singleton] at posted
        cases posted
        exact ⟨request, token, admitted, rfl, address⟩
  · rw [posts_of_not_admitted gateway fresh headers answer admitted] at posted
    cases posted

end

def routedGateway : Gateway where
  settings :=
    { listenPort := 4000
      vertex :=
        { projectId := "acme"
          region := "us-east5"
          accessTokenVariable := "TOKEN"
          baseUrl := some "http://127.0.0.1:9000/"
          anthropicVersion := defaultAnthropicVersion
          maxTokens := defaultMaxTokens }
      models := [("mini", .detailed "claude-3-5-haiku" (some 2000))]
      dropParams := [] }
  environment name := if name = "TOKEN" then some "secret" else none

def greetingBody (model : String) : ByteArray :=
  ("\x7b\"messages\":[\x7b\"role\":\"user\",\"content\":\"Hi\"\x7d],\"model\":\"" ++ model ++
    "\"\x7d").toUTF8

def greeting (model : String) : ChatRequest where
  model
  messages := [.ofContent .user (.text "Hi")]
  system := none
  maxTokens := none
  maxCompletionTokens := none
  temperature := none
  topP := none
  topK := none
  stop := none
  stream := none
  tools := none
  toolChoice := none
  thinking := none
  user := none
  metadata := none
  anthropicVersion := none
  extra := .empty

theorem admitted_mini :
    Admitted routedGateway (greetingBody "mini") (greeting "mini") "secret" :=
  ⟨eq_ok_of_toOption_eq_some (by decide +kernel), nofun, rfl, by decide⟩

theorem exists_address_mini (headers : List Header) :
    ∃ url, (callFor routedGateway headers (greeting "mini") "secret").address = .ok url := by
  -- The headers only tell in the body.
  have same : (callFor routedGateway headers (greeting "mini") "secret").address =
      (callFor routedGateway [] (greeting "mini") "secret").address :=
    ProviderCall.address_eq_of_target rfl rfl
  have addressed : (callFor routedGateway [] (greeting "mini") "secret").address.toOption.isSome := by
    decide +kernel
  rcases Option.isSome_iff_exists.mp addressed with ⟨url, address⟩
  exact ⟨url, same.trans (eq_ok_of_toOption_eq_some address)⟩

end Exchange

end ChatGateway

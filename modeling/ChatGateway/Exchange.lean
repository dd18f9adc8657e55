import ChatGateway.Chat.Reply
import ChatGateway.Endpoint
import ChatGateway.Journal.Entry
import ChatGateway.Messages.Outgoing
import ChatGateway.Provider.Call

namespace ChatGateway

/-! One chat-completion request from its arrival to the reply. At most one call of
the provider is made on the way. -/

/-- A header of a request; its name is in lower case. -/
structure Header where
  name : String
  value : ByteArray
  deriving Inhabited

namespace Header

def text? (header : Header) : Option String :=
  let bytes := header.value.data.toList
  if bytes.all fun byte => byte = 9 || (32 ≤ byte && byte < 127) then
    some (String.ofList (bytes.map fun byte => Char.ofNat byte.toNat))
  else none

def texts (headers : List Header) (name : String) : List String :=
  (headers.filter (·.name == name)).filterMap text?

def notBlank? (text : String) : Option String :=
  let text := Text.trim text
  if text = "" then none else some text

def betaName : String := "anthropic-beta"

def userName : String := "x-user-id"

/-- Several beta headers are one list; blank ones do not count. -/
def joinBetas (values : List String) : Option String :=
  match values.filterMap notBlank? with
  | [] => none
  | tokens => some (Text.join "," tokens)

def user? (headers : List Header) : Option String :=
  ((headers.find? (·.name == userName)).bind text?).bind notBlank?

end Header

def CallContext.ofHeaders (headers : List Header) : CallContext where
  requestedModel := none
  userId := Header.user? headers
  anthropicBeta := Header.joinBetas (Header.texts headers Header.betaName)
  maxTokens := none

structure Gateway where
  settings : Settings
  /-- The environment, which holds the access token. -/
  environment : String → Option String

structure Fresh where
  requestId : String
  completionId : String
  /-- Seconds since 1970. -/
  now : Int
  deriving DecidableEq, Inhabited

structure Pending where
  call : ProviderCall
  requestedModel : String
  deriving DecidableEq, Inhabited

namespace Exchange

abbrev Noted (α : Type) := List Note × α

section

variable (requestId : String)

def note (level : LogLevel) (component message : String) : List Note :=
  [.ofRequest requestId level component message]

def decisionNotes (decisions : List Decision) : List Note :=
  decisions.map (.ofDecision requestId)

end

def foreignModel (requestId : String) (model : String) : List Note :=
  if isSupportedModel model then []
  else
    note requestId .warn "proxy"
      ("Model '" ++ model ++ "' does not look like a Claude model; forwarding anyway")

def boolText (value : Bool) : String := if value then "true" else "false"

def prepare (gateway : Gateway) (requestId : String) (context : CallContext)
    (request : ChatRequest) : Noted (Except Fault Pending) :=
  if request.stream = some true then
    ([], .error (.invalidRequest
      "Streaming is not supported by this proxy; send stream=false"))
  else
    match gateway.settings.accessToken gateway.environment with
    | .error fault => ([], .error fault)
    | .ok token =>
        let resolved := gateway.settings.resolve request.model
        let outgoing := Outgoing.ofRequest request
          { context with
            requestedModel := some resolved.requested
            maxTokens := resolved.maxTokens }
          gateway.settings.payloadOptions
        let url := (Endpoint.ofSettings gateway.settings.vertex).url resolved.vertexModel
        let payload := outgoing.payload
        let notes := foreignModel requestId resolved.vertexModel ++
          decisionNotes requestId outgoing.decisions ++
          note requestId .info "proxy"
            ("POST " ++ url ++ " model=" ++ resolved.vertexModel ++
              " max_tokens=" ++ Text.ofNat payload.maxTokens.toNat ++
              " thinking=" ++ boolText payload.thinking.isSome)
        (notes, .ok
          { call := { url, token, body := payload.wire }
            requestedModel := resolved.requested })

def usageNote (requestId : String) (completion : Completion) : List Note :=
  match completion.usage with
  | some usage =>
      note requestId .info "proxy"
        ("Completed: in=" ++ Text.ofNat usage.promptTokens.toNat ++
          " out=" ++ Text.ofNat usage.completionTokens.toNat ++ " tokens")
  | none => []

def conclude (fresh : Fresh) (requestedModel : String) (outcome : CallOutcome) :
    Noted (Except Fault Completion) :=
  match outcome with
  | .failed reason => ([], .error (.http reason))
  | .answered status body =>
      match Answer.ofResponse status body with
      | .error (.provider status message) =>
          (note fresh.requestId .warn "proxy"
              ("Vertex error status=" ++ Text.ofNat status.toNat ++ ": " ++ message),
            .error (.provider status message))
      | .error fault => ([], .error fault)
      | .ok answer =>
          let (completion, decisions) :=
            (answer.toCompletion fresh.completionId fresh.now).normalize requestedModel
          (decisionNotes fresh.requestId decisions ++ usageNote fresh.requestId completion,
            .ok completion)

def complete {m : Type → Type} [Monad m] (gateway : Gateway) (fresh : Fresh)
    (context : CallContext) (request : ChatRequest)
    (send : ProviderCall → m CallOutcome) :
    m (Noted (List ProviderCall × Except Fault Completion)) := do
  match prepare gateway fresh.requestId context request with
  | (notes, .error fault) => return (notes, [], .error fault)
  | (notes, .ok pending) =>
      let outcome ← send pending.call
      let (more, result) := conclude fresh pending.requestedModel outcome
      return (notes ++ more, [pending.call], result)

end Exchange

structure Reply where
  status : UInt16
  body : Option Json
  deriving DecidableEq, Inhabited

namespace Reply

def ofCompletion (completion : Completion) : Reply where
  status := 200
  body := some completion.toJson

/-- The status of a fault; where it is no status of the web, that of a bad gateway. -/
def statusOf (fault : Fault) : UInt16 :=
  if 100 ≤ fault.status ∧ fault.status < 1000 then fault.status else 502

def ofFault (fault : Fault) : Reply where
  status := statusOf fault
  body := some (ChatError.of fault.type fault.clientMessage (some (statusOf fault))).toJson

def ofResult : Except Fault Completion → Reply
  | .ok completion => ofCompletion completion
  | .error fault => ofFault fault

def empty (status : UInt16) : Reply where
  status := status
  body := none

end Reply

structure Exchange where
  reply : Reply
  /-- The calls of the provider that were made. -/
  calls : List ProviderCall
  notes : List Note
  deriving DecidableEq, Inhabited

namespace Exchange

def arrival (requestId : String) (request : ChatRequest) : List Note :=
  note requestId .info "server"
    ("Request: model=" ++ request.model ++
      " messages=" ++ Text.ofNat request.messages.length ++
      " tools=" ++ Text.ofNat request.toolList.length)

def faultNotes (requestId : String) : Except Fault Completion → List Note
  | .ok _ => []
  | .error fault => note requestId .warn "server" ("Proxy error: " ++ fault.display)

def ofBody {m : Type → Type} [Monad m] (gateway : Gateway) (fresh : Fresh)
    (headers : List Header) (body : ByteArray) (send : ProviderCall → m CallOutcome) :
    m Exchange := do
  match decodeBytes ChatRequest.decode body with
  | .error fault =>
      return {
        reply := .ofFault (.invalidRequest ("Invalid request body: " ++ fault.message))
        calls := []
        notes := note fresh.requestId .warn "server"
          ("Failed to parse request: " ++ fault.message) }
  | .ok request =>
      let (notes, calls, result) ←
        complete gateway fresh (.ofHeaders headers) request send
      return {
        reply := .ofResult result
        calls
        notes := arrival fresh.requestId request ++ notes ++
          faultNotes fresh.requestId result }

end Exchange

end ChatGateway

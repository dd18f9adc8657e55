import ChatGateway.Exchange
import ChatGateway.Startup

namespace ChatGateway

/-! The routes of the gateway. Every path allows preflight requests, and a route
that answers GET answers HEAD without a body. -/

structure Inquiry where
  method : String
  /-- The path, with the query behind it. -/
  target : String
  headers : List Header
  body : ByteArray
  deriving Inhabited

inductive Route where
  | chat
  | health
  | models
  deriving DecidableEq, Inhabited

namespace Route

def ofPath? : String → Option Route
  | "/v1/chat/completions" | "/chat/completions" => some .chat
  | "/health" => some .health
  | "/v1/models" => some .models
  | _ => none

end Route

namespace Service

def health : Json :=
  .ofMembers (member "status" (.string "ok") ++ member "version" (.string Startup.version))

def modelEntry (name : String) : Json :=
  .ofMembers (member "id" (.string name) ++ member "object" (.string "model") ++
    member "owned_by" (.string "vertex-ai"))

def models (settings : Settings) : Json :=
  .ofMembers (member "data" (.array (settings.models.map fun (name, _) => modelEntry name)) ++
    member "object" (.string "list"))

def bare (reply : Reply) : Exchange := ⟨reply, [], []⟩

def page (method : String) (content : Json) : Exchange :=
  if method = "GET" then bare ⟨200, some content⟩
  else if method = "HEAD" then bare (.empty 200)
  else bare (.empty 405)

def pathOf (target : String) : String :=
  String.ofList (target.toList.takeWhile (· != '?'))

def answer {m : Type → Type} [Monad m] (gateway : Gateway) (fresh : Fresh) (inquiry : Inquiry)
    (send : ProviderCall → m CallOutcome) : m Exchange :=
  if inquiry.method = "OPTIONS" then pure (bare (.empty 200))
  else
    match Route.ofPath? (pathOf inquiry.target) with
    | none => pure (bare (.empty 404))
    | some .health => pure (page inquiry.method health)
    | some .models => pure (page inquiry.method (models gateway.settings))
    | some .chat =>
        if inquiry.method = "POST" then
          Exchange.ofBody gateway fresh inquiry.headers inquiry.body send
        else pure (bare (.empty 405))

/-- The headers of a reply. Pages of every site may use the gateway. -/
def headers (method : String) (reply : Reply) : List (String × String) :=
  let content := if reply.body.isSome then [("content-type", "application/json")] else []
  let preflight :=
    if method = "OPTIONS" then
      [("access-control-allow-methods", "*"), ("access-control-allow-headers", "*")]
    else []
  content ++ preflight ++
    [("access-control-allow-origin", "*"),
      ("vary", "origin, access-control-request-method, access-control-request-headers")]

end Service

end ChatGateway

import ChatGateway.Chat.Completion

namespace ChatGateway

/-! What can go wrong in the gateway, and how a client is told. -/

inductive Fault where
  | config (message : String)
  /-- The provider answered with an error. -/
  | provider (status : UInt16) (message : String)
  /-- The provider's answer is not what was expected. -/
  | badAnswer (message : String)
  | invalidRequest (message : String)
  | http (message : String)
  | io (message : String)
  | json (message : String)
  | toml (message : String)
  deriving DecidableEq, Inhabited

namespace Fault

def display : Fault → String
  | config message => "Configuration error: " ++ message
  | provider status message =>
      "Provider error (" ++ Text.ofNat status.toNat ++ "): " ++ message
  | badAnswer message => "Translation error: " ++ message
  | invalidRequest message => "Invalid request: " ++ message
  | http message => "HTTP error: " ++ message
  | io message => "IO error: " ++ message
  | json message => "JSON error: " ++ message
  | toml message => "TOML parse error: " ++ message

def status : Fault → UInt16
  | provider status _ => status
  | invalidRequest _ | json _ => 400
  | config _ | io _ | toml _ => 500
  | badAnswer _ | http _ => 502

def typeOfStatus (status : UInt16) : String :=
  if status = 400 ∨ status = 404 ∨ status = 422 then "invalid_request_error"
  else if status = 401 ∨ status = 403 then "authentication_error"
  else if status = 429 then "rate_limit_error"
  else "api_error"

def type (fault : Fault) : String :=
  typeOfStatus fault.status

/-- What the client reads: the provider's own words, or the whole display. -/
def clientMessage : Fault → String
  | provider _ message => message
  | fault => fault.display

end Fault

def ChatError.of (type message : String) (code : Option UInt16) : ChatError where
  message := message
  type := type
  code := code.map fun code => Text.ofNat code.toNat

end ChatGateway

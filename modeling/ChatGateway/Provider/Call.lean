import ChatGateway.Fault
import ChatGateway.Messages.Answer
import ChatGateway.Text.Lossy
import ChatGateway.Url

namespace ChatGateway

/-! A call of the provider and what comes of it. -/

structure ProviderCall where
  url : String
  token : String
  /-- The payload as it is sent. -/
  body : String
  deriving DecidableEq, Inhabited

inductive Delivery where
  | answered (status : UInt16) (body : ByteArray)
  /-- No answer came. -/
  | unreachable
  deriving Inhabited

inductive CallOutcome where
  | answered (status : UInt16) (body : ByteArray)
  /-- The call could not be made, or had no answer. -/
  | failed (reason : String)
  deriving Inhabited

namespace ProviderCall

def authorization (call : ProviderCall) : String := "Bearer " ++ call.token

/-- A header may hold every character but the control characters other than the
tab. -/
def fitsHeader (text : String) : Bool :=
  text.toList.all fun char => char == '\t' || (0x20 ≤ char.toNat && char.toNat != 0x7F)

def cannotBuild : String := "builder error"

def forUrl (reason : String) (url : Url) : String :=
  reason ++ " for url (" ++ url.render ++ ")"

def address (call : ProviderCall) : Except String Url :=
  match Url.read call.url with
  | none => .error cannotBuild
  | some url =>
      if url.authority.isNone then .error (forUrl cannotBuild url)
      else if !fitsHeader call.token then .error cannotBuild
      else if !Url.isWeb url.scheme then .error (forUrl cannotBuild url)
      else .ok url

def outcome {m : Type → Type} [Monad m] (call : ProviderCall)
    (deliver : Url → ProviderCall → m Delivery) : m CallOutcome := do
  match call.address with
  | .error reason => return .failed reason
  | .ok url =>
      match ← deliver url call with
      | .answered status body => return .answered status body
      | .unreachable => return .failed (forUrl "error sending request" url)

end ProviderCall

/-! Reading the provider's answer. -/

/-- Decodes a body. One that is not UTF-8 is not JSON, not even where a part would be skipped. -/
def decodeBytes {α : Type} (decode : Decoder α) (body : ByteArray) : Except DecodeFault α :=
  match String.fromUTF8? body with
  | some text => Decoder.ofText decode text.toList
  | none => .error .notJson

namespace ErrorEnvelope

def emptyBody : String := "empty response body"

/-- The message of an error: the envelope's, or the beginning of the body. -/
def messageOf (body : ByteArray) : String :=
  match decodeBytes decode body with
  | .ok envelope => envelope.message
  | .error _ =>
      let text := Text.truncated 500 (Text.trim (Text.lossy body))
      if text = "" then emptyBody else text

end ErrorEnvelope

def Answer.ofResponse (status : UInt16) (body : ByteArray) : Except Fault Answer :=
  if 400 ≤ status then .error (.provider status (ErrorEnvelope.messageOf body))
  else
    match decodeBytes Answer.decode body with
    | .ok answer => .ok answer
    | .error fault =>
        .error (.badAnswer ("Failed to parse Vertex response: " ++ fault.message ++
          ". Body: " ++ Text.truncated 300 (Text.lossy body)))

end ChatGateway

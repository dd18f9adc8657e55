import ChatGateway.Provider.Wire
import ChatGateway.Service
import ChatGateway.Uuid
import Std.Http
import Std.Time

namespace ChatGateway

/-! The program: the gateway on a real disk, clock and network. Calls of the provider
go out without encryption only. -/

namespace Program

open Std.Async

def moment : IO Timestamp := do
  let nanoseconds := (← Std.Time.Timestamp.now).toNanosecondsSinceUnixEpoch.val
  return ⟨nanoseconds / 1000000000, (nanoseconds % 1000000000).toNat⟩

/-! Faults of the system. -/

def causeOf : IO.Error → Option (UInt32 × String)
  | .alreadyExists _ number details | .otherError number details
  | .resourceBusy number details | .resourceVanished number details
  | .unsupportedOperation number details | .hardwareFault number details
  | .unsatisfiedConstraints number details | .illegalOperation number details
  | .protocolError number details | .timeExpired number details
  | .interrupted _ number details | .noFileOrDirectory _ number details
  | .invalidArgument _ number details | .permissionDenied _ number details
  | .resourceExhausted _ number details | .inappropriateType _ number details
  | .noSuchThing _ number details => some (number, details)
  | .unexpectedEof | .userError _ => none

/-- Faults of sockets have negative numbers. -/
def faultOf (error : IO.Error) : SystemFault :=
  match causeOf error with
  | some (number, details) =>
      .ofNumber (if number < 0x80000000 then number else 0 - number).toNat details
  | none => .other (toString error)

def attempt {α : Type} (action : IO α) : IO (Except SystemFault α) := do
  match ← action.toBaseIO with
  | .ok value => return .ok value
  | .error error => return .error (faultOf error)

/-! The journal's file. -/

structure JournalFile where
  journal : Std.Mutex Journal
  handle : IO.FS.Handle

def makeDirectories (path : String) : IO (Except SystemFault Unit) := do
  match ← attempt (IO.FS.createDir path) with
  | .error .notFound => attempt (IO.FS.createDirAll path)
  | .error fault =>
      if ← (System.mkFilePath [path]).isDir then return .ok () else return .error fault
  | .ok () => return .ok ()

def makeParents (path : String) : IO (Except SystemFault Unit) := do
  match FilePath.parent? path with
  | none | some "" => return .ok ()
  | some above => makeDirectories above

def openFile (path : String) : IO (Except SystemFault (IO.FS.Handle × Journal)) := do
  match ← makeParents path with
  | .error fault => return .error fault
  | .ok () =>
      attempt do
        let handle ← IO.FS.Handle.mk path .append
        return (handle, .ofContent (← IO.FS.readBinFile path))

/-- Logs a note; what cannot be written is in memory only. -/
def JournalFile.log (file : JournalFile) (note : Note) : IO Unit := do
  let entry : LogEntry := ⟨← moment, note⟩
  file.journal.atomically do
    let journal ← get
    discard <| attempt do
      file.handle.write (journal.appended entry)
      file.handle.flush
    set (journal.remember entry)

/-! Calls of the provider. -/

/-- All that comes until the other side closes the connection. -/
partial def receiveAll (client : TCP.Socket.Client) (received : ByteArray) : Async ByteArray := do
  match ← client.recv? 65536 with
  | some bytes => receiveAll client (received ++ bytes)
  | none => return received

def socketAddress (number : UInt16) : Std.Net.IPAddr → Std.Net.SocketAddress
  | .v4 addr => .v4 ⟨addr, number⟩
  | .v6 addr => .v6 ⟨addr, number⟩

def exchangeBytes (url : Url) (call : ProviderCall) : Async Delivery := do
  let (host, number) := url.connectionPoint
  let addresses ← DNS.getAddrInfo host number
  match addresses[0]?, CommandLine.portOf? number with
  | some address, some number =>
      let client ← TCP.Socket.Client.mk
      client.connect (socketAddress number address)
      client.send (call.wire url)
      return Delivery.ofWire (← receiveAll client .empty)
  | _, _ => return .unreachable

/-- Delivers a call; there are five minutes for an answer. -/
def deliver (url : Url) (call : ProviderCall) : Async Delivery := do
  if url.scheme = "http" then
    try
      Async.race (exchangeBytes url call) do
        Std.Async.sleep 300000
        return .unreachable
    catch _ => return .unreachable
  else return .unreachable

/-! Serving. -/

abbrev Responder :=
  Std.Http.Request Std.Http.Body.Stream → ContextAsync (Std.Http.Response Std.Http.Body.Any)

def inquiryOf (request : Std.Http.Request Std.Http.Body.Stream) : ContextAsync Inquiry := do
  let body : ByteArray ← request.body.readAll
  return {
    method := toString request.line.method
    target := toString request.line.uri
    headers := request.line.headers.toList.map fun (name, value) =>
      ⟨name.value, value.value.toUTF8⟩
    body }

def responseOf (method : String) (reply : Reply) :
    Async (Std.Http.Response Std.Http.Body.Any) := do
  let status := (Std.Http.Status.ofCode none reply.status).getD .badGateway
  let named := (Service.headers method reply).foldl
    (fun builder (name, value) => (builder.header? name value).getD builder)
    (Std.Http.Response.withStatus status)
  let response ← named.fromBytes ((reply.body.map fun body => body.render.toUTF8).getD .empty)
  return { line := response.line, body := .ofBody response.body, extensions := response.extensions }

def gatewayOf (settings : Settings) : IO Gateway := do
  let variableName := settings.vertex.accessTokenVariable
  let token ← IO.getEnv variableName
  return { settings, environment := fun name => if name = variableName then token else none }

def responder (settings : Settings) (file : JournalFile) : Responder := fun request => do
  let inquiry ← inquiryOf request
  let gateway ← gatewayOf settings
  let bytes ← IO.getRandomBytes 32
  let fresh := Fresh.ofBytes bytes.data.toList (← moment).seconds
  let send (call : ProviderCall) : Async CallOutcome := call.outcome deliver
  let exchange ← (Service.answer gateway fresh inquiry send : Async Exchange)
  exchange.notes.forM fun note => (file.log note : IO Unit)
  responseOf inquiry.method exchange.reply

/-! Starting. -/

structure Starting where
  handle : IO.Ref (Option IO.FS.Handle)
  server : IO.Ref (Option Std.Http.Server)
  responder : IO.Promise Responder

def Starting.new : IO Starting := do
  return {
    handle := ← IO.mkRef none
    server := ← IO.mkRef none
    responder := ← IO.Promise.new }

/-- Requests that come before the start is finished wait for its end. -/
def Starting.listen (starting : Starting) (number : UInt16) : IO Unit := do
  let handler := Std.Http.Server.Handler.ofFn fun request => do
    (← await starting.responder) request
  let address : Std.Net.SocketAddress := .v4 ⟨.ofParts 0 0 0 0, number⟩
  starting.server.set (some (← (Std.Http.Server.serve address handler).block))

def Starting.machine (starting : Starting) : Machine IO where
  environment name := IO.getEnv name
  isPresent place := (System.mkFilePath [place]).pathExists
  read place := attempt (IO.FS.readBinFile place)
  openJournal path := do
    match ← openFile path with
    | .error fault => return .error fault
    | .ok (handle, journal) =>
        starting.handle.set (some handle)
        return .ok journal
  listen number := attempt (starting.listen number)

def showLines (lines : List ConsoleLine) : IO Unit := do
  let output ← IO.getStdout
  lines.forM fun line => do
    output.putStrLn (line.render (← moment).render)
  output.flush

def serve (starting : Starting) (settings : Settings) (file : JournalFile) : IO Unit := do
  starting.responder.resolve (responder settings file)
  match ← starting.server.get with
  | some server => server.waitShutdown.block
  | none => return ()

def run (words : List String) : IO UInt32 := do
  let starting ← Starting.new
  let startup ← Startup.ofCommand starting.machine (CommandLine.read words)
  match ← starting.handle.get, startup.ending with
  | some handle, .serving settings journal =>
      let file : JournalFile := { journal := ← Std.Mutex.new journal, handle }
      startup.notes.forM file.log
      showLines startup.shown
      serve starting settings file
  | some handle, _ =>
      let file : JournalFile := { journal := ← Std.Mutex.new (.ofContent .empty), handle }
      startup.notes.forM file.log
      showLines startup.shown
  | none, _ => showLines startup.shown
  startup.ending.complaint?.forM (← IO.getStderr).putStrLn
  return startup.ending.exitCode.toUInt32

end Program

end ChatGateway

def main (words : List String) : IO UInt32 := ChatGateway.Program.run words

import ChatGateway.CommandLine
import ChatGateway.Console
import ChatGateway.Endpoint
import ChatGateway.Journal
import ChatGateway.Settings.Location

namespace ChatGateway

/-! The start of the gateway: settings are found, the journal is opened, and the
gateway begins to listen. The machine it runs on is a parameter, so that the start is
the same on a disk and on a tree of files in memory. -/

structure Machine (m : Type → Type) where
  environment : String → m (Option String)
  isPresent : String → m Bool
  read : String → m Settings.Reading
  /-- Makes the directories above a journal's file, loads it and opens it for
  appending. -/
  openJournal : String → m (Except SystemFault Journal)
  /-- Begins to listen on all addresses of the machine. -/
  listen : UInt16 → m (Except SystemFault Unit)

inductive Ending where
  /-- There was nothing to do but to print. -/
  | finished
  | failed (message : String)
  /-- The command line makes no sense. -/
  | misused (error : UsageError)
  /-- The gateway listens. -/
  | serving (settings : Settings) (journal : Journal)
  deriving Inhabited

namespace Ending

def exitCode : Ending → UInt8
  | .finished | .serving .. => 0
  | .failed _ => 1
  | .misused _ => 2

def complaint? : Ending → Option String
  | .failed message => some ("Error: " ++ message)
  | .misused error => some error.message
  | .finished | .serving .. => none

end Ending

structure Startup where
  shown : List ConsoleLine
  /-- What the journal is told. -/
  notes : List Note
  ending : Ending
  deriving Inhabited

namespace Startup

def version : String := "0.1.0"

def versionLine : String := Settings.programName ++ " " ++ version

def mainTarget : String := "vertex_claude_proxy"

def event (level : LogLevel) (message : String) : ConsoleLine :=
  .event ⟨level, mainTarget, message⟩

def numbered (places : List String) : List String :=
  places.zipIdx.map fun (place, index) => "  " ++ Text.ofNat (index + 1) ++ ". " ++ place

def placesLines (places : List String) : List ConsoleLine :=
  ("Config search paths:" :: numbered places).map .plain

/-- The settings with what the command line changes in them. -/
def adjusted (invocation : Invocation) (settings : Settings) : Settings :=
  { settings with
    listenPort := invocation.listenPort.getD settings.listenPort
    vertex := { settings.vertex with
      region := invocation.region.getD settings.vertex.region } }

def announcement (settings : Settings) (logFile : String) : List ConsoleLine :=
  let endpoint := Endpoint.ofSettings settings.vertex
  let host := settings.vertex.baseUrl.getD endpoint.host
  [ Settings.programName ++ " v" ++ version,
    "  Project:   " ++ settings.vertex.projectId,
    "  Region:    " ++ settings.vertex.region,
    "  Host:      " ++ host,
    "  Version:   " ++ settings.vertex.anthropicVersion,
    "  Port:      " ++ Text.ofNat settings.listenPort.toNat,
    "  Models:    " ++ Text.ofNat settings.models.length ++ " mapped",
    "  Log file:  " ++ logFile ].map (event .info)

def startNote (settings : Settings) : Note :=
  .plain .info "startup"
    ("Starting " ++ Settings.programName ++ " project=" ++ settings.vertex.projectId ++
      " region=" ++ settings.vertex.region ++
      " port=" ++ Text.ofNat settings.listenPort.toNat)

def tokenWarning (settings : Settings) (token : Option String) : List ConsoleLine :=
  match settings.accessToken fun _ => token with
  | .ok _ => []
  | .error fault => [event .warn fault.display]

def foundLine (place : String) : ConsoleLine :=
  .event ⟨.info, mainTarget ++ "::config", "Loading config path=" ++ place⟩

def listening (settings : Settings) : List ConsoleLine :=
  let number := Text.ofNat settings.listenPort.toNat
  [ "Listening on http://0.0.0.0:" ++ number,
    "  OPENAI_BASE_URL=http://localhost:" ++ number ++ "/v1" ].map (event .info)

variable {m : Type → Type} [Monad m]

def firstPresent (machine : Machine m) : List String → m (Option String)
  | [] => return none
  | place :: rest => do
      if ← machine.isPresent place then return some place
      firstPresent machine rest

/-- The settings of the file that is named, or of the first that is found; with what
is shown about the search. -/
def loadSettings (machine : Machine m) (named : Option String) (places : List String) :
    m (List ConsoleLine × Except Fault Settings) := do
  match named with
  | some place => return ([], Settings.ofReading place (← machine.read place))
  | none =>
      match ← firstPresent machine places with
      | some place =>
          return ([foundLine place], Settings.ofReading place (← machine.read place))
      | none => return ([], .error (Settings.notFound places))

def serve (machine : Machine m) (invocation : Invocation) (settings : Settings)
    (found : List ConsoleLine) : m Startup := do
  match ← machine.openJournal invocation.logFile with
  | .error fault => return ⟨found, [], .failed fault.message⟩
  | .ok journal =>
      let token ← machine.environment settings.vertex.accessTokenVariable
      let shown := found ++ tokenWarning settings token ++
        announcement settings invocation.logFile
      let notes := [startNote settings]
      match ← machine.listen settings.listenPort with
      | .error fault => return ⟨shown, notes, .failed fault.message⟩
      | .ok () => return ⟨shown ++ listening settings, notes, .serving settings journal⟩

def unfiltered (machine : Machine m) (invocation : Invocation) : m Startup := do
  let places := Settings.searchPlaces (← machine.environment "HOME")
    (← machine.environment "XDG_CONFIG_HOME")
  if invocation.showsConfigPaths then return ⟨placesLines places, [], .finished⟩
  match ← loadSettings machine invocation.configPath places with
  | (found, .error fault) => return ⟨found, [], .failed fault.display⟩
  | (found, .ok settings) => serve machine invocation (adjusted invocation settings) found

def run (machine : Machine m) (invocation : Invocation) : m Startup := do
  let startup ← unfiltered machine invocation
  let filter := ConsoleFilter.ofText (← machine.environment "RUST_LOG")
  return { startup with shown := filter.keep startup.shown }

def ofCommand (machine : Machine m) : Except UsageError Command → m Startup
  | .error error => return ⟨[], [], .misused error⟩
  | .ok .help => return ⟨CommandLine.helpLines.map .plain, [], .finished⟩
  | .ok .version => return ⟨[.plain versionLine], [], .finished⟩
  | .ok (.run invocation) => run machine invocation

end Startup

end ChatGateway

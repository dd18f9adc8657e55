import ChatGateway.Text

namespace ChatGateway

/-! The command line. Options may stand in any order, each at most once; a long
option takes its value after `=` or as the next word, a short one also without a
space between. There are no words beside the options. -/

structure Invocation where
  configPath : Option String
  listenPort : Option UInt16
  region : Option String
  logFile : String
  showsConfigPaths : Bool
  deriving DecidableEq, Inhabited

inductive Command where
  | run (invocation : Invocation)
  | help
  | version
  deriving DecidableEq, Inhabited

inductive UsageError where
  | unknownOption (word : String)
  | unexpectedWord (word : String)
  | missingValue (option : String)
  | unexpectedValue (option : String)
  | badValue (option value : String)
  | repeated (option : String)
  deriving DecidableEq, Inhabited

def UsageError.message : UsageError → String
  | .unknownOption word | .unexpectedWord word =>
      "error: unexpected argument '" ++ word ++ "' found"
  | .missingValue option =>
      "error: a value is required for '" ++ option ++ "' but none was supplied"
  | .unexpectedValue option =>
      "error: unexpected value for '" ++ option ++ "' found; no more were expected"
  | .badValue option value => "error: invalid value '" ++ value ++ "' for '" ++ option ++ "'"
  | .repeated option => "error: the argument '" ++ option ++ "' cannot be used multiple times"

namespace CommandLine

inductive Flag where
  | config
  | listenPort
  | region
  | logFile
  | showConfigPaths
  | help
  | version
  deriving DecidableEq, Inhabited

namespace Flag

def long : Flag → String
  | config => "config"
  | listenPort => "port"
  | region => "region"
  | logFile => "log-file"
  | showConfigPaths => "show-config-paths"
  | help => "help"
  | version => "version"

def short? : Flag → Option Char
  | config => some 'c'
  | listenPort => some 'p'
  | help => some 'h'
  | version => some 'V'
  | _ => none

def all : List Flag :=
  [config, listenPort, region, logFile, showConfigPaths, help, version]

def takesValue : Flag → Bool
  | config | listenPort | region | logFile => true
  | _ => false

def describe (flag : Flag) : String := "--" ++ flag.long

end Flag

def helpLines : List String :=
  [ "OpenAI-compatible chat completions for Claude on Vertex AI",
    "",
    "Usage: vertex-claude-proxy [OPTIONS]",
    "",
    "Options:",
    "  -c, --config <CONFIG>      Path to config file (TOML)",
    "  -p, --port <PORT>          Port to listen on (overrides config)",
    "      --region <REGION>      Vertex region (overrides config)",
    "      --log-file <LOG_FILE>  Log file path [default: vertex-claude-proxy.log]",
    "      --show-config-paths    Print config search paths and exit",
    "  -h, --help                 Print help",
    "  -V, --version              Print version" ]

structure Given where
  flags : List Flag
  invocation : Invocation

def nothing : Given where
  flags := []
  invocation :=
    { configPath := none
      listenPort := none
      region := none
      logFile := "vertex-claude-proxy.log"
      showsConfigPaths := false }

/-- A number below 2^16; a plus sign may stand before it. -/
def portOf? (text : String) : Option UInt16 :=
  let digits := match text.toList with
    | '+' :: rest => rest
    | chars => chars
  let value := digits.foldl (fun value digit => value * 10 + (digit.toNat - '0'.toNat)) 0
  if digits.isEmpty || !digits.all Char.isDigit || Nat.pow 2 16 ≤ value then none
  else some (UInt16.ofNat value)

def withValue (flag : Flag) (value : String) (invocation : Invocation) :
    Except UsageError Invocation :=
  match flag with
  | .config =>
      if value = "" then .error (.badValue flag.describe value)
      else .ok { invocation with configPath := some value }
  | .logFile =>
      if value = "" then .error (.badValue flag.describe value)
      else .ok { invocation with logFile := value }
  | .region => .ok { invocation with region := some value }
  | .listenPort =>
      match portOf? value with
      | some listenPort => .ok { invocation with listenPort := some listenPort }
      | none => .error (.badValue flag.describe value)
  | _ => .error (.unexpectedValue flag.describe)

def give (flag : Flag) (value : String) (given : Given) : Except UsageError Given := do
  let invocation ← withValue flag value given.invocation
  if given.flags.contains flag then .error (.repeated flag.describe)
  else .ok { flags := flag :: given.flags, invocation }

/-- An option that takes no value; help and version end the reading. -/
def raise (flag : Flag) (given : Given) : Except UsageError (Command ⊕ Given) :=
  match flag with
  | .help => .ok (.inl .help)
  | .version => .ok (.inl .version)
  | _ =>
      if given.flags.contains flag then .error (.repeated flag.describe)
      else
        .ok (.inr
          { flags := flag :: given.flags
            invocation := { given.invocation with showsConfigPaths := true } })

/-- A word that may be a value: it does not look like an option. -/
def isValueWord (word : String) : Bool :=
  match word.toList with
  | '-' :: _ :: _ => false
  | _ => true

inductive Step where
  | finished (command : Command)
  | proceed (given : Given)
  | awaits (flag : Flag)

def raised (flag : Flag) (given : Given) : Except UsageError Step :=
  (raise flag given).map fun
    | .inl command => .finished command
    | .inr given => .proceed given

def longStep (name : List Char) (given : Given) : Except UsageError Step :=
  let (head, value) := match Text.splitAtFirst? '=' name with
    | some (head, value) => (head, some (String.ofList value))
    | none => (name, none)
  match Flag.all.find? (·.long == String.ofList head), value with
  | none, _ => .error (.unknownOption ("--" ++ String.ofList head))
  | some flag, some value =>
      if flag.takesValue then (give flag value given).map .proceed
      else .error (.unexpectedValue flag.describe)
  | some flag, none =>
      if flag.takesValue then .ok (.awaits flag) else raised flag given

/-- Short options may stand together; what follows one that takes a value is its
value, with or without `=`. -/
def shortStep (given : Given) : List Char → Except UsageError Step
  | [] => .ok (.proceed given)
  | letter :: rest =>
      match Flag.all.find? (·.short? == some letter) with
      | none => .error (.unknownOption ("-" ++ String.singleton letter))
      | some flag =>
          if flag.takesValue then
            match rest with
            | [] => .ok (.awaits flag)
            | '=' :: value => (give flag (String.ofList value) given).map .proceed
            | value => (give flag (String.ofList value) given).map .proceed
          else
            match raise flag given with
            | .error fault => .error fault
            | .ok (.inl command) => .ok (.finished command)
            | .ok (.inr given) => shortStep given rest

def step (word : String) (given : Given) : Except UsageError Step :=
  match word.toList with
  | '-' :: '-' :: name => longStep name given
  | '-' :: letter :: rest => shortStep given (letter :: rest)
  | _ => .error (.unexpectedWord word)

/-- After `--` there are no options. -/
def readWords (given : Given) : List String → Except UsageError Command
  | [] | ["--"] => .ok (.run given.invocation)
  | "--" :: word :: _ => .error (.unexpectedWord word)
  | word :: rest =>
      match step word given with
      | .error fault => .error fault
      | .ok (.finished command) => .ok command
      | .ok (.proceed given) => readWords given rest
      | .ok (.awaits flag) =>
          match rest with
          | [] => .error (.missingValue flag.describe)
          | value :: rest =>
              if isValueWord value then
                match give flag value given with
                | .error fault => .error fault
                | .ok given => readWords given rest
              else .error (.missingValue flag.describe)

def read (words : List String) : Except UsageError Command :=
  readWords nothing words

example : (read ["-p80", "--config=a"]).toOption =
    some (.run { nothing.invocation with configPath := some "a", listenPort := some 80 }) := by
  decide +kernel

end CommandLine

end ChatGateway

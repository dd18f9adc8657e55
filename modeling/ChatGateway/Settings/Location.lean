import ChatGateway.FilePath
import ChatGateway.Settings
import ChatGateway.SystemFault
import ChatGateway.Toml.Reader

namespace ChatGateway

/-! Where settings come from: a text in TOML, in a file that is named or that is
found at one of several places. -/

namespace Settings

def programName : String := "vertex-claude-proxy"

def ofText (text : String) : Except Fault Settings :=
  match Toml.read text with
  | none => .error (.toml "the text is not TOML")
  | some members =>
      match Decoder.ofJson decode (Toml.table .header members).toJson with
      | .error fault => .error (.toml fault.message)
      | .ok settings => settings.check.map fun _ => settings

def searchPlaces (home configHome : Option String) : List String :=
  [programName ++ ".toml"] ++
    (configHome.map fun base => FilePath.below base [programName, "config.toml"]).toList ++
    (home.map fun base => FilePath.below base [".config", programName, "config.toml"]).toList ++
    (home.map fun base => FilePath.join base ("." ++ programName ++ ".toml")).toList

example : searchPlaces (some "/h") none =
    ["vertex-claude-proxy.toml", "/h/.config/vertex-claude-proxy/config.toml",
      "/h/.vertex-claude-proxy.toml"] := by decide +kernel

abbrev Reading := Except SystemFault ByteArray

def ofReading (place : String) (reading : Reading) : Except Fault Settings :=
  let text : Except SystemFault String := reading.bind fun content =>
    match String.fromUTF8? content with
    | some text => .ok text
    | none => .error .notText
  match text with
  | .ok text => ofText text
  | .error fault =>
      .error (.config ("Failed to read config file " ++ place ++ ": " ++ fault.message))

def notFound (places : List String) : Fault :=
  .config ("No config file found. Searched: " ++ Text.join ", " places ++
    ". Create one from config.example.toml")

end Settings

end ChatGateway

import ChatGateway.Decision
import ChatGateway.Timestamp

namespace ChatGateway

/-! Entries of the log. A note is what happened; an entry is a note with its
moment, and is written as one line of JSON. -/

inductive LogLevel where
  | debug
  | info
  | warn
  | error
  deriving DecidableEq, Inhabited

namespace LogLevel

def name : LogLevel → String
  | debug => "debug"
  | info => "info"
  | warn => "warn"
  | error => "error"

def ofName? : String → Option LogLevel
  | "debug" => some debug
  | "info" => some info
  | "warn" => some warn
  | "error" => some error
  | _ => none

def decode : Decoder LogLevel :=
  .variant "one of `debug`, `info`, `warn`, `error`" ofName?

end LogLevel

structure Note where
  level : LogLevel
  component : String
  requestId : Option String
  message : String
  context : Option Json
  deriving DecidableEq, Inhabited

namespace Note

def plain (level : LogLevel) (component message : String) : Note where
  level := level
  component := component
  requestId := none
  message := message
  context := none

def ofRequest (requestId : String) (level : LogLevel) (component message : String) : Note :=
  { plain level component message with requestId := some requestId }

def ofDecision (requestId : String) (decision : Decision) : Note :=
  { ofRequest requestId .debug "transform" decision.summary with
    context := some decision.toJson }

end Note

structure LogEntry where
  timestamp : Timestamp
  note : Note
  deriving DecidableEq, Inhabited

namespace LogEntry

def timestampField : Decoder Timestamp := fun document =>
  match Decoder.string document with
  | .error fault => .error fault
  | .ok text =>
      match Timestamp.read text with
      | some timestamp => .ok timestamp
      | none => .error (.custom "not a moment in time")

def fields : Record LogEntry :=
  (fun timestamp level component requestId message context =>
      LogEntry.mk timestamp ⟨level, component, requestId, message, context⟩) <$>
    .required "timestamp" timestampField <*> .required "level" LogLevel.decode <*>
    .required "component" .string <*> .omissible "request_id" .string <*>
    .required "message" .string <*> .optional "context" .json

def decode : Decoder LogEntry :=
  fields.decode "struct LogEntry"

def members (entry : LogEntry) : List (String × Json) :=
  member "timestamp" (.string entry.timestamp.render) ++
    member "level" (.string entry.note.level.name) ++
    member "component" (.string entry.note.component) ++
    member? "request_id" (entry.note.requestId.map .string) ++
    member "message" (.string entry.note.message) ++ member? "context" entry.note.context

def toJson (entry : LogEntry) : Json :=
  .ofMembers entry.members

def line (entry : LogEntry) : String :=
  (Json.object entry.members).render

def ofLine? (line : String) : Option LogEntry :=
  (Decoder.ofText decode line.toList).toOption

end LogEntry

end ChatGateway

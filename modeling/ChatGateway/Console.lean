import ChatGateway.Journal.Entry

namespace ChatGateway

/-! What the program shows on its console. Events have a level and a target, and a
filter decides by both which of them are shown. -/

structure ConsoleEvent where
  level : LogLevel
  target : String
  message : String
  deriving DecidableEq, Inhabited

namespace ConsoleEvent

def levelName : LogLevel → String
  | .debug => "DEBUG"
  | .info => " INFO"
  | .warn => " WARN"
  | .error => "ERROR"

def render (event : ConsoleEvent) (time : String) : String :=
  time ++ " " ++ levelName event.level ++ " " ++ event.target ++ ": " ++ event.message

end ConsoleEvent

inductive ConsoleLine where
  | plain (text : String)
  | event (event : ConsoleEvent)
  deriving DecidableEq, Inhabited

def ConsoleLine.render (time : String) : ConsoleLine → String
  | .plain text => text
  | .event shown => shown.render time

/-- Shows events of a target up to a verbosity: 0 none, 1 errors, 2 warnings, 3
information, 4 debugging, 5 all. -/
structure ConsoleRule where
  /-- The targets that start with this text. -/
  target : String
  verbosity : Nat
  deriving DecidableEq, Inhabited

namespace ConsoleRule

def verbosityOf? (text : String) : Option Nat :=
  match String.ofList (Text.lowerAscii text.toList) with
  | "off" | "0" => some 0
  | "error" | "1" => some 1
  | "warn" | "2" => some 2
  | "info" | "3" => some 3
  | "debug" | "4" => some 4
  | "trace" | "5" => some 5
  | _ => none

/-- A verbosity, a target, or both with `=` between them; a target alone shows
all. -/
def ofText? (text : String) : Option ConsoleRule :=
  match Text.splitAtFirst? '=' text.toList with
  | some (target, []) => some ⟨String.ofList target, 5⟩
  | some (target, verbosity) =>
      (verbosityOf? (String.ofList verbosity)).map fun verbosity =>
        ⟨String.ofList target, verbosity⟩
  | none =>
      match verbosityOf? text with
      | some verbosity => some ⟨"", verbosity⟩
      | none => some ⟨text, 5⟩

example : ofText? "a=warn" = some ⟨"a", 2⟩ ∧ ofText? "INFO" = some ⟨"", 3⟩ ∧
    ofText? "a=" = some ⟨"a", 5⟩ ∧ ofText? "a=b" = none := by decide +kernel

end ConsoleRule

/-- Of the rules for a target the most special one decides, and of several equally
special ones the last. -/
structure ConsoleFilter where
  rules : List ConsoleRule
  deriving DecidableEq, Inhabited

namespace ConsoleFilter

def standard : ConsoleFilter :=
  ⟨[⟨"vertex_claude_proxy", 3⟩, ⟨"tower_http", 3⟩]⟩

/-- The filter of a list of rules, separated by commas. A list that cannot be read is
as good as none; an empty one shows errors. -/
def ofText (text : Option String) : ConsoleFilter :=
  match text with
  | none => standard
  | some text =>
      let parts := ((Text.split ',' text.toList).map String.ofList).filter (· != "")
      match parts.mapM ConsoleRule.ofText? with
      | none => standard
      | some [] => ⟨[⟨"", 1⟩]⟩
      | some rules => ⟨rules⟩

def rank : LogLevel → Nat
  | .error => 1
  | .warn => 2
  | .info => 3
  | .debug => 4

def preferred (best : Option ConsoleRule) (rule : ConsoleRule) : Option ConsoleRule :=
  match best with
  | none => some rule
  | some present =>
      if present.target.length ≤ rule.target.length then some rule else some present

def shows (filter : ConsoleFilter) (event : ConsoleEvent) : Bool :=
  let fitting := filter.rules.filter fun rule => Text.startsWith event.target rule.target
  match fitting.foldl preferred none with
  | some rule => rank event.level ≤ rule.verbosity
  | none => false

def keep (filter : ConsoleFilter) (lines : List ConsoleLine) : List ConsoleLine :=
  lines.filter fun
    | .plain _ => true
    | .event shown => filter.shows shown

end ConsoleFilter

end ChatGateway

import ChatGateway.Tool

namespace ChatGateway

/-! Beta features. A tool list implies beta tokens; those that the provider
accepts are selected, the others are dropped. -/

namespace Beta

def toolSearch : String := "tool-search-tool-2025-10-19"

def webSearch : String := "web-search-2025-03-05"

def oldestComputerUse : String := "computer-use-2024-10-22"

def supported : List String :=
  [toolSearch, webSearch, oldestComputerUse, "computer-use-2025-01-24"]

/-- The token of a version of the computer-use tool; an unknown version has the
oldest one. -/
def ofComputerVersion (version : String) : String :=
  if version = "computer_20241022" then "computer-use-2024-10-22"
  else if version = "computer_20250124" then "computer-use-2025-01-24"
  else if version = "computer_20251124" then "computer-use-2025-11-24"
  else oldestComputerUse

/-- The tokens that a tool list implies. -/
def wanted (tools : List ToolDefinition) : List String :=
  (if usesToolSearch tools then [toolSearch] else []) ++
    (match computerVersion? tools with
      | some version => [ofComputerVersion version]
      | none => []) ++
    (if usesWebSearch tools then [webSearch] else [])

def ascending (tokens : List String) : List String :=
  (Object.ofList (tokens.map fun token => (token, .null))).keys

end Beta

structure BetaSelection where
  /-- In ascending order, without repetition. -/
  selected : List String
  dropped : List String
  deriving DecidableEq, Inhabited

namespace BetaSelection

def ofTools (tools : List ToolDefinition) : BetaSelection :=
  let wanted := Beta.wanted tools
  { selected := Beta.ascending (wanted.filter Beta.supported.contains)
    dropped := wanted.filter fun token => !Beta.supported.contains token }

def field? (selection : BetaSelection) : Option (List String) :=
  if selection.selected.isEmpty then none else some selection.selected

end BetaSelection

end ChatGateway

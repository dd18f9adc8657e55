import ChatGateway.Decoding

namespace ChatGateway

/-! Tools that a request declares: function tools in either dialect, and tools
that the provider defines, which are known by their `type` alone and are passed
on as they came. -/

inductive ToolKind where
  | function
  | toolSearch
  /-- The version is the declared type. -/
  | computerUse (version : String)
  | webSearch
  | other (type : String)
  deriving DecidableEq, Inhabited

def ToolKind.ofType (type : String) : ToolKind :=
  if Text.startsWith type "tool_search_tool" then .toolSearch
  else if Text.startsWith type "computer_" then .computerUse type
  else if Text.startsWith type "web_search" then .webSearch
  else .other type

structure ToolDefinition where
  kind : ToolKind
  name : String
  description : Option String
  inputSchema : Json
  /-- The further keys of a function tool; the whole definition of any other. -/
  extra : Object
  deriving DecidableEq

namespace ToolDefinition

def defaultInputSchema : Json :=
  .object [("properties", .object []), ("type", .string "object")]

def textAt? (object : Object) (key : String) : Option String :=
  (object.get? key).bind Json.asString?

def provided (body : Object) : ToolDefinition where
  kind := .ofType ((textAt? body "type").getD "")
  name := (textAt? body "name").getD ""
  description := none
  inputSchema := .null
  extra := body

def ofNested (body function : Object) : ToolDefinition where
  kind := .function
  name := (textAt? function "name").getD ""
  description := textAt? function "description"
  inputSchema := (function.get? "parameters").getD defaultInputSchema
  extra := body.eraseAll ["function", "type"]

def ofFlat (body : Object) : ToolDefinition where
  kind := .function
  name := (textAt? body "name").getD ""
  description := textAt? body "description"
  inputSchema := (body.get? "input_schema").getD defaultInputSchema
  extra := body.eraseAll ["type", "name", "description", "input_schema"]

def ofObject (body : Object) : ToolDefinition :=
  match textAt? body "type" with
  | none | some "custom" => ofFlat body
  | some "function" =>
      match body.get? "function" with
      | some (.object function) => ofNested body (.ofList function)
      | _ => provided body
  | some _ => provided body

def decode : Decoder ToolDefinition := fun document =>
  match Decoder.json document with
  | .ok (.object members) => .ok (ofObject (.ofList members))
  | .ok value => .error (.notTool value)
  | .error fault => .error fault

def toObject (tool : ToolDefinition) : Object :=
  match tool.kind with
  | .function =>
      .ofList (tool.extra.members ++ member "name" (.string tool.name) ++
        member? "description" (tool.description.map .string) ++
        member "input_schema" tool.inputSchema)
  | _ => tool.extra

def toJson (tool : ToolDefinition) : Json :=
  tool.toObject.toJson

def listToJson (tools : List ToolDefinition) : Json :=
  .array (tools.map toJson)

def isOfType (tool : ToolDefinition) (head : String) : Bool :=
  match textAt? tool.extra "type" with
  | some type => Text.startsWith type head
  | none => false

end ToolDefinition

/-! What a tool list uses. -/

def usesToolSearch (tools : List ToolDefinition) : Bool :=
  tools.any (·.kind == .toolSearch)

def usesWebSearch (tools : List ToolDefinition) : Bool :=
  tools.any (·.kind == .webSearch)

def ToolDefinition.computerVersion? (tool : ToolDefinition) : Option String :=
  match tool.kind with
  | .computerUse version => some version
  | _ => none

/-- The version of the first computer-use tool. -/
def computerVersion? (tools : List ToolDefinition) : Option String :=
  tools.findSome? (·.computerVersion?)

/-- The tool with which the model runs code on files of its container. -/
def codeExecutionTool : ToolDefinition :=
  .provided (.ofList (member "type" (.string "code_execution_20250522") ++
    member "name" (.string "code_execution")))

end ChatGateway

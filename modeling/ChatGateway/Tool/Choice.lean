import ChatGateway.Decoding

namespace ChatGateway

/-! How the model is to choose among the tools. Strings and objects of both
dialects are understood; a shape that is not stays as it came, as a malformed
directive. -/

inductive ToolChoice where
  | auto (extra : Object)
  | any (extra : Object)
  | none (extra : Object)
  /-- One tool, by a name that is not empty. -/
  | tool (name : Option String) (extra : Object)
  | malformed (value : Json)
  deriving DecidableEq, Inhabited

namespace ToolChoice

def extraOf : Json → Object
  | .object members =>
      (Object.ofList members).eraseAll ["type", "name", "tool", "function"]
  | _ => .empty

def nestedName? (value : Json) (key : String) : Option String :=
  (value.get? key).bind (·.textAt? "name")

def nonEmpty (name : Option String) : Option String :=
  name.filter fun name => name != ""

def ofJson (value : Json) : ToolChoice :=
  let kind := match value with
    | .string text => some text
    | value => value.textAt? "type"
  let extra := extraOf value
  match kind with
  | some "auto" => .auto extra
  | some "any" | some "required" => .any extra
  | some "none" => .none extra
  | some "tool" =>
      if value.isObject then
        .tool (nonEmpty ((nestedName? value "tool").or (value.textAt? "name"))) extra
      else .malformed value
  | some "function" =>
      if value.isObject then .tool (nonEmpty (nestedName? value "function")) extra
      else .malformed value
  | _ => .malformed value

def decode : Decoder ToolChoice := fun document =>
  (Decoder.json document).map ofJson

def plainAuto : ToolChoice := .auto .empty

def isValid : ToolChoice → Bool
  | .auto _ | .any _ | .none _ => true
  | .tool name _ => name.any (· != "")
  | .malformed _ => false

def parallelKey : String := "disable_parallel_tool_use"

/-- Allows or forbids several calls at once, where the directive can say so. -/
def withParallelCalls (choice : ToolChoice) (allowed : Bool) : ToolChoice :=
  let set (extra : Object) := extra.insert parallelKey (.bool !allowed)
  match choice with
  | .auto extra => .auto (set extra)
  | .any extra => .any (set extra)
  | .tool name extra => .tool name (set extra)
  | .none extra => .none extra
  | .malformed value => .malformed value

def directive (type : String) (name : Option String) (extra : Object) : Json :=
  .ofMembers (member "type" (.string type) ++ member? "name" (name.map .string) ++
    extra.members)

def toJson : ToolChoice → Json
  | .auto extra => directive "auto" Option.none extra
  | .any extra => directive "any" Option.none extra
  | .none extra => directive "none" Option.none extra
  | .tool name extra => directive "tool" name extra
  | .malformed value => value

/-- Drops a choice that the provider would refuse; nothing takes its place. The
second part is what was dropped. -/
def repair (choice : Option ToolChoice) : Option ToolChoice × Option ToolChoice :=
  match choice with
  | some choice => if choice.isValid then (some choice, Option.none) else (Option.none, some choice)
  | Option.none => (Option.none, Option.none)

end ToolChoice

end ChatGateway

import ChatGateway.Decoding

namespace ChatGateway

/-! Content blocks. A block is decoded by its `type`; what is not understood, and
what does not decode, is kept as it came and written back unchanged. Further
keys of a decoded block stay in `extra`. -/

inductive ContentBlock where
  | text (text : String) (extra : Object)
  | imageUrl (url : String) (detail : Option String) (extra : Object)
  | toolUse (id name : String) (input : Json) (extra : Object)
  | toolResult (toolUseId : String) (content : Option Json) (isError : Option Bool)
      (extra : Object)
  | thinking (thinking : String) (signature : Option String) (extra : Object)
  | redactedThinking (data : String) (extra : Object)
  | other (value : Json)
  deriving DecidableEq, Inhabited

namespace ContentBlock

def plainText (text : String) : ContentBlock :=
  .text text .empty

/-! The bodies of the known types, without their `type` key. -/

def textBody : Record (Object → ContentBlock) :=
  text <$> .required "text" .string

def imageAddress : Record (String × Option String) :=
  Prod.mk <$> .required "url" .string <*> .optional "detail" .string

def imageUrlBody : Record (Object → ContentBlock) :=
  (fun address : String × Option String => imageUrl address.1 address.2) <$>
    .required "image_url" (imageAddress.decode "struct ImageUrl")

def toolUseBody : Record (Object → ContentBlock) :=
  toolUse <$> .defaulted "id" .string "" <*> .required "name" .string <*>
    .defaulted "input" .json (.object [])

def toolResultBody : Record (Object → ContentBlock) :=
  toolResult <$> .defaulted "tool_use_id" .string "" <*> .omissible "content" .json <*>
    .omissible "is_error" .bool

def thinkingBody : Record (Object → ContentBlock) :=
  thinking <$> .defaulted "thinking" .string "" <*> .omissible "signature" .string

def redactedThinkingBody : Record (Object → ContentBlock) :=
  redactedThinking <$> .defaulted "data" .string ""

def body? : String → Option (Record (Object → ContentBlock))
  | "text" => some textBody
  | "image_url" => some imageUrlBody
  | "tool_use" => some toolUseBody
  | "tool_result" => some toolResultBody
  | "thinking" => some thinkingBody
  | "redacted_thinking" => some redactedThinkingBody
  | _ => none

/-- Every value is a block. -/
def ofJson (value : Json) : ContentBlock :=
  let decoded : Option ContentBlock := match value with
    | .object members => do
        let body ← body? (← value.textAt? "type")
        let rest := members.filter fun (key, _) => key != "type"
        (body.decodeOpen "" (.ofJson (.object rest))).toOption
    | _ => none
  decoded.getD (.other value)

def decode : Decoder ContentBlock := fun document =>
  (Decoder.json document).map ofJson

/-- The `type` of a block, also of one that was kept as it came. -/
def typeName : ContentBlock → Option String
  | .text .. => some "text"
  | .imageUrl .. => some "image_url"
  | .toolUse .. => some "tool_use"
  | .toolResult .. => some "tool_result"
  | .thinking .. => some "thinking"
  | .redactedThinking .. => some "redacted_thinking"
  | .other value => value.textAt? "type"

/-- Tagged as reasoning, decoded or not. -/
def isReasoning (block : ContentBlock) : Bool :=
  block.typeName == some "thinking" || block.typeName == some "redacted_thinking"

section

variable (object : ObjectMaker)

def tagged (type : String) (fields : List (String × Json)) (extra : Object) : Json :=
  object (member "type" (.string type) ++ fields ++ extra.members)

def write : ContentBlock → Json
  | .text content extra => tagged object "text" (member "text" (.string content)) extra
  | .imageUrl url detail extra =>
      let address := member "url" (.string url) ++ member? "detail" (detail.map .string)
      tagged object "image_url" (member "image_url" (object address)) extra
  | .toolUse id name input extra =>
      tagged object "tool_use"
        (member "id" (.string id) ++ member "name" (.string name) ++ member "input" input) extra
  | .toolResult toolUseId content isError extra =>
      tagged object "tool_result"
        (member "tool_use_id" (.string toolUseId) ++ member? "content" content ++
          member? "is_error" (isError.map .bool)) extra
  | .thinking thought signature extra =>
      tagged object "thinking"
        (member "thinking" (.string thought) ++
          member? "signature" (signature.map .string)) extra
  | .redactedThinking data extra =>
      tagged object "redacted_thinking" (member "data" (.string data)) extra
  | .other value => value

def writeList (blocks : List ContentBlock) : Json :=
  .array (blocks.map (write object))

end

def toJson : ContentBlock → Json := write .ofMembers

def listToJson : List ContentBlock → Json := writeList .ofMembers

end ContentBlock

end ChatGateway

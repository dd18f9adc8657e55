import ChatGateway.Decoding

namespace ChatGateway

/-! The system prompt: a text, or text blocks that may each mark a place in the
provider's cache. -/

structure SystemBlock where
  text : String
  cacheControl : Option Json
  deriving DecidableEq, Inhabited

namespace SystemBlock

/-- The only type of a system block, by its name or by its number. -/
def tag : Decoder Unit
  | .string "text" | .number (.integer 0) => .ok ()
  | .string name => .error (.unknownVariant name "`text`")
  | document => Decoder.fails document "variant identifier"

def body : Record SystemBlock :=
  SystemBlock.mk <$> .required "text" .string <*> .optional "cache_control" .json

def decode : Decoder SystemBlock :=
  .tagged "internally tagged enum SystemBlock" tag fun _ =>
    body.decodeBody "struct variant SystemBlock::Text"

def write (object : ObjectMaker) (block : SystemBlock) : Json :=
  object (member "type" (.string "text") ++ member "text" (.string block.text) ++
    member? "cache_control" block.cacheControl)

def toJson : SystemBlock → Json := write .ofMembers

end SystemBlock

inductive SystemContent where
  | text (text : String)
  | blocks (blocks : List SystemBlock)
  deriving DecidableEq, Inhabited

namespace SystemContent

def decode : Decoder SystemContent :=
  .union "SystemContent"
    [fun document => (Decoder.string document).map .text,
      fun document => (Decoder.list SystemBlock.decode document).map .blocks]

def toJson : SystemContent → Json
  | .text content => .string content
  | .blocks content => .array (content.map SystemBlock.toJson)

end SystemContent

end ChatGateway

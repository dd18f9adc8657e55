import ChatGateway.Json

namespace ChatGateway

/-! A document is a text as it was read: members stand in written order, a key
may stand twice, and a text that breaks off keeps what came before the break.
Typed decoding works on documents, since the fault it reports is the one that
stands first in the text; a JSON value is the document that writes it. -/

inductive Document where
  | null
  | bool (value : Bool)
  | number (value : Number)
  | string (text : String)
  | array (items : List Document)
  | object (members : List (String × Document))
  /-- Grammatical but without a value: a number beyond the doubles, half of a
  surrogate pair, or a bracket nested too deep. It may only be skipped. -/
  | unfit
  /-- Where the text stops being JSON; nothing was read beyond. -/
  | broken
  deriving Inhabited

namespace Document

mutual
def ofJson : Json → Document
  | .null => .null
  | .bool value => .bool value
  | .number value => .number value
  | .string text => .string text
  | .array items => .array (ofItems items)
  | .object members => .object (ofMembers members)

def ofItems : List Json → List Document
  | [] => []
  | item :: rest => ofJson item :: ofItems rest

def ofMembers : List (String × Json) → List (String × Document)
  | [] => []
  | (key, value) :: rest => (key, ofJson value) :: ofMembers rest
end

mutual
/-- The value of a document, its members put in order and the last of each key
kept. -/
def value? : Document → Option Json
  | .null => some .null
  | .bool value => some (.bool value)
  | .number value => some (.number value)
  | .string text => some (.string text)
  | .array items => (values? items).map .array
  | .object members =>
      (memberValues? members).map fun members => (Object.ofList members).toJson
  | .unfit | .broken => none

def values? : List Document → Option (List Json)
  | [] => some []
  | item :: rest =>
      match item.value?, values? rest with
      | some item, some rest => some (item :: rest)
      | _, _ => none

def memberValues? : List (String × Document) → Option (List (String × Json))
  | [] => some []
  | (key, value) :: rest =>
      match value.value?, memberValues? rest with
      | some value, some rest => some ((key, value) :: rest)
      | _, _ => none
end

mutual
def isWhole : Document → Bool
  | .array items => areWhole items
  | .object members => membersWhole members
  | .broken => false
  | _ => true

def areWhole : List Document → Bool
  | [] => true
  | item :: rest => item.isWhole && areWhole rest

def membersWhole : List (String × Document) → Bool
  | [] => true
  | (_, value) :: rest => value.isWhole && membersWhole rest
end

end Document

end ChatGateway

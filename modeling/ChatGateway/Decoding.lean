import ChatGateway.Json.Printer
import ChatGateway.Json.Reader
import ChatGateway.Text
import ChatGateway.Text.Quoted

namespace ChatGateway

/-! Typed decoding of documents. A fault is a cause; its wording is in
`DecodeFault.message`. Of several faults in one document the one that stands
first in the text is reported, and an absent field only after all that is
present was found in order. -/

inductive Found where
  | bool (value : Bool)
  | number (value : Number)
  | text (value : String)
  | null
  | map
  | sequence
  deriving DecidableEq

def Found.describe : Found → String
  | .bool true => "boolean `true`"
  | .bool false => "boolean `false`"
  | .number (.integer value) => "integer `" ++ String.ofList (integerChars value) ++ "`"
  | .number (.float value) => "floating point `" ++ String.ofList (floatChars value) ++ "`"
  | .text value => "string " ++ Text.quoted value
  | .null => "null"
  | .map => "map"
  | .sequence => "sequence"

inductive DecodeFault where
  /-- The text is not JSON. -/
  | notJson
  | missing (name : String)
  | duplicate (name : String)
  | unexpected (found : Found) (expected : String)
  | outOfRange (value : Int) (expected : String)
  | unknownVariant (name known : String)
  /-- Neither a name nor an object that holds one. -/
  | notVariant (found : Found)
  /-- An object that should hold one name and holds none or several. -/
  | notSingle
  /-- No form of a union fits. -/
  | unmatched (union : String)
  | tooShort (length : Nat) (expected : String)
  | tooLong (length : Nat)
  | overlong (length taken : Nat)
  | notTool (value : Json)
  | custom (message : String)
  deriving DecidableEq

namespace DecodeFault

def elements (count : Nat) : String :=
  if count = 1 then "1 element" else Text.ofNat count ++ " elements"

def message : DecodeFault → String
  | notJson => "not JSON"
  | missing name => "missing field `" ++ name ++ "`"
  | duplicate name => "duplicate field `" ++ name ++ "`"
  | unexpected found expected =>
      "invalid type: " ++ found.describe ++ ", expected " ++ expected
  | outOfRange value expected =>
      "invalid value: integer `" ++ String.ofList (integerChars value) ++ "`, expected " ++ expected
  | unknownVariant name known => "unknown variant `" ++ name ++ "`, expected " ++ known
  | notVariant found => "invalid type: " ++ found.describe ++ ", expected string or map"
  | notSingle => "invalid value: map, expected map with a single key"
  | unmatched union => "data did not match any variant of untagged enum " ++ union
  | tooShort length expected =>
      "invalid length " ++ Text.ofNat length ++ ", expected " ++ expected
  | tooLong length =>
      "invalid length " ++ Text.ofNat length ++ ", expected fewer elements in array"
  | overlong length taken =>
      "invalid length " ++ Text.ofNat length ++ ", expected " ++ elements taken ++ " in sequence"
  | notTool value => "tool definition must be an object, got " ++ value.render
  | custom message => message

/-- The fault as it shows in a text that is decoded while it is read: there the
shape of brackets and names is a matter of the grammar. -/
def inText : DecodeFault → DecodeFault
  | tooLong _ | notVariant _ | notSingle => notJson
  | fault => fault

end DecodeFault

abbrev Decoder (α : Type) := Document → Except DecodeFault α

namespace Document

def mismatch (expected : Found → DecodeFault) : Document → DecodeFault
  | .null => expected .null
  | .bool value => expected (.bool value)
  | .number value => expected (.number value)
  | .string text => expected (.text text)
  | .array _ => expected .sequence
  | .object _ => expected .map
  | .unfit | .broken => .notJson

end Document

namespace Decoder

def fails {α : Type} (document : Document) (expected : String) : Except DecodeFault α :=
  .error (document.mismatch (.unexpected · expected))

def json : Decoder Json := fun document =>
  match document.value? with
  | some value => .ok value
  | none => .error .notJson

def string : Decoder String
  | .string text => .ok text
  | document => fails document "a string"

def bool : Decoder Bool
  | .bool value => .ok value
  | document => fails document "a boolean"

/-- An integer between `low` and `high`, the latter excluded. -/
def integer (low high : Int) (expected : String) : Decoder Int
  | .number (.integer value) =>
      if low ≤ value ∧ value < high then .ok value
      else .error (.outOfRange value expected)
  | document => fails document expected

def uint64 : Decoder UInt64 := fun document =>
  (integer 0 (Nat.pow 2 64) "u64" document).map fun value => UInt64.ofNat value.toNat

def uint16 : Decoder UInt16 := fun document =>
  (integer 0 (Nat.pow 2 16) "u16" document).map fun value => UInt16.ofNat value.toNat

def int64 : Decoder Int :=
  integer (-Nat.pow 2 63) (Nat.pow 2 63) "i64"

/-- A double; an integer is taken for the double nearest to it. -/
def float : Decoder Float
  | .number (.float value) => .ok value
  | .number (.integer value) =>
      let size := (UInt64.ofNat value.natAbs).toFloat
      .ok (if value < 0 then -size else size)
  | document => fails document "f64"

def list {α : Type} (decode : Decoder α) : Decoder (List α)
  | .array items => items.mapM decode
  | document => fails document "a sequence"

/-- Null stands for absence. -/
def nullable {α : Type} (decode : Decoder α) : Decoder (Option α)
  | .null => .ok none
  | document => (decode document).map some

/-- The first of several forms that fits. The faults of the forms are not told. -/
def union {α : Type} (name : String) (forms : List (Decoder α)) : Decoder α := fun document =>
  if document.value?.isNone then .error .notJson
  else
    match forms.findSome? fun form => (form document).toOption with
    | some value => .ok value
    | none => .error (.unmatched name)

/-- The name of a variant, alone or as the only key of an object over null. -/
def variant {α : Type} (known : String) (named : String → Option α) : Decoder α
  | .string name =>
      match named name with
      | some value => .ok value
      | none => .error (.unknownVariant name known)
  | .object [(name, held)] =>
      match named name, held with
      | none, .broken => .error .notJson
      | none, _ => .error (.unknownVariant name known)
      | some value, .null => .ok value
      | some _, held => fails held "unit"
  | .object _ => .error .notSingle
  | document => .error (document.mismatch .notVariant)

def ofJson {α : Type} (decode : Decoder α) (value : Json) : Except DecodeFault α :=
  decode (.ofJson value)

def ofText {α : Type} (decode : Decoder α) (text : List Char) : Except DecodeFault α :=
  let (document, ended) := Document.read text
  match decode document with
  | .error fault => .error fault.inText
  | .ok value => if ended then .ok value else .error .notJson

end Decoder

/-! Records. A record is written as an object, or as an array of its fields in
declaration order. `Record` describes the fields; `decode` reads both forms and
skips members that are not declared, `decodeOpen` reads the object form and
keeps them. -/

structure Record (α : Type) where
  size : Nat
  keys : List String
  /-- The record of an object's members, or the fault and where it stands. -/
  ofMembers : List (String × Document) → Except (Nat × DecodeFault) α
  /-- The record of an array's items from a position on, and the items left. -/
  ofItems : (expected : String) → (position : Nat) → List Document →
    Except DecodeFault (α × List Document)

namespace Record

/-- Both results, or the fault that stands first. -/
def earliest {α β : Type} :
    Except (Nat × DecodeFault) α → Except (Nat × DecodeFault) β →
      Except (Nat × DecodeFault) (α × β)
  | .ok first, .ok second => .ok (first, second)
  | .error fault, .ok _ => .error fault
  | .ok _, .error fault => .error fault
  | .error first, .error second => .error (if first.1 ≤ second.1 then first else second)

def constant {α : Type} (value : α) : Record α where
  size := 0
  keys := []
  ofMembers _ := .ok value
  ofItems _ _ items := .ok (value, items)

def apply {α β : Type} (function : Record (α → β)) (argument : Record α) : Record β where
  size := function.size + argument.size
  keys := function.keys ++ argument.keys
  ofMembers members :=
    (earliest (function.ofMembers members) (argument.ofMembers members)).map
      fun (function, argument) => function argument
  ofItems expected position items :=
    match function.ofItems expected position items with
    | .error fault => .error fault
    | .ok (build, items) =>
        (argument.ofItems expected (position + function.size) items).map
          fun (value, items) => (build value, items)

instance : Applicative Record where
  pure := constant
  seq function argument := apply function (argument ())

def occurrences (keys : List String) :
    (position : Nat) → List (String × Document) → List (Nat × Document)
  | _, [] => []
  | position, (key, value) :: rest =>
      if keys.contains key then (position, value) :: occurrences keys (position + 1) rest
      else occurrences keys (position + 1) rest

/-- One field, with what an object without it and a shorter array give. -/
def field {α : Type} (name : String) (aliases : List String) (decode : Decoder α)
    (absent : Except DecodeFault α) (omitted : Option α) : Record α where
  size := 1
  keys := name :: aliases
  ofMembers members :=
    match occurrences (name :: aliases) 0 members with
    | [] => absent.mapError fun fault => (members.length, fault)
    | [(position, value)] => (decode value).mapError fun fault => (position, fault)
    | (position, value) :: (next, _) :: _ =>
        match decode value with
        | .error fault => .error (position, fault)
        | .ok _ => .error (next, .duplicate name)
  ofItems expected position items :=
    match items, omitted with
    | item :: rest, _ => (decode item).map fun value => (value, rest)
    | [], some value => .ok (value, [])
    | [], none => .error (.tooShort position expected)

def required {α : Type} (name : String) (decode : Decoder α) : Record α :=
  field name [] decode (.error (.missing name)) none

/-- A field that an object may leave out, but an array may not. -/
def optional {α : Type} (name : String) (decode : Decoder α) : Record (Option α) :=
  field name [] (.nullable decode) (.ok none) none

def defaulted {α : Type} (name : String) (decode : Decoder α) (default : α) : Record α :=
  field name [] decode (.ok default) (some default)

/-- A field that may be left out everywhere, and may be null. -/
def omissible {α : Type} (name : String) (decode : Decoder α) : Record (Option α) :=
  defaulted name (.nullable decode) none

def undeclared (keys : List String) :
    (position : Nat) → List (String × Document) → List (Nat × String × Document)
  | _, [] => []
  | position, (key, value) :: rest =>
      if keys.contains key then undeclared keys (position + 1) rest
      else (position, key, value) :: undeclared keys (position + 1) rest

/-- Undeclared members are skipped, but their text must not break off. -/
def skipOthers (keys : List String) (members : List (String × Document)) :
    Except (Nat × DecodeFault) Unit :=
  match (undeclared keys 0 members).find? fun (_, _, value) => !value.isWhole with
  | some (position, _) => .error (position, .notJson)
  | none => .ok ()

def keepOthers (keys : List String) (members : List (String × Document)) :
    Except (Nat × DecodeFault) Object :=
  ((undeclared keys 0 members).mapM keep).map Object.ofList
where
  keep : Nat × String × Document → Except (Nat × DecodeFault) (String × Json)
    | (position, key, document) =>
        match document.value? with
        | some value => .ok (key, value)
        | none => .error (position, .notJson)

def decodeMembers {α : Type} (record : Record α) (members : List (String × Document)) :
    Except DecodeFault α :=
  match earliest (record.ofMembers members) (skipOthers record.keys members) with
  | .ok (value, ()) => .ok value
  | .error (_, fault) => .error fault

def decodeItems {α : Type} (record : Record α) (expected : String)
    (excess : Nat → DecodeFault) (items : List Document) : Except DecodeFault α :=
  let expected := expected ++ " with " ++ DecodeFault.elements record.size
  match record.ofItems expected 0 items with
  | .error fault => .error fault
  | .ok (value, []) => .ok value
  | .ok (_, _ :: _) => .error (excess items.length)

def decode {α : Type} (record : Record α) (expected : String) : Decoder α
  | .object members => record.decodeMembers members
  | .array items => record.decodeItems expected .tooLong items
  | document => Decoder.fails document expected

def decodeOpen {α : Type} (record : Record (Object → α)) (expected : String) : Decoder α
  | .object members =>
      match earliest (record.ofMembers members) (keepOthers record.keys members) with
      | .ok (build, others) => .ok (build others)
      | .error (_, fault) => .error fault
  | document => Decoder.fails document expected

/-- Reads a record that was set aside first, as the body of a tagged form is. -/
def decodeBody {α : Type} (record : Record α) (expected : String) : Decoder α
  | .object members => record.decodeMembers members
  | .array items => record.decodeItems expected (.overlong · record.size) items
  | document => Decoder.fails document expected

end Record

/-! Tagged forms: an object whose member `type` selects how the others are read,
or an array with the tag in front. -/

def Decoder.tagged {α β : Type} (expected : String) (tag : Decoder α) (body : α → Decoder β) :
    Decoder β
  | .object members =>
      let others := members.filter fun (key, _) => key != "type"
      let read := Record.earliest ((Record.required "type" tag).ofMembers members)
        (Record.keepOthers ["type"] members)
      match read with
      | .error (_, fault) => .error fault
      | .ok (selected, _) => body selected (.object others)
  | .array [] => .error (.missing "type")
  | .array (first :: rest) =>
      match tag first with
      | .error fault => .error fault
      | .ok selected =>
          if (Document.array rest).value?.isNone then .error .notJson
          else body selected (.array rest)
  | document => Decoder.fails document expected

/-! Writing. A field that is absent is left out. -/

def member (key : String) (value : Json) : List (String × Json) := [(key, value)]

def member? (key : String) : Option Json → List (String × Json)
  | some value => [(key, value)]
  | none => []

def Json.ofStrings (texts : List String) : Json :=
  .array (texts.map .string)

def Json.ofUInt64 (value : UInt64) : Json :=
  .ofNat value.toNat

def Json.ofFloat (value : Float) : Json :=
  .number (.float value)

def Json.ofOption : Option Json → Json
  | some value => value
  | none => .null

def Json.ofMembers (members : List (String × Json)) : Json :=
  (Object.ofList members).toJson

/-! A record becomes a value, which puts its members in order, or the text of a body, which
keeps them as they come. So its writer is told how an object is made of members:
`Json.ofMembers` makes the value, and `Json.object` the layout of the text. -/

abbrev ObjectMaker := List (String × Json) → Json

end ChatGateway

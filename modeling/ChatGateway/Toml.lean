import ChatGateway.Json

namespace ChatGateway

/-! Values of a TOML document, and how its headers and keys build tables. A table
remembers how it came to be, since that decides who may still add to it. -/

inductive TomlForm where
  /-- By a header of its own, or as the document itself. -/
  | header
  /-- As a step on the way to another header. -/
  | implied
  /-- By a dotted key. -/
  | dotted
  /-- By braces. Nothing can be added later. -/
  | braces
  deriving DecidableEq, Inhabited

inductive Toml where
  | string (text : String)
  | integer (value : Int)
  | float (value : Float)
  | bool (value : Bool)
  | date (text : String)
  | array (items : List Toml)
  | table (form : TomlForm) (members : List (String × Toml))
  /-- The tables of an array that is built by headers, the latest first. -/
  | tables (latest : List (String × Toml)) (earlier : List (List (String × Toml)))
  deriving Inhabited

namespace Toml

abbrev Members := List (String × Toml)

def setMember (key : String) (value : Toml) : Members → Members
  | [] => [(key, value)]
  | (other, present) :: rest =>
      if other = key then (key, value) :: rest
      else (other, present) :: setMember key value rest

/-- Follows a path of keys and changes the table at its end. Steps that are
missing become tables; `dotted` tells whether a dotted key or a header asks. A
dotted key may not step into a table that has a header of its own, and nothing
steps into a value or into braces. -/
def changeAt (dotted : Bool) (change : TomlForm → Members → Option Members) :
    (path : List String) → TomlForm → Members → Option Members
  | [], form, members => change form members
  | key :: path, _, members =>
      match members.lookup key with
      | none =>
          let form := if dotted then .dotted else .implied
          (changeAt dotted change path form []).map fun inner =>
            setMember key (.table form inner) members
      | some (.table form inner) =>
          if form = .braces ∨ (dotted ∧ form = .header) then none
          else
            (changeAt dotted change path form inner).map fun inner =>
              setMember key (.table form inner) members
      | some (.tables latest earlier) =>
          (changeAt dotted change path .header latest).map fun latest =>
            setMember key (.tables latest earlier) members
      | some _ => none

def define (path : List String) (key : String) (value : Toml) (form : TomlForm)
    (members : Members) : Option Members :=
  changeAt true (defineHere key value path.isEmpty) path form members
where
  /-- A table made by a dotted key is only reached by one. -/
  defineHere (key : String) (value : Toml) (direct : Bool) (form : TomlForm)
      (members : Members) : Option Members :=
    if (form == .dotted) == direct ∨ (members.lookup key).isSome then none
    else some (setMember key value members)

/-- Opens the table of a header: a new one, or one that was only implied. -/
def openTable (path : List String) (key : String) (root : Members) : Option Members :=
  changeAt false (openHere key) path .header root
where
  openHere (key : String) (_ : TomlForm) (members : Members) : Option Members :=
    match members.lookup key with
    | none => some (setMember key (.table .header []) members)
    | some (.table .implied inner) => some (setMember key (.table .header inner) members)
    | some _ => none

def openArrayTable (path : List String) (key : String) (root : Members) : Option Members :=
  changeAt false (openHere key) path .header root
where
  openHere (key : String) (_ : TomlForm) (members : Members) : Option Members :=
    match members.lookup key with
    | none => some (setMember key (.tables [] []) members)
    | some (.tables latest earlier) =>
        some (setMember key (.tables [] (latest :: earlier)) members)
    | some _ => none

/-! As JSON. A date is an object with one key of its own. -/

def dateKey : String := "$__toml_private_datetime"

mutual
def toJson : Toml → Json
  | .string text => .string text
  | .integer value => .number (.integer value)
  | .float value => .number (.float value)
  | .bool value => .bool value
  | .date text => .object [(dateKey, .string text)]
  | .array items => .array (itemsToJson items)
  | .table _ members => (Object.ofList (membersToJson members)).toJson
  | .tables latest earlier =>
      .array ((Object.ofList (membersToJson latest)).toJson ::
        tablesToJson earlier).reverse

def itemsToJson : List Toml → List Json
  | [] => []
  | item :: rest => item.toJson :: itemsToJson rest

def membersToJson : List (String × Toml) → List (String × Json)
  | [] => []
  | (key, value) :: rest => (key, value.toJson) :: membersToJson rest

def tablesToJson : List (List (String × Toml)) → List Json
  | [] => []
  | members :: rest => (Object.ofList (membersToJson members)).toJson :: tablesToJson rest
end

end Toml

end ChatGateway

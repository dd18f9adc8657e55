import ChatGateway.Json.Printer
import ChatGateway.Json.Reader
import ChatGateway.Text

namespace ChatGateway

/-! Addresses of the web, read the way browsers read them: the scheme and the host
are put in lower case, steps of the path that lead nowhere are resolved, and what
may not stand in a part is written as percent codes of its UTF-8 bytes. Names of
hosts are read as far as they are ASCII. -/

structure Url where
  scheme : String
  /-- The host, and behind a colon its number for connections; the name and the
  password of a user are left out. -/
  authority : Option String
  path : String
  query : Option String
  fragment : Option String
  deriving DecidableEq, Inhabited

namespace Url

def render (url : Url) : String :=
  url.scheme ++ ":" ++ ((url.authority.map ("//" ++ ·)).getD "") ++ url.path ++
    ((url.query.map ("?" ++ ·)).getD "") ++ ((url.fragment.map ("#" ++ ·)).getD "")

/-! Percent codes. -/

def isControl (char : Char) : Bool := char.toNat < 0x20 || 0x7E < char.toNat

def codedInFragment (char : Char) : Bool :=
  isControl char || " \"<>`".toList.contains char

def codedInPath (char : Char) : Bool :=
  codedInFragment char || "#?^\x7b\x7d".toList.contains char

/-- What is coded in a query; of web addresses also the apostrophe. -/
def codedInQuery (web : Bool) (char : Char) : Bool :=
  isControl char || " \"#<>".toList.contains char || (web && char == '\'')

def percentCode (byte : UInt8) : List Char :=
  ['%', (hexDigit (byte.toNat / 16)).toUpper, (hexDigit (byte.toNat % 16)).toUpper]

def encodeChar (isCoded : Char → Bool) (char : Char) : List Char :=
  if isCoded char then (String.utf8EncodeChar char).flatMap percentCode else [char]

def encode (isCoded : Char → Bool) (text : List Char) : List Char :=
  text.flatMap (encodeChar isCoded)

example : encode codedInPath "a é/".toList = "a%20%C3%A9/".toList := by decide +kernel

/-! Hosts. -/

def isForbiddenInHost (char : Char) : Bool :=
  isControl char || " #/:<>?@[\\]^|%".toList.contains char

/-- A part of a numeric host: decimal, octal after 0, or hexadecimal after 0x. -/
def hostNumber? : List Char → Option Nat
  | [] => none
  | '0' :: 'x' :: digits =>
      (digits.mapM hexValue?).map (·.foldl (fun value digit => value * 16 + digit) 0)
  | '0' :: digits =>
      if digits.all fun digit => '0' ≤ digit && digit ≤ '7' then
        some (digits.foldl (fun value digit => value * 8 + digitValue digit) 0)
      else none
  | digits => if digits.all Char.isDigit then some (digitsValue digits) else none

/-- The number of a host that consists of numbers; the last fills what is left. -/
def hostValue? : List Nat → (missing : Nat) → Option Nat
  | [last], missing => if last < Nat.pow 256 missing then some last else none
  | part :: rest, missing =>
      if part < 256 ∧ 1 < missing then
        (hostValue? rest (missing - 1)).map (part * Nat.pow 256 (missing - 1) + ·)
      else none
  | [], _ => none

def withoutEmptyEnd (parts : List (List Char)) : List (List Char) :=
  match parts.reverse with
  | [] :: next :: above => (next :: above).reverse
  | _ => parts

def host? (text : List Char) : Option (List Char) :=
  let text := Text.lowerAscii text
  let parts := withoutEmptyEnd (Text.split '.' text)
  let last := parts.getLast?.getD []
  if text.isEmpty ∨ text.any isForbiddenInHost then none
  else if (hostNumber? last).isSome ∨ (last ≠ [] ∧ last.all Char.isDigit) then do
    let value ← hostValue? (← parts.mapM hostNumber?) 4
    some (Text.join "." ([16777216, 65536, 256, 1].map fun unit =>
      Text.ofNat (value / unit % 256))).toList
  else some text

example : host? "127.1".toList = some "127.0.0.1".toList ∧
    host? "A.b".toList = some "a.b".toList := by
  decide +kernel

def bracketed? (text : List Char) : Option (List Char) :=
  let isInside (char : Char) := (hexValue? char).isSome || char == ':' || char == '.'
  if text.all isInside ∧ text ≠ [] then some ('[' :: (Text.lowerAscii text ++ [']']))
  else none

def isWeb (scheme : String) : Bool := scheme == "http" || scheme == "https"

def standardPort (scheme : String) : Nat := if scheme = "https" then 443 else 80

/-- The number for connections behind a colon; the standard one is left out. -/
def portSuffix? (scheme : String) : List Char → Option (List Char)
  | [] | [':'] => some []
  | ':' :: digits =>
      let value := digitsValue digits
      if !digits.all Char.isDigit || 65535 < value then none
      else if value = standardPort scheme then some []
      else some (':' :: (Text.ofNat value).toList)
  | _ => none

def afterUser (text : List Char) : List Char :=
  ((Text.split '@' text).getLast?).getD []

def authority? (scheme : String) (text : List Char) : Option (List Char) :=
  match afterUser text with
  | '[' :: rest => do
      let (inside, behind) ← Text.splitAtFirst? ']' rest
      return (← bracketed? inside) ++ (← portSuffix? scheme behind)
  | text => do
      let name := text.takeWhile (· != ':')
      return (← host? name) ++ (← portSuffix? scheme (text.drop name.length))

/-! Paths. -/

def isHere (step : List Char) : Bool :=
  [['.'], "%2e".toList].contains (Text.lowerAscii step)

def isUp (step : List Char) : Bool :=
  ["..", ".%2e", "%2e.", "%2e%2e"].contains (String.ofList (Text.lowerAscii step))

/-- Resolves the steps of a path; `above` are those before, the last first. -/
def resolveSteps (above : List (List Char)) : List (List Char) → List (List Char)
  | [] => above.reverse
  | step :: rest =>
      let after := if isUp step then above.drop 1 else above
      if isUp step || isHere step then
        if rest.isEmpty then ([] :: after).reverse else resolveSteps after rest
      else resolveSteps (step :: after) rest

def pathOf (text : List Char) : List Char :=
  let steps := Text.split '/' (text.drop 1)
  (resolveSteps [] steps).flatMap fun step => '/' :: encode codedInPath step

example : pathOf "/a/../b c".toList = "/b%20c".toList ∧ pathOf [] = ['/'] := by decide +kernel

/-! Whole addresses. -/

def isSchemeChar (char : Char) : Bool :=
  char.isAlphanum || char == '+' || char == '-' || char == '.'

def scheme? (text : List Char) : Option (List Char × List Char) :=
  match Text.splitAtFirst? ':' text with
  | some (head :: name, rest) =>
      if head.isAlpha && name.all isSchemeChar then
        some (Text.lowerAscii (head :: name), rest)
      else none
  | _ => none

/-- Blanks and control characters at the ends are dropped, tabs and line ends
everywhere. -/
def cleaned (text : List Char) : List Char :=
  let isOuter (char : Char) := char.toNat ≤ 0x20
  ((text.dropWhile isOuter).reverse.dropWhile isOuter).reverse.filter fun char =>
    char != '\t' && char != '\n' && char != '\r'

def cutAt (mark : Char) (text : List Char) : List Char × Option (List Char) :=
  match Text.splitAtFirst? mark text with
  | some (before, after) => (before, some after)
  | none => (text, none)

def authorityAndPath? (scheme : String) (text : List Char) :
    Option (Option (List Char) × List Char) :=
  if isWeb scheme then do
    let text := (text.map fun char => if char = '\\' then '/' else char).dropWhile (· == '/')
    let outer := text.takeWhile (· != '/')
    return (some (← authority? scheme outer), pathOf (text.drop outer.length))
  else
    match text with
    | '/' :: '/' :: rest =>
        let outer := rest.takeWhile (· != '/')
        let below := rest.drop outer.length
        some (some (encode isControl (afterUser outer)), if below.isEmpty then [] else pathOf below)
    | '/' :: _ => some (none, pathOf text)
    | _ => some (none, encode isControl text)

def read (text : String) : Option Url := do
  let (scheme, rest) ← scheme? (cleaned text.toList)
  let scheme := String.ofList scheme
  let (rest, fragment) := cutAt '#' rest
  let (rest, query) := cutAt '?' rest
  let (authority, path) ← authorityAndPath? scheme rest
  return {
    scheme
    authority := authority.map String.ofList
    path := String.ofList path
    query := query.map fun query => String.ofList (encode (codedInQuery (isWeb scheme)) query)
    fragment := fragment.map fun fragment => String.ofList (encode codedInFragment fragment) }

example : (read "HTTP://u@Host:80/a/./b?q'#f").map render = some "http://host/a/b?q%27#f" := by
  decide +kernel

end Url

end ChatGateway

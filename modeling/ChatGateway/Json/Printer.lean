import ChatGateway.Decimal
import ChatGateway.Json

namespace ChatGateway

/-! The compact text of a JSON value: no blanks, members in the order in which
the value lists them. -/

/-! A double is written positionally while its leading digit stands between
10^-5 and 10^15, always with a fraction; beyond that with a signed exponent. -/

def Decimal.chars (decimal : Decimal) : List Char :=
  let digits := Nat.toDigits 10 decimal.coefficient
  let point := (digits.length : Int) + decimal.exponent
  if 0 ≤ decimal.exponent ∧ point ≤ 16 then
    digits ++ List.replicate decimal.exponent.toNat '0' ++ ['.', '0']
  else if 0 < point ∧ point ≤ 16 then
    digits.take point.toNat ++ '.' :: digits.drop point.toNat
  else if -5 < point ∧ point ≤ 0 then
    '0' :: '.' :: (List.replicate (-point).toNat '0' ++ digits)
  else
    let mantissa := match digits with
      | [] => []
      | [lead] => [lead]
      | lead :: rest => lead :: '.' :: rest
    let exponent := point - 1
    mantissa ++ 'e' :: (if 0 ≤ exponent then '+' else '-') ::
      Nat.toDigits 10 exponent.natAbs

def floatChars (value : Float) : List Char :=
  let number := Dyadic.ofFloat value
  let sign := if number.negative then ['-'] else []
  if number.significand = 0 then sign ++ ['0', '.', '0']
  else sign ++ (Decimal.shortest number).chars

def integerChars (value : Int) : List Char :=
  if 0 ≤ value then Nat.toDigits 10 value.natAbs
  else '-' :: Nat.toDigits 10 value.natAbs

def Number.chars : Number → List Char
  | .integer value => integerChars value
  | .float value => floatChars value

example : String.ofList (floatChars 1e16) = "1e+16" := by decide +kernel
example : String.ofList (floatChars 0.00001) = "0.00001" := by decide +kernel
example : String.ofList (floatChars (-2.5e-8)) = "-2.5e-8" := by decide +kernel

/-! Only the quote, the backslash and the characters below the blank are
escaped; the latter by a short form where JSON has one. -/

def hexDigit (value : Nat) : Char :=
  (Nat.toDigits 16 (value % 16)).headD '0'

def escapedChar (char : Char) : List Char :=
  if char = '"' then ['\\', '"']
  else if char = '\\' then ['\\', '\\']
  else if char = '\n' then ['\\', 'n']
  else if char = '\r' then ['\\', 'r']
  else if char = '\t' then ['\\', 't']
  else if char.toNat = 8 then ['\\', 'b']
  else if char.toNat = 12 then ['\\', 'f']
  else if char.toNat < 32 then
    ['\\', 'u', '0', '0', hexDigit (char.toNat / 16), hexDigit char.toNat]
  else [char]

def quotedChars (text : List Char) : List Char :=
  '"' :: (text.flatMap escapedChar ++ ['"'])

namespace Json

mutual
def chars : Json → List Char
  | .null => ['n', 'u', 'l', 'l']
  | .bool true => ['t', 'r', 'u', 'e']
  | .bool false => ['f', 'a', 'l', 's', 'e']
  | .number value => value.chars
  | .string text => quotedChars text.toList
  | .array items => '[' :: itemsChars items
  | .object members => '{' :: membersChars members

/-- The items and the closing bracket. -/
def itemsChars : List Json → List Char
  | [] => [']']
  | [item] => item.chars ++ [']']
  | item :: next :: rest => item.chars ++ ',' :: itemsChars (next :: rest)

def membersChars : List (String × Json) → List Char
  | [] => ['}']
  | [(key, value)] => quotedChars key.toList ++ ':' :: (value.chars ++ ['}'])
  | (key, value) :: next :: rest =>
      quotedChars key.toList ++ ':' :: (value.chars ++ ',' :: membersChars (next :: rest))
end

def render (value : Json) : String :=
  String.ofList value.chars

example : (Json.object [("a", .array [.null, .string "q\"\n"]), ("b", .bool true)]).render =
    "\x7b\"a\":[null,\"q\\\"\\n\"],\"b\":true\x7d" := by decide +kernel

end Json

end ChatGateway

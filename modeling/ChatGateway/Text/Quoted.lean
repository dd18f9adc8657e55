import ChatGateway.Text.Invisible

namespace ChatGateway

/-! A text between quotes, as messages show a text that they found: quotes,
backslashes and the usual controls by a short escape, what cannot be seen by its
number in braces. -/

namespace Text

def hexChars (value : Nat) : List Char :=
  Nat.toDigits 16 value

def shownChar (char : Char) : List Char :=
  if char = '"' then ['\\', '"']
  else if char = '\\' then ['\\', '\\']
  else if char = '\n' then ['\\', 'n']
  else if char = '\r' then ['\\', 'r']
  else if char = '\t' then ['\\', 't']
  else if char.toNat = 0 then ['\\', '0']
  else if char.toNat < 32 ∨ (127 ≤ char.toNat ∧ isInvisible char) then
    ['\\', 'u', '{'] ++ hexChars char.toNat ++ ['}']
  else [char]

def quoted (text : String) : String :=
  String.ofList ('"' :: (text.toList.flatMap shownChar ++ ['"']))

example : quoted "a\"é\u0301\x00" = "\"a\\\"é\\u\x7b301\x7d\\0\"" := by decide +kernel

end Text

end ChatGateway

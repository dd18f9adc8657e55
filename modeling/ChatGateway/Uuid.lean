import ChatGateway.Exchange

namespace ChatGateway

/-! Random identifiers, written as five groups of hexadecimal digits. -/

namespace Uuid

def hexByte (byte : UInt8) : List Char :=
  [hexDigit (byte.toNat / 16), hexDigit (byte.toNat % 16)]

/-- Marks sixteen bytes as random: the seventh begins with 4, and the ninth with the
bits 10. -/
def marked (bytes : List UInt8) : List UInt8 :=
  bytes.zipIdx.map fun (byte, index) =>
    if index = 6 then byte &&& 0x0F ||| 0x40
    else if index = 8 then byte &&& 0x3F ||| 0x80
    else byte

def grouped : List Nat → List Char → List (List Char)
  | [], _ => []
  | width :: widths, digits => digits.take width :: grouped widths (digits.drop width)

def ofBytes (bytes : List UInt8) : String :=
  Text.join "-" ((grouped [8, 4, 4, 4, 12] ((marked bytes).flatMap hexByte)).map String.ofList)

example : ofBytes (List.replicate 16 0xFF) = "ffffffff-ffff-4fff-bfff-ffffffffffff" := by
  decide +kernel

end Uuid

def Fresh.ofBytes (bytes : List UInt8) (now : Int) : Fresh where
  requestId := Uuid.ofBytes (bytes.take 16)
  completionId := "chatcmpl-" ++ Uuid.ofBytes (bytes.drop 16)
  now := now

end ChatGateway

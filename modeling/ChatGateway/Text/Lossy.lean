import ChatGateway.Text

namespace ChatGateway

/-! Bytes as text. Where bytes are not UTF-8, each longest run that begins a
character and does not finish it, and each byte that begins none, is read as
U+FFFD. -/

namespace Text

def replacement : Char := '\ufffd'

/-- For the first byte of a longer character: its own bits, how many bytes follow,
and the bounds of the second byte. -/
def lead? (byte : UInt8) : Option (Nat × Nat × UInt8 × UInt8) :=
  if 0xC2 ≤ byte && byte ≤ 0xDF then some (byte.toNat - 0xC0, 1, 0x80, 0xBF)
  else if byte = 0xE0 then some (0, 2, 0xA0, 0xBF)
  else if byte = 0xED then some (0xD, 2, 0x80, 0x9F)
  else if 0xE1 ≤ byte && byte ≤ 0xEF then some (byte.toNat - 0xE0, 2, 0x80, 0xBF)
  else if byte = 0xF0 then some (0, 3, 0x90, 0xBF)
  else if 0xF1 ≤ byte && byte ≤ 0xF3 then some (byte.toNat - 0xF0, 3, 0x80, 0xBF)
  else if byte = 0xF4 then some (4, 3, 0x80, 0x8F)
  else none

structure Begun where
  bits : Nat
  missing : Nat
  low : UInt8
  high : UInt8

def begin (byte : UInt8) : List Char × Option Begun :=
  if byte < 0x80 then ([Char.ofNat byte.toNat], none)
  else
    match lead? byte with
    | some (bits, missing, low, high) => ([], some ⟨bits, missing, low, high⟩)
    | none => ([replacement], none)

def lossyFrom : (begun : Option Begun) → List UInt8 → List Char
  | none, [] => []
  | some _, [] => [replacement]
  | none, byte :: rest =>
      let (read, begun) := begin byte
      read ++ lossyFrom begun rest
  | some begun, byte :: rest =>
      if begun.low ≤ byte && byte ≤ begun.high then
        let bits := begun.bits * 64 + (byte.toNat - 0x80)
        if begun.missing ≤ 1 then Char.ofNat bits :: lossyFrom none rest
        else lossyFrom (some ⟨bits, begun.missing - 1, 0x80, 0xBF⟩) rest
      else
        let (read, begun) := begin byte
        replacement :: (read ++ lossyFrom begun rest)

def lossy (bytes : ByteArray) : String :=
  String.ofList (lossyFrom none bytes.data.toList)

example : lossyFrom none [0x61, 0xC3, 0xA9, 0xF0, 0x9F, 0x98, 0x80] = ['a', 'é', '😀'] := by
  decide +kernel

example : lossyFrom none [0xE2, 0x82, 0x61, 0xFF] = ['\ufffd', 'a', '\ufffd'] := by
  decide +kernel

/-- The longest beginning of a text whose UTF-8 form has at most `room` bytes. -/
def takeBytes : (room : Nat) → List Char → List Char
  | _, [] => []
  | room, char :: rest =>
      if char.utf8Size ≤ room then char :: takeBytes (room - char.utf8Size) rest else []

def truncated (limit : Nat) (text : String) : String :=
  String.ofList (takeBytes limit text.toList)

example : takeBytes 2 "héllo".toList = ['h'] := by decide

end Text

end ChatGateway

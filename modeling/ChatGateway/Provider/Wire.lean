import ChatGateway.Provider.Call

namespace ChatGateway

/-! A call of the provider as bytes on a connection that serves one call, and the
answer that comes back. -/

namespace Url

def connectionPoint (url : Url) : String × String :=
  let authority := (url.authority.getD "").toList
  let standard := Text.ofNat (standardPort url.scheme)
  match authority with
  | '[' :: rest =>
      let inside := rest.takeWhile (· != ']')
      match rest.drop (inside.length + 1) with
      | ':' :: digits => (String.ofList inside, String.ofList digits)
      | _ => (String.ofList inside, standard)
  | _ =>
      match Text.splitAtFirst? ':' authority with
      | some (host, digits) => (String.ofList host, String.ofList digits)
      | none => (String.ofList authority, standard)

example : connectionPoint ⟨"http", some "h:81", "/", none, none⟩ = ("h", "81") ∧
    connectionPoint ⟨"http", some "[::1]", "/", none, none⟩ = ("::1", "80") := by decide +kernel

end Url

namespace ProviderCall

def wire (call : ProviderCall) (url : Url) : ByteArray :=
  let body := call.body.toUTF8
  let head :=
    [ "POST " ++ url.path ++ ((url.query.map ("?" ++ ·)).getD "") ++ " HTTP/1.1",
      "host: " ++ url.authority.getD "",
      "accept: */*",
      "authorization: " ++ call.authorization,
      "content-type: application/json",
      "content-length: " ++ Text.ofNat body.size,
      "connection: close" ]
  (Text.join "\r\n" head ++ "\r\n\r\n").toUTF8 ++ body

end ProviderCall

/-! Reading the answer. -/

namespace Wire

def line? : List UInt8 → Option (List UInt8 × List UInt8)
  | 13 :: 10 :: rest => some ([], rest)
  | byte :: rest => (line? rest).map fun (line, behind) => (byte :: line, behind)
  | [] => none

/-- The lines of a head, which an empty line ends, and the bytes behind it. -/
def head? : (fuel : Nat) → List UInt8 → Option (List String × List UInt8)
  | 0, _ => none
  | fuel + 1, bytes => do
      let (line, behind) ← line? bytes
      if line.isEmpty then return ([], behind)
      let (lines, behind) ← head? fuel behind
      return (Text.lossy ⟨line.toArray⟩ :: lines, behind)

def status? : List String → Option UInt16
  | [] => none
  | line :: _ =>
      match Text.split ' ' line.toList with
      | _ :: digits :: _ =>
          if digits.length = 3 ∧ digits.all Char.isDigit then
            some (UInt16.ofNat (digitsValue digits))
          else none
      | _ => none

def headerOf? (name line : String) : Option String :=
  match Text.splitAtFirst? ':' line.toList with
  | some (head, value) =>
      if String.ofList (Text.lowerAscii head) = name then
        some (Text.trim (String.ofList value))
      else none
  | none => none

/-- A body in chunks, each behind its length in hexadecimal digits. -/
def chunks? : (fuel : Nat) → List UInt8 → Option (List UInt8)
  | 0, _ => none
  | fuel + 1, bytes => do
      let (line, behind) ← line? bytes
      let digits ← ((Text.lossy ⟨line.toArray⟩).toList.takeWhile fun char =>
        (hexValue? char).isSome).mapM hexValue?
      let size := digits.foldl (fun size digit => size * 16 + digit) 0
      if digits.isEmpty ∨ behind.length < size then none
      else if size = 0 then return []
      let (_, after) ← line? (behind.drop size)
      return behind.take size ++ (← chunks? fuel after)

/-- The body behind a head: in chunks, of a length, or all that came. -/
def body? (lines : List String) (behind : List UInt8) : Option (List UInt8) :=
  match lines.findSome? (headerOf? "transfer-encoding"),
      lines.findSome? (headerOf? "content-length") with
  | some _, _ => chunks? (behind.length + 1) behind
  | none, some digits =>
      let size := digitsValue digits.toList
      if digits.toList.all Char.isDigit ∧ size ≤ behind.length then some (behind.take size)
      else none
  | none, none => some behind

/-- The answer in what came until the connection was closed. Answers with a status
below 200 announce another. -/
def answer? : (fuel : Nat) → List UInt8 → Option (UInt16 × List UInt8)
  | 0, _ => none
  | fuel + 1, bytes => do
      let (lines, behind) ← head? (bytes.length + 1) bytes
      let status ← status? lines
      if status < 200 then answer? fuel behind
      else return (status, ← body? lines behind)

def read (bytes : ByteArray) : Option (UInt16 × List UInt8) :=
  answer? (bytes.size + 1) bytes.data.toList

example : read "HTTP/1.1 200 OK\r\nA: b\r\nContent-Length: 2\r\n\r\nhi!".toUTF8 =
    some (200, [104, 105]) := by decide +kernel

example : read "HTTP/1.1 400 Bad\r\nTransfer-Encoding: chunked\r\n\r\n2\r\nhi\r\n0\r\n\r\n".toUTF8 =
    some (400, [104, 105]) := by decide +kernel

end Wire

def Delivery.ofWire (bytes : ByteArray) : Delivery :=
  match Wire.read bytes with
  | some (status, body) => .answered status ⟨body.toArray⟩
  | none => .unreachable

end ChatGateway

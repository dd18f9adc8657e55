import ChatGateway.Json.Document

namespace ChatGateway

/-! Reading JSON text. The grammar is the strict one: no comments, no trailing
commas, no leading zeros, no control characters in strings, and four blanks.
At most 127 brackets may be open at once. -/

def maximalDepth : Nat := 127

def isJsonBlank (char : Char) : Bool :=
  char == ' ' || char == '\n' || char == '\t' || char == '\r'

def skipBlanks (input : List Char) : List Char :=
  input.dropWhile isJsonBlank

/-! Numbers. A literal's digits are gathered into 64 bits as long as they fit;
those that do not fit only count towards the exponent. The gathered digits,
taken as a double, are then scaled by powers of ten. -/

structure NumberLiteral where
  negative : Bool
  whole : List Char
  fraction : Option (List Char)
  exponent : Option (Bool × List Char)
  deriving DecidableEq

def digitValue (char : Char) : Nat :=
  char.toNat - '0'.toNat

def digitsValue (digits : List Char) : Nat :=
  digits.foldl (fun value digit => 10 * value + digitValue digit) 0

/-- Appends digits while the number stays below 2^64; the rest is left over. -/
def gatherDigits (value : Nat) : List Char → Nat × List Char
  | [] => (value, [])
  | digit :: rest =>
      let next := 10 * value + digitValue digit
      if next < Nat.pow 2 64 then gatherDigits next rest
      else (value, digit :: rest)

def powerOfTen (exponent : Nat) : Float :=
  Float.ofScientific 1 false exponent

/-- `value · 10 ^ exponent`, by division where the exponent is negative; none
when it exceeds the doubles. -/
def scaleFloat (value : Float) (exponent : Int) : Option Float :=
  if 308 < exponent then
    if value == 0 then some value else none
  else if 0 ≤ exponent then
    let scaled := value * powerOfTen exponent.toNat
    if scaled.isInf then none else some scaled
  else if -308 ≤ exponent then
    some (value / powerOfTen exponent.natAbs)
  else if value == 0 then
    some value
  else
    scaleFloat (value / powerOfTen 308) (exponent + 308)
termination_by exponent.natAbs

namespace NumberLiteral

def value? (literal : NumberLiteral) : Option Number :=
  let (wholeValue, wholeRest) := gatherDigits 0 literal.whole
  let signed (value : Float) : Number := .float (if literal.negative then -value else value)
  match literal.fraction, literal.exponent, wholeRest with
  | none, none, [] =>
      if !literal.negative then some (.integer wholeValue)
      else if wholeValue = 0 ∨ Nat.pow 2 63 < wholeValue then
        some (signed (UInt64.ofNat wholeValue).toFloat)
      else some (.integer (-(wholeValue : Int)))
  | fraction, exponent, _ =>
      let fraction := fraction.getD []
      let (value, fractionRest) := gatherDigits wholeValue fraction
      let shift : Int := (wholeRest.length : Int) - (fraction.length - fractionRest.length : Nat)
      let exponent : Int := match exponent with
        | none => 0
        | some (true, digits) => -(digitsValue digits : Int)
        | some (false, digits) => digitsValue digits
      (scaleFloat (UInt64.ofNat value).toFloat (shift + exponent)).map signed

end NumberLiteral

def takeDigits (input : List Char) : List Char × List Char :=
  (input.takeWhile Char.isDigit, input.dropWhile Char.isDigit)

def readExponent (input : List Char) : Option (Option (Bool × List Char) × List Char) :=
  match input with
  | mark :: rest =>
      if mark = 'e' ∨ mark = 'E' then
        let (negative, rest) := match rest with
          | '+' :: rest => (false, rest)
          | '-' :: rest => (true, rest)
          | rest => (false, rest)
        match takeDigits rest with
        | ([], _) => none
        | (digits, rest) => some (some (negative, digits), rest)
      else some (none, input)
  | [] => some (none, input)

def readFraction (input : List Char) : Option (Option (List Char) × List Char) :=
  match input with
  | '.' :: rest =>
      match takeDigits rest with
      | ([], _) => none
      | (digits, rest) => some (some digits, rest)
  | rest => some (none, rest)

def readNumber (input : List Char) : Option (NumberLiteral × List Char) :=
  let (negative, input) := match input with
    | '-' :: rest => (true, rest)
    | rest => (false, rest)
  match takeDigits input with
  | ([], _) | ('0' :: _ :: _, _) => none
  | (whole, rest) =>
      (readFraction rest).bind fun (fraction, rest) =>
        (readExponent rest).map fun (exponent, rest) =>
          ({ negative, whole, fraction, exponent }, rest)

/-! Strings. A first pass undoes the escapes; a second one joins the escaped
UTF-16 units to characters and refuses a surrogate without its partner. -/

inductive StringPiece where
  | char (value : Char)
  | unit (value : Nat)
  deriving DecidableEq

def hexValue? (char : Char) : Option Nat :=
  if char.isDigit then some (digitValue char)
  else if 'a' ≤ char ∧ char ≤ 'f' then some (char.toNat - 'a'.toNat + 10)
  else if 'A' ≤ char ∧ char ≤ 'F' then some (char.toNat - 'A'.toNat + 10)
  else none

def hexUnit? (first second third fourth : Char) : Option Nat :=
  match hexValue? first, hexValue? second, hexValue? third, hexValue? fourth with
  | some first, some second, some third, some fourth =>
      some (((first * 16 + second) * 16 + third) * 16 + fourth)
  | _, _, _, _ => none

def shortEscape? : Char → Option Char
  | '"' => some '"'
  | '\\' => some '\\'
  | '/' => some '/'
  | 'b' => some (Char.ofNat 8)
  | 'f' => some (Char.ofNat 12)
  | 'n' => some '\n'
  | 'r' => some '\r'
  | 't' => some '\t'
  | _ => none

/-- The pieces up to the closing quote and what follows it. -/
def readPieces : List Char → Option (List StringPiece × List Char)
  | [] => none
  | '"' :: rest => some ([], rest)
  | '\\' :: 'u' :: first :: second :: third :: fourth :: rest =>
      match hexUnit? first second third fourth, readPieces rest with
      | some unit, some (pieces, rest) => some (.unit unit :: pieces, rest)
      | _, _ => none
  | '\\' :: mark :: rest =>
      match shortEscape? mark, readPieces rest with
      | some char, some (pieces, rest) => some (.char char :: pieces, rest)
      | _, _ => none
  | char :: rest =>
      if char = '\\' ∨ char.toNat < 32 then none
      else (readPieces rest).map fun (pieces, rest) => (.char char :: pieces, rest)

def isLeading (unit : Nat) : Bool := 0xD800 ≤ unit && unit < 0xDC00

def isTrailing (unit : Nat) : Bool := 0xDC00 ≤ unit && unit < 0xE000

def joinPieces : List StringPiece → Option (List Char)
  | [] => some []
  | .char char :: rest => (joinPieces rest).map (char :: ·)
  | .unit leading :: .unit trailing :: rest =>
      if isLeading leading ∧ isTrailing trailing then
        let code := 0x10000 + (leading - 0xD800) * 0x400 + (trailing - 0xDC00)
        (joinPieces rest).map (Char.ofNat code :: ·)
      else if isLeading leading ∨ isTrailing leading then none
      else (joinPieces (.unit trailing :: rest)).map (Char.ofNat leading :: ·)
  | .unit unit :: rest =>
      if isLeading unit ∨ isTrailing unit then none
      else (joinPieces rest).map (Char.ofNat unit :: ·)

/-! Values. A reader gives what it read and the input that remains, none when
the text broke off. Fuel bounds the nesting and the number of items; one more than
the length of the input is enough, since every bracket and item takes a character. -/

abbrev Remaining := Option (List Char)

def readString (input : List Char) : Document × Remaining :=
  match readPieces input with
  | none => (.broken, none)
  | some (pieces, rest) =>
      match joinPieces pieces with
      | some text => (.string (String.ofList text), some rest)
      | none => (.unfit, some rest)

def readItems (readOne : List Char → Document × Remaining) :
    (fuel : Nat) → List Char → List Document × Remaining
  | 0, _ => ([.broken], none)
  | fuel + 1, input =>
      match readOne input with
      | (item, none) => ([item], none)
      | (item, some rest) =>
          match skipBlanks rest with
          | ',' :: rest =>
              let (items, rest) := readItems readOne fuel rest
              (item :: items, rest)
          | ']' :: rest => ([item], some rest)
          | _ => ([item, .broken], none)

/-- A key that is no text, such as half of a surrogate pair, breaks the document off. -/
def readMember (readOne : List Char → Document × Remaining) (input : List Char) :
    (String × Document) × Remaining :=
  match skipBlanks input with
  | '"' :: rest =>
      match readString rest with
      | (.string key, some rest) =>
          match skipBlanks rest with
          | ':' :: rest =>
              let (value, rest) := readOne rest
              ((key, value), rest)
          | _ => ((key, .broken), none)
      | _ => (("", .broken), none)
  | _ => (("", .broken), none)

def readMembers (readOne : List Char → Document × Remaining) :
    (fuel : Nat) → List Char → List (String × Document) × Remaining
  | 0, _ => ([("", .broken)], none)
  | fuel + 1, input =>
      match readMember readOne input with
      | (member, none) => ([member], none)
      | (member, some rest) =>
          match skipBlanks rest with
          | ',' :: rest =>
              let (members, rest) := readMembers readOne fuel rest
              (member :: members, rest)
          | '}' :: rest => ([member], some rest)
          | _ => ([member, ("", .broken)], none)

/-- A bracket that opens where none may be open any more is read and dropped. -/
def withinDepth (depth : Nat) (value : Document) (rest : Remaining) : Document × Remaining :=
  if depth = 0 then
    (if rest.isSome then .unfit else .broken, rest)
  else (value, rest)

def readValue : (fuel depth : Nat) → List Char → Document × Remaining
  | 0, _, _ => (.broken, none)
  | fuel + 1, depth, input =>
      match skipBlanks input with
      | 'n' :: 'u' :: 'l' :: 'l' :: rest => (.null, some rest)
      | 't' :: 'r' :: 'u' :: 'e' :: rest => (.bool true, some rest)
      | 'f' :: 'a' :: 'l' :: 's' :: 'e' :: rest => (.bool false, some rest)
      | '"' :: rest => readString rest
      | '[' :: rest =>
          match skipBlanks rest with
          | ']' :: rest => withinDepth depth (.array []) (some rest)
          | rest =>
              let (items, rest) := readItems (readValue fuel (depth - 1)) fuel rest
              withinDepth depth (.array items) rest
      | '{' :: rest =>
          match skipBlanks rest with
          | '}' :: rest => withinDepth depth (.object []) (some rest)
          | rest =>
              let (members, rest) := readMembers (readValue fuel (depth - 1)) fuel rest
              withinDepth depth (.object members) rest
      | input =>
          match readNumber input with
          | none => (.broken, none)
          | some (literal, rest) =>
              match literal.value? with
              | some value => (.number value, some rest)
              | none => (.unfit, some rest)

namespace Document

/-- The document at the head of a text, and whether nothing but blanks follows. -/
def read (text : List Char) : Document × Bool :=
  match readValue (text.length + 1) maximalDepth text with
  | (document, some rest) => (document, (skipBlanks rest).isEmpty)
  | (document, none) => (document, false)

end Document

namespace Json

/-- The value a text writes, none when the text is not JSON. -/
def read (text : String) : Option Json :=
  match Document.read text.toList with
  | (document, true) => document.value?
  | (_, false) => none

end Json

end ChatGateway

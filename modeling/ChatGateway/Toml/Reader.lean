import ChatGateway.Json.Reader
import ChatGateway.Toml

namespace ChatGateway

/-! Reading a TOML document. Every reader takes the input that remains and gives
what it read with what follows, or nothing when the text is not TOML. -/

namespace Toml

abbrev Read (α : Type) := Option (α × List Char)

def isBlank (char : Char) : Bool := char == ' ' || char == '\t'

def skipBlanks (input : List Char) : List Char := input.dropWhile isBlank

/-- A character that may stand in a comment, and in a string unless it is
special there. -/
def isText (char : Char) : Bool :=
  char == '\t' || (32 ≤ char.toNat && char.toNat != 127)

def newline? : List Char → Option (List Char)
  | '\n' :: rest | '\r' :: '\n' :: rest => some rest
  | _ => none

def skipComment : List Char → List Char
  | '#' :: rest => rest.dropWhile isText
  | rest => rest

def skipSpace : (fuel : Nat) → List Char → List Char
  | 0, input => input
  | fuel + 1, input =>
      let rest := skipComment (skipBlanks input)
      match newline? rest with
      | some rest => skipSpace fuel rest
      | none => rest

/-- What follows a line that may only hold blanks and a comment. -/
def endLine? (input : List Char) : Option (List Char) :=
  match skipComment (skipBlanks input) with
  | [] => some []
  | rest => newline? rest

/-! Strings. -/

def hexNumber? (digits : List Char) : Option Nat :=
  digits.foldlM (fun value digit => (hexValue? digit).map (16 * value + ·)) 0

def unicodeChar? (count : Nat) (input : List Char) : Read Char :=
  let digits := input.take count
  if digits.length < count then none
  else
    (hexNumber? digits).bind fun code =>
      if code < 0xD800 ∨ (0xDFFF < code ∧ code < 0x110000) then
        some (Char.ofNat code, input.drop count)
      else none

def escape? : List Char → Read Char
  | 'b' :: rest => some (Char.ofNat 8, rest)
  | 't' :: rest => some ('\t', rest)
  | 'n' :: rest => some ('\n', rest)
  | 'f' :: rest => some (Char.ofNat 12, rest)
  | 'r' :: rest => some ('\r', rest)
  | '"' :: rest => some ('"', rest)
  | '\\' :: rest => some ('\\', rest)
  | 'u' :: rest => unicodeChar? 4 rest
  | 'U' :: rest => unicodeChar? 8 rest
  | _ => none

def basicString : (fuel : Nat) → List Char → Read (List Char)
  | 0, _ => none
  | fuel + 1, input =>
      match input with
      | '"' :: rest => some ([], rest)
      | '\\' :: rest =>
          (escape? rest).bind fun (char, rest) =>
            (basicString fuel rest).map fun (text, rest) => (char :: text, rest)
      | char :: rest =>
          if isText char then
            (basicString fuel rest).map fun (text, rest) => (char :: text, rest)
          else none
      | [] => none

def literalString (input : List Char) : Read (List Char) :=
  let inside (char : Char) : Bool := isText char && char != '\''
  match input.dropWhile inside with
  | '\'' :: rest => some (input.takeWhile inside, rest)
  | _ => none

/-- The blanks and line ends after a backslash that ends its line. -/
def continuation? (fuel : Nat) (input : List Char) : Option (List Char) :=
  (newline? (skipBlanks input)).map (skipLines fuel)
where
  skipLines : Nat → List Char → List Char
    | 0, input => input
    | fuel + 1, input =>
        match newline? (skipBlanks input) with
        | some rest => skipLines fuel rest
        | none => skipBlanks input

/-- The text up to three closing quotes. Up to two more quotes before them
belong to the text. -/
def longString (quote : Char) (escapes : Bool) : (fuel : Nat) → List Char → Read (List Char)
  | 0, _ => none
  | fuel + 1, input =>
      let quotes := (input.takeWhile (· == quote)).length
      if 3 ≤ quotes then
        let taken := min quotes 5
        some (List.replicate (taken - 3) quote, input.drop taken)
      else
        match newline? input, input with
        | some rest, _ =>
            (longString quote escapes fuel rest).map fun (text, rest) => ('\n' :: text, rest)
        | none, char :: rest =>
            if escapes ∧ char = '\\' then
              match continuation? fuel rest with
              | some rest => longString quote escapes fuel rest
              | none =>
                  (escape? rest).bind fun (char, rest) =>
                    (longString quote escapes fuel rest).map fun (text, rest) =>
                      (char :: text, rest)
            else if isText char then
              (longString quote escapes fuel rest).map fun (text, rest) => (char :: text, rest)
            else none
        | none, [] => none

/-- A line end right after the opening quotes is not part of the text. -/
def dropFirstNewline (input : List Char) : List Char :=
  (newline? input).getD input

def string? (input : List Char) : Read String :=
  let read := match input with
    | '"' :: '"' :: '"' :: rest => longString '"' true (rest.length + 1) (dropFirstNewline rest)
    | '\'' :: '\'' :: '\'' :: rest =>
        longString '\'' false (rest.length + 1) (dropFirstNewline rest)
    | '"' :: rest => basicString (rest.length + 1) rest
    | '\'' :: rest => literalString rest
    | _ => none
  read.map fun (text, rest) => (String.ofList text, rest)

/-! Numbers, truth values and dates are read as one word and classified. -/

/-- Digits of a kind; single underscores may stand between them. -/
def underscored? (isDigit : Char → Bool) : List Char → Option (List Char)
  | [] => none
  | [digit] => if isDigit digit then some [digit] else none
  | digit :: '_' :: rest =>
      if isDigit digit then (underscored? isDigit rest).map (digit :: ·) else none
  | digit :: rest =>
      if isDigit digit then (underscored? isDigit rest).map (digit :: ·) else none

def inRange? (value : Int) : Option Toml :=
  if -Nat.pow 2 63 ≤ value ∧ value < Nat.pow 2 63 then some (.integer value) else none

def radixInteger? (radix : Nat) (digits : List Char) : Option Toml :=
  let valueOf (digit : Char) := (hexValue? digit).filter (· < radix)
  (underscored? (fun digit => (valueOf digit).isSome) digits).bind fun digits =>
    (digits.foldlM (fun value digit => (valueOf digit).map (radix * value + ·)) 0).bind
      fun value : Nat => inRange? value

def wholePart? (digits : List Char) : Option (List Char) :=
  match underscored? Char.isDigit digits with
  | some ('0' :: _ :: _) => none
  | whole => whole

def splitSign : List Char → Bool × List Char
  | '+' :: rest => (false, rest)
  | '-' :: rest => (true, rest)
  | rest => (false, rest)

def decimalInteger? (word : List Char) : Option Toml :=
  let (negative, digits) := splitSign word
  (wholePart? digits).bind fun digits =>
    let value : Int := digitsValue digits
    inRange? (if negative then -value else value)

def signed (negative : Bool) (value : Float) : Float :=
  if negative then -value else value

def scientific (digits : List Char) (exponent : Int) : Float :=
  let bounded := max (-100000) (min 100000 exponent)
  Float.ofScientific (digitsValue digits) (bounded < 0) bounded.natAbs

def float? (word : List Char) : Option Toml :=
  let (negative, rest) := splitSign word
  if rest = ['i', 'n', 'f'] then some (.float (signed negative (1.0 / 0.0)))
  else if rest = ['n', 'a', 'n'] then some (.float (0.0 / 0.0))
  else
    let isMark (char : Char) : Bool := char == 'e' || char == 'E'
    let mantissa := rest.takeWhile fun char => !isMark char
    let whole := mantissa.takeWhile (· != '.')
    let fraction := mantissa.dropWhile (· != '.')
    let power := rest.dropWhile fun char => !isMark char
    if fraction = [] ∧ power = [] then none
    else
      let fraction? := if fraction = [] then some [] else underscored? Char.isDigit fraction.tail
      let power? : Option Int :=
        if power = [] then some 0
        else
          let (down, digits) := splitSign power.tail
          (underscored? Char.isDigit digits).map fun digits =>
            if down then -(digitsValue digits : Int) else digitsValue digits
      match wholePart? whole, fraction?, power? with
      | some whole, some fraction, some power =>
          let value := scientific (whole ++ fraction) (power - fraction.length)
          if value.isInf ∧ !negative then none else some (.float (signed negative value))
      | _, _, _ => none

def fixed? (count low high : Nat) (input : List Char) : Read Nat :=
  let digits := input.take count
  let value := digitsValue digits
  if digits.length = count ∧ digits.all Char.isDigit ∧ low ≤ value ∧ value ≤ high then
    some (value, input.drop count)
  else none

def expect? (char : Char) : List Char → Option (List Char)
  | head :: rest => if head = char then some rest else none
  | [] => none

def isLeapYear (year : Nat) : Bool :=
  year % 4 == 0 && (year % 100 != 0 || year % 400 == 0)

def daysInMonth (year month : Nat) : Nat :=
  if month = 2 then (if isLeapYear year then 29 else 28)
  else if month = 4 ∨ month = 6 ∨ month = 9 ∨ month = 11 then 30
  else 31

def day? (input : List Char) : Option (List Char) := do
  let (year, rest) ← fixed? 4 0 9999 input
  let (month, rest) ← fixed? 2 1 12 (← expect? '-' rest)
  let (_, rest) ← fixed? 2 1 (daysInMonth year month) (← expect? '-' rest)
  pure rest

def time? (input : List Char) : Option (List Char) := do
  let (_, rest) ← fixed? 2 0 23 input
  let (_, rest) ← fixed? 2 0 59 (← expect? ':' rest)
  let (_, rest) ← fixed? 2 0 60 (← expect? ':' rest)
  match rest with
  | '.' :: fraction =>
      match takeDigits fraction with
      | ([], _) => none
      | (_, rest) => pure rest
  | rest => pure rest

def offset? : List Char → Option (List Char)
  | 'Z' :: rest | 'z' :: rest => some rest
  | sign :: rest => do
      if sign = '+' ∨ sign = '-' then
        let (_, rest) ← fixed? 2 0 23 rest
        let (_, rest) ← fixed? 2 0 59 (← expect? ':' rest)
        pure rest
      else some (sign :: rest)
  | [] => some []

def isDate (word : List Char) : Bool :=
  match day? word with
  | some [] => true
  | some (separator :: rest) =>
      (separator == 'T' || separator == 't' || separator == ' ') &&
        ((time? rest).bind offset?) == some []
  | none => time? word == some []

def classify? (word : List Char) : Option Toml :=
  match word with
  | ['t', 'r', 'u', 'e'] => some (.bool true)
  | ['f', 'a', 'l', 's', 'e'] => some (.bool false)
  | '0' :: 'x' :: digits => radixInteger? 16 digits
  | '0' :: 'o' :: digits => radixInteger? 8 digits
  | '0' :: 'b' :: digits => radixInteger? 2 digits
  | word =>
      if isDate word then some (.date (String.ofList word))
      else (decimalInteger? word).or (float? word)

def isWordChar (char : Char) : Bool :=
  char.isAlphanum || char == '+' || char == '-' || char == '_' || char == '.' || char == ':'

/-- A word, with a time of day that follows its day after one blank. -/
def word (input : List Char) : List Char × List Char :=
  let head := input.takeWhile isWordChar
  match input.dropWhile isWordChar with
  | ' ' :: rest =>
      let next := rest.takeWhile isWordChar
      if day? head = some [] ∧ (time? next).isSome then
        (head ++ ' ' :: next, rest.dropWhile isWordChar)
      else (head, ' ' :: rest)
  | rest => (head, rest)

/-! Keys. -/

def isBareKeyChar (char : Char) : Bool :=
  char.isAlphanum || char == '_' || char == '-'

def simpleKey? (input : List Char) : Read String :=
  match input with
  | '"' :: rest =>
      (basicString (rest.length + 1) rest).map fun (text, rest) => (String.ofList text, rest)
  | '\'' :: rest => (literalString rest).map fun (text, rest) => (String.ofList text, rest)
  | _ =>
      match input.takeWhile isBareKeyChar with
      | [] => none
      | key => some (String.ofList key, input.dropWhile isBareKeyChar)

def key? : (fuel : Nat) → List Char → Read (List String × String)
  | 0, _ => none
  | fuel + 1, input =>
      (simpleKey? (skipBlanks input)).bind fun (part, rest) =>
        match skipBlanks rest with
        | '.' :: rest =>
            (key? fuel rest).map fun ((path, last), rest) => ((part :: path, last), rest)
        | rest => some (([], part), rest)

/-! Values. -/

def items? (one : List Char → Read Toml) : (fuel : Nat) → List Char → Read (List Toml)
  | 0, _ => none
  | fuel + 1, input =>
      match skipSpace fuel input with
      | ']' :: rest => some ([], rest)
      | start =>
          (one start).bind fun (item, rest) =>
            match skipSpace fuel rest with
            | ',' :: rest => (items? one fuel rest).map fun (items, rest) => (item :: items, rest)
            | ']' :: rest => some ([item], rest)
            | _ => none

def pair? (one : List Char → Read Toml) (input : List Char) :
    Read (List String × String × Toml) :=
  (key? input.length input).bind fun ((path, key), rest) =>
    (expect? '=' rest).bind fun rest =>
      (one (skipBlanks rest)).map fun (value, rest) => ((path, key, value), rest)

def pairs? (one : List Char → Read Toml) : (fuel : Nat) → Members → List Char → Read Members
  | 0, _, _ => none
  | fuel + 1, members, input =>
      (pair? one input).bind fun ((path, key, value), rest) =>
        (define path key value .braces members).bind fun members =>
          match skipBlanks rest with
          | ',' :: rest => pairs? one fuel members rest
          | '}' :: rest => some (members, rest)
          | _ => none

/-- Brackets and braces may nest as deep as `depth`. -/
def value? : (depth : Nat) → List Char → Read Toml
  | depth, '"' :: rest => stringValue depth ('"' :: rest)
  | depth, '\'' :: rest => stringValue depth ('\'' :: rest)
  | 0, '[' :: _ | 0, '{' :: _ => none
  | depth + 1, '[' :: rest =>
      (items? (value? depth) (rest.length + 1) rest).map fun (items, rest) =>
        (.array items, rest)
  | depth + 1, '{' :: rest =>
      match skipBlanks rest with
      | '}' :: rest => some (.table .braces [], rest)
      | rest =>
          (pairs? (value? depth) (rest.length + 1) [] rest).map fun (members, rest) =>
            (.table .braces members, rest)
  | _, input =>
      let (read, rest) := word input
      (classify? read).map fun value => (value, rest)
where
  stringValue (_ : Nat) (input : List Char) : Read Toml :=
    (string? input).map fun (text, rest) => (.string text, rest)

def maximalDepth : Nat := 79

/-! The document, line by line. `current` is the path of the latest header. -/

def header? (input : List Char) : Read (List String × String) :=
  (key? input.length input).bind fun (key, rest) =>
    (expect? ']' rest).map fun rest => (key, rest)

def lines? : (fuel : Nat) → (current : List String) → Members → List Char → Option Members
  | 0, _, _, _ => none
  | fuel + 1, current, root, input =>
      match skipBlanks input with
      | [] => some root
      | '[' :: '[' :: rest => do
          let ((path, key), rest) ← header? rest
          let rest ← endLine? (← expect? ']' rest)
          lines? fuel (path ++ [key]) (← openArrayTable path key root) rest
      | '[' :: rest => do
          let ((path, key), rest) ← header? rest
          let rest ← endLine? rest
          lines? fuel (path ++ [key]) (← openTable path key root) rest
      | line =>
          match endLine? line with
          | some rest => lines? fuel current root rest
          | none => do
              let ((path, key, value), rest) ← pair? (value? maximalDepth) line
              let rest ← endLine? rest
              let root ← changeAt false (define path key value) current .header root
              lines? fuel current root rest

/-- The members of a document. A byte-order mark may precede it. -/
def read (text : String) : Option Members :=
  let input := match text.toList with
    | '\ufeff' :: rest => rest
    | input => input
  lines? (input.length + 1) [] [] input

end Toml

end ChatGateway

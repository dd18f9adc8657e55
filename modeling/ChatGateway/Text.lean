namespace ChatGateway

/-! Small functions on texts. They work on lists of characters, so that what
they do can be said with list operations. -/

namespace Text

/-- The characters with the Unicode property White_Space. -/
def isBlank (char : Char) : Bool :=
  let code := char.toNat
  (9 ≤ code && code ≤ 13) || code == 0x20 || code == 0x85 || code == 0xA0 ||
    code == 0x1680 || (0x2000 ≤ code && code ≤ 0x200A) || code == 0x2028 ||
    code == 0x2029 || code == 0x202F || code == 0x205F || code == 0x3000

def trimChars (text : List Char) : List Char :=
  ((text.dropWhile isBlank).reverse.dropWhile isBlank).reverse

def trim (text : String) : String :=
  String.ofList (trimChars text.toList)

def allBlank (text : String) : Bool :=
  text.toList.all isBlank

def lowerAscii (text : List Char) : List Char :=
  text.map Char.toLower

def occursIn (pattern : List Char) : List Char → Bool
  | [] => pattern.isEmpty
  | char :: rest => pattern.isPrefixOf (char :: rest) || occursIn pattern rest

/-- `pattern`, written in lower case, occurs when case is ignored. -/
def mentions (text pattern : String) : Bool :=
  occursIn pattern.toList (lowerAscii text.toList)

def startsWith (text head : String) : Bool :=
  head.toList.isPrefixOf text.toList

def dropHead? (text head : String) : Option String :=
  (head.toList.isPrefixOf? text.toList).map String.ofList

def dropTail? (text tail : String) : Option String :=
  (tail.toList.isSuffixOf? text.toList).map String.ofList

def splitAtFirst? (char : Char) : List Char → Option (List Char × List Char)
  | [] => none
  | head :: rest =>
      if head = char then some ([], rest)
      else (splitAtFirst? char rest).map fun (before, after) => (head :: before, after)

theorem splitAtFirst?_eq_some {char : Char} :
    ∀ {text before after : List Char},
      splitAtFirst? char text = some (before, after) →
        text = before ++ char :: after ∧ char ∉ before
  | [], _, _, found => by simp [splitAtFirst?] at found
  | head :: rest, before, after, found => by
      unfold splitAtFirst? at found
      split at found
      · rename_i equal
        simp only [Option.some.injEq, Prod.mk.injEq] at found
        rcases found with ⟨rfl, rfl⟩
        simp [equal]
      · rename_i different
        rcases Option.map_eq_some_iff.mp found with ⟨⟨first, second⟩, inner, equal⟩
        simp only [Prod.mk.injEq] at equal
        rcases equal with ⟨rfl, rfl⟩
        rcases splitAtFirst?_eq_some inner with ⟨whole, absent⟩
        exact ⟨by simp [whole], by simp [absent, Ne.symm different]⟩

def splitParts (char : Char) : List Char → List Char × List (List Char)
  | [] => ([], [])
  | head :: rest =>
      let (first, others) := splitParts char rest
      if head = char then ([], first :: others) else (head :: first, others)

def split (char : Char) (text : List Char) : List (List Char) :=
  let (first, others) := splitParts char text
  first :: others

example : split ',' "a,,b".toList = [['a'], [], ['b']] := by decide

def join (separator : String) (parts : List String) : String :=
  separator.intercalate parts

def ofNat (value : Nat) : String :=
  String.ofList (Nat.toDigits 10 value)

end Text

end ChatGateway

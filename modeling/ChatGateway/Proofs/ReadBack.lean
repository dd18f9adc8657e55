import ChatGateway.Proofs.Numerals

namespace ChatGateway

/-! JSON texts read back. The compact text of a value reads as the value when no
more brackets are nested than a reader may open, and as nothing when there are
more. Of the numbers in the value only doubles need to be known to read back. -/

namespace Json

/-! What a text can hold of a value. -/

mutual
def depth : Json → Nat
  | .array items => itemsDepth items + 1
  | .object members => membersDepth members + 1
  | _ => 0

def itemsDepth : List Json → Nat
  | [] => 0
  | item :: rest => max item.depth (itemsDepth rest)

def membersDepth : List (String × Json) → Nat
  | [] => 0
  | (_, value) :: rest => max value.depth (membersDepth rest)
end

mutual
def numbers : Json → List Number
  | .number value => [value]
  | .array items => itemsNumbers items
  | .object members => membersNumbers members
  | _ => []

def itemsNumbers : List Json → List Number
  | [] => []
  | item :: rest => item.numbers ++ itemsNumbers rest

def membersNumbers : List (String × Json) → List Number
  | [] => []
  | (_, value) :: rest => value.numbers ++ membersNumbers rest
end

mutual
/-- The value is one that can be held: its integers have 64 bits, and its objects
list their members by ascending key. -/
def WellFormed : Json → Prop
  | .number (.integer value) => FitsWord value
  | .array items => ItemsWellFormed items
  | .object members => (members.map Prod.fst).Pairwise (· < ·) ∧ MembersWellFormed members
  | _ => True

def ItemsWellFormed : List Json → Prop
  | [] => True
  | item :: rest => item.WellFormed ∧ ItemsWellFormed rest

def MembersWellFormed : List (String × Json) → Prop
  | [] => True
  | (_, value) :: rest => value.WellFormed ∧ MembersWellFormed rest
end

mutual
/-- The value that the text of a value holds: the members of every object are put in order,
and the last of each key is kept. -/
def inOrder : Json → Json
  | .array items => .array (itemsInOrder items)
  | .object members => (Object.ofList (membersInOrder members)).toJson
  | value => value

def itemsInOrder : List Json → List Json
  | [] => []
  | item :: rest => item.inOrder :: itemsInOrder rest

def membersInOrder : List (String × Json) → List (String × Json)
  | [] => []
  | (key, value) :: rest => (key, value.inOrder) :: membersInOrder rest
end

def IntegersFit (value : Json) : Prop :=
  ∀ integer, .integer integer ∈ value.numbers → FitsWord integer

/-- The doubles of the value are read back from their texts. -/
def DoublesReadBack (value : Json) : Prop :=
  ∀ double, .float double ∈ value.numbers →
    Json.read (Json.number (.float double)).render = some (.number (.float double))

end Json

/-! Strings. -/

theorem hexUnit?_hexDigit :
    ∀ unit < 32, hexUnit? '0' '0' (hexDigit (unit / 16)) (hexDigit unit) = some unit := by
  decide

theorem readPieces_escapedChar (char : Char) :
    ∃ piece, (piece = .char char ∨ piece = .unit char.toNat ∧ char.toNat < 32) ∧
      ∀ rest, readPieces (escapedChar char ++ rest) =
        (readPieces rest).map fun (pieces, left) => (piece :: pieces, left) := by
  have short : ∀ mark, mark ≠ 'u' → shortEscape? mark = some char → ∀ rest,
      readPieces (['\\', mark] ++ rest) =
        (readPieces rest).map fun (pieces, left) => (.char char :: pieces, left) := by
    intro mark notUnicode shortened rest
    rw [List.cons_append, List.singleton_append, readPieces, shortened]
    · cases readPieces rest <;> rfl
    · intro _ _ _ _ _ unicode
      exact absurd unicode notUnicode
  have ofCode : ∀ code, char.toNat = code → char = Char.ofNat code := by
    rintro code rfl
    exact (Char.ofNat_toNat char).symm
  unfold escapedChar
  split
  · next equal => exact ⟨_, .inl rfl, short '"' (by decide) (by rw [equal]; rfl)⟩
  split
  · next equal => exact ⟨_, .inl rfl, short '\\' (by decide) (by rw [equal]; rfl)⟩
  split
  · next equal => exact ⟨_, .inl rfl, short 'n' (by decide) (by rw [equal]; rfl)⟩
  split
  · next equal => exact ⟨_, .inl rfl, short 'r' (by decide) (by rw [equal]; rfl)⟩
  split
  · next equal => exact ⟨_, .inl rfl, short 't' (by decide) (by rw [equal]; rfl)⟩
  split
  · next equal => exact ⟨_, .inl rfl, short 'b' (by decide) (by rw [ofCode 8 equal]; rfl)⟩
  split
  · next equal => exact ⟨_, .inl rfl, short 'f' (by decide) (by rw [ofCode 12 equal]; rfl)⟩
  split
  · next control =>
      refine ⟨.unit char.toNat, .inr ⟨rfl, control⟩, ?_⟩
      intro rest
      simp only [List.cons_append, List.nil_append, readPieces, hexUnit?_hexDigit _ control]
      cases readPieces rest <;> rfl
  · next _ notBackslash _ _ _ _ _ notControl =>
      refine ⟨.char char, .inl rfl, ?_⟩
      intro rest
      simp [readPieces, notBackslash, notControl]

theorem joinPieces_unit {unit : Nat} (control : unit < 32) (pieces : List StringPiece) :
    joinPieces (.unit unit :: pieces) = (joinPieces pieces).map (Char.ofNat unit :: ·) := by
  have notLeading : isLeading unit = false := by
    simp only [isLeading, Bool.and_eq_false_iff, decide_eq_false_iff_not]
    omega
  have notTrailing : isTrailing unit = false := by
    simp only [isTrailing, Bool.and_eq_false_iff, decide_eq_false_iff_not]
    omega
  cases pieces with
  | nil => simp [joinPieces, notLeading, notTrailing]
  | cons piece pieces =>
      cases piece <;> simp [joinPieces, notLeading, notTrailing]

theorem readPieces_flatMap_escapedChar (text rest : List Char) :
    ∃ pieces, readPieces (text.flatMap escapedChar ++ '"' :: rest) = some (pieces, rest) ∧
      joinPieces pieces = some text := by
  induction text with
  | nil => exact ⟨[], by simp [readPieces], rfl⟩
  | cons char text induction =>
      rcases induction with ⟨pieces, read, joined⟩
      rcases readPieces_escapedChar char with ⟨piece, meant, readOne⟩
      refine ⟨piece :: pieces, ?_, ?_⟩
      · rw [List.flatMap_cons, List.append_assoc, readOne, read]
        rfl
      · rcases meant with rfl | ⟨rfl, control⟩
        · rw [joinPieces, joined]
          rfl
        · rw [joinPieces_unit control, joined, Char.ofNat_toNat]
          rfl

theorem readString_quoted (text : String) (rest : List Char) :
    readString (text.toList.flatMap escapedChar ++ '"' :: rest) = (.string text, some rest) := by
  rcases readPieces_flatMap_escapedChar text.toList rest with ⟨pieces, read, joined⟩
  simp only [readString, read, joined, String.ofList_toList]

/-! Numbers. -/

/-- The text of the number is a literal with the number as its value. -/
def Number.Legible (number : Number) : Prop :=
  ∃ literal, readNumber number.chars = some (literal, []) ∧ literal.value? = some number

theorem legible_integer {value : Int} (fits : FitsWord value) :
    (Number.integer value).Legible :=
  ⟨_, readNumber_integerChars value, value?_ofDigits fits⟩

theorem skipBlanks_cons (char : Char) (visible : isJsonBlank char = false) (rest : List Char) :
    skipBlanks (char :: rest) = char :: rest := by
  rw [skipBlanks, List.dropWhile_cons_of_neg (by simp [visible])]

theorem readValue_number {char : Char} (starts : char = '-' ∨ char.isDigit = true)
    (fuel depth : Nat) (input : List Char) :
    readValue (fuel + 1) depth (char :: input) =
      match readNumber (char :: input) with
      | none => (.broken, none)
      | some (literal, rest) =>
          match literal.value? with
          | some value => (.number value, some rest)
          | none => (.unfit, some rest) := by
  have visible : isJsonBlank char = false := by
    rcases starts with rfl | digit
    · rfl
    · exact isJsonBlank_eq_false_of_isNumeric (isNumeric_of_isDigit digit)
  have other : ∀ mark, mark ≠ '-' → mark.isDigit = false → char ≠ mark := by
    rintro mark notMinus notDigit rfl
    rcases starts with rfl | digit
    · exact notMinus rfl
    · rw [digit] at notDigit
      cases notDigit
  rw [readValue, skipBlanks_cons _ visible]
  split
  · next equal => exact absurd (List.cons.inj equal).1 (other 'n' (by decide) (by decide))
  · next equal => exact absurd (List.cons.inj equal).1 (other 't' (by decide) (by decide))
  · next equal => exact absurd (List.cons.inj equal).1 (other 'f' (by decide) (by decide))
  · next equal => exact absurd (List.cons.inj equal).1 (other '"' (by decide) (by decide))
  · next equal => exact absurd (List.cons.inj equal).1 (other '[' (by decide) (by decide))
  · next equal => exact absurd (List.cons.inj equal).1 (other '{' (by decide) (by decide))
  · rfl

theorem readValue_chars_number {number : Number} (legible : number.Legible) (fuel depth : Nat)
    {rest : List Char} (ends : EndsNumber rest) :
    readValue (fuel + 1) depth (number.chars ++ rest) = (.number number, some rest) := by
  rcases legible with ⟨literal, read, valued⟩
  rcases head_of_readNumber read with ⟨char, others, written, starts⟩
  have readOn := readNumber_append ends read
  rw [written, List.nil_append] at readOn
  rw [written, List.cons_append, readValue_number starts, ← List.cons_append, readOn]
  simp only [valued]

/-! Values. -/

mutual
/-- What the text of a value reads as while `depth` more brackets may be opened. -/
def Document.within : (depth : Nat) → Json → Document
  | _, .null => .null
  | _, .bool value => .bool value
  | _, .number value => .number value
  | _, .string text => .string text
  | 0, .array _ | 0, .object _ => .unfit
  | depth + 1, .array items => .array (Document.itemsWithin depth items)
  | depth + 1, .object members => .object (Document.membersWithin depth members)

def Document.itemsWithin : (depth : Nat) → List Json → List Document
  | _, [] => []
  | depth, item :: rest => Document.within depth item :: Document.itemsWithin depth rest

def Document.membersWithin : (depth : Nat) → List (String × Json) → List (String × Document)
  | _, [] => []
  | depth, (key, value) :: rest =>
      (key, Document.within depth value) :: Document.membersWithin depth rest
end

theorem head_chars {value : Json} (legible : ∀ number ∈ value.numbers, number.Legible) :
    ∃ char rest, value.chars = char :: rest ∧ isJsonBlank char = false ∧ char ≠ ']' := by
  cases value with
  | null => exact ⟨'n', _, rfl, rfl, by decide⟩
  | bool value => cases value <;> exact ⟨_, _, rfl, rfl, by decide⟩
  | number number =>
      rcases legible number List.mem_cons_self with ⟨literal, read, _⟩
      rcases head_of_readNumber read with ⟨char, rest, written, rfl | digit⟩
      · exact ⟨_, rest, written, rfl, by decide⟩
      · refine ⟨char, rest, written, isJsonBlank_eq_false_of_isNumeric (isNumeric_of_isDigit digit), ?_⟩
        rintro rfl
        cases digit
  | string text => exact ⟨'"', _, rfl, rfl, by decide⟩
  | array items => exact ⟨'[', _, rfl, rfl, by decide⟩
  | object members => exact ⟨'{', _, rfl, rfl, by decide⟩

theorem endsNumber_of_separator (char : Char) (separates : char = ',' ∨ char = ']' ∨ char = '}')
    (rest : List Char) : EndsNumber (char :: rest) := by
  apply endsNumber_cons
  rcases separates with rfl | rfl | rfl <;> decide

theorem readValue_array {char : Char} (visible : isJsonBlank char = false) (opens : char ≠ ']')
    (fuel depth : Nat) (input : List Char) :
    readValue (fuel + 1) depth ('[' :: char :: input) =
      let (items, rest) := readItems (readValue fuel (depth - 1)) fuel (char :: input)
      withinDepth depth (.array items) rest := by
  rw [readValue, skipBlanks_cons _ rfl]
  simp only [skipBlanks_cons _ visible]
  split
  · next equal => exact absurd (List.cons.inj equal).1 opens
  · rfl

theorem readValue_object (fuel depth : Nat) (input : List Char) :
    readValue (fuel + 1) depth ('{' :: '"' :: input) =
      let (members, rest) := readMembers (readValue fuel (depth - 1)) fuel ('"' :: input)
      withinDepth depth (.object members) rest :=
  rfl

theorem withinDepth_array (depth : Nat) (items : List Json) (rest : List Char) :
    withinDepth depth (.array (Document.itemsWithin (depth - 1) items)) (some rest) =
      (.within depth (.array items), some rest) := by
  cases depth <;> rfl

theorem withinDepth_object (depth : Nat) (members : List (String × Json)) (rest : List Char) :
    withinDepth depth (.object (Document.membersWithin (depth - 1) members)) (some rest) =
      (.within depth (.object members), some rest) := by
  cases depth <;> rfl

theorem exists_membersChars (key : String) (value : Json) (members : List (String × Json)) :
    ∃ rest, Json.membersChars ((key, value) :: members) = '"' :: rest := by
  cases members <;> exact ⟨_, rfl⟩

theorem readMember_chars {readOne : List Char → Document × Remaining} {value : Document}
    {input : List Char} {rest : Remaining} (key : String) (read : readOne input = (value, rest)) :
    readMember readOne (quotedChars key.toList ++ ':' :: input) = ((key, value), rest) := by
  rw [quotedChars, List.cons_append, List.append_assoc, List.singleton_append, readMember,
    skipBlanks_cons _ rfl]
  simp only [readString_quoted, skipBlanks_cons ':' rfl, read]

/-! The induction is on the value. What follows a value ends a number, and the fuel
covers the text, so that it covers the texts of the parts as well. -/

mutual
theorem readValue_chars : ∀ (value : Json) (_ : ∀ number ∈ value.numbers, number.Legible)
    (fuel : Nat) (_ : value.chars.length ≤ fuel + 1) (depth : Nat) {rest : List Char}
    (_ : EndsNumber rest),
      readValue (fuel + 1) depth (value.chars ++ rest) = (.within depth value, some rest)
  | .null, _, _, _, depth, _, _ => by
      cases depth <;> rfl
  | .bool true, _, _, _, depth, _, _ => by
      cases depth <;> rfl
  | .bool false, _, _, _, depth, _, _ => by
      cases depth <;> rfl
  | .number number, legible, _, _, depth, rest, ends => by
      rw [Json.chars, readValue_chars_number (legible number List.mem_cons_self) _ _ ends]
      cases depth <;> rfl
  | .string text, _, _, _, depth, rest, _ => by
      rw [Json.chars, quotedChars, List.cons_append, List.append_assoc, List.singleton_append,
        readValue, skipBlanks_cons _ rfl]
      simp only [readString_quoted]
      cases depth <;> rfl
  | .array [], _, _, _, depth, rest, _ => by
      cases depth <;> rfl
  | .array (item :: items), legible, fuel, enough, depth, rest, _ => by
      rw [Json.numbers] at legible
      rw [Json.chars, List.length_cons, Nat.add_le_add_iff_right] at enough
      have readAll := readItems_itemsChars item items legible _ _ enough enough (depth - 1) rest
      have itemLegible : ∀ number ∈ item.numbers, number.Legible := fun number member =>
        legible number (List.mem_append_left _ member)
      rcases head_chars itemLegible with ⟨char, others, written, visible, opens⟩
      have starts : ∃ others, Json.itemsChars (item :: items) ++ rest = char :: others := by
        cases items <;> exact ⟨_, by rw [Json.itemsChars, written]; rfl⟩
      rcases starts with ⟨others, equal⟩
      rw [Json.chars, List.cons_append, equal, readValue_array visible opens, ← equal, readAll]
      exact withinDepth_array depth (item :: items) rest
  | .object [], _, _, _, depth, rest, _ => by
      cases depth <;> rfl
  | .object ((key, value) :: members), legible, fuel, enough, depth, rest, _ => by
      rw [Json.numbers] at legible
      rw [Json.chars, List.length_cons, Nat.add_le_add_iff_right] at enough
      have readAll := readMembers_membersChars key value members legible _ _ enough enough
        (depth - 1) rest
      rcases exists_membersChars key value members with ⟨others, equal⟩
      rw [Json.chars, List.cons_append, equal, List.cons_append, readValue_object,
        ← List.cons_append, ← equal, readAll]
      exact withinDepth_object depth ((key, value) :: members) rest
termination_by value => sizeOf value

theorem readItems_itemsChars : ∀ (item : Json) (items : List Json)
    (_ : ∀ number ∈ Json.itemsNumbers (item :: items), number.Legible) (readFuel itemFuel : Nat)
    (_ : (Json.itemsChars (item :: items)).length ≤ readFuel)
    (_ : (Json.itemsChars (item :: items)).length ≤ itemFuel) (depth : Nat) (rest : List Char),
      readItems (readValue readFuel depth) itemFuel (Json.itemsChars (item :: items) ++ rest) =
        (Document.itemsWithin depth (item :: items), some rest)
  | item, [], legible, readFuel, itemFuel, readEnough, itemEnough, depth, rest => by
      rw [Json.itemsChars, List.length_append, List.length_singleton] at readEnough itemEnough
      rcases Nat.exists_eq_succ_of_ne_zero (n := readFuel) (by omega) with ⟨readFuel, rfl⟩
      rcases Nat.exists_eq_succ_of_ne_zero (n := itemFuel) (by omega) with ⟨itemFuel, rfl⟩
      have readOne := readValue_chars item (fun number member =>
        legible number (List.mem_append_left _ member)) readFuel (by omega) depth
        (endsNumber_of_separator ']' (by simp) rest)
      rw [Json.itemsChars, List.append_assoc, List.singleton_append, readItems, readOne]
      simp only [skipBlanks_cons ']' rfl]
      rfl
  | item, next :: items, legible, readFuel, itemFuel, readEnough, itemEnough, depth, rest => by
      rw [Json.itemsChars, List.length_append, List.length_cons] at readEnough itemEnough
      rcases Nat.exists_eq_succ_of_ne_zero (n := readFuel) (by omega) with ⟨readFuel, rfl⟩
      rcases Nat.exists_eq_succ_of_ne_zero (n := itemFuel) (by omega) with ⟨itemFuel, rfl⟩
      have readOne := readValue_chars item (fun number member =>
        legible number (List.mem_append_left _ member)) readFuel (by omega) depth
        (endsNumber_of_separator ',' (by simp) (Json.itemsChars (next :: items) ++ rest))
      have readOthers := readItems_itemsChars next items (fun number member =>
        legible number (List.mem_append_right _ member)) (readFuel + 1)
        itemFuel (by omega) (by omega) depth rest
      rw [Json.itemsChars, List.append_assoc, List.cons_append, readItems, readOne]
      simp only [skipBlanks_cons ',' rfl, readOthers]
      rfl
termination_by item items => sizeOf (item :: items)

theorem readMembers_membersChars : ∀ (key : String) (value : Json) (members : List (String × Json))
    (_ : ∀ number ∈ Json.membersNumbers ((key, value) :: members), number.Legible)
    (readFuel memberFuel : Nat)
    (_ : (Json.membersChars ((key, value) :: members)).length ≤ readFuel)
    (_ : (Json.membersChars ((key, value) :: members)).length ≤ memberFuel) (depth : Nat)
    (rest : List Char),
      readMembers (readValue readFuel depth) memberFuel
          (Json.membersChars ((key, value) :: members) ++ rest) =
        (Document.membersWithin depth ((key, value) :: members), some rest)
  | key, value, [], legible, readFuel, memberFuel, readEnough, memberEnough, depth, rest => by
      simp only [Json.membersChars, List.length_append, List.length_cons, List.length_nil]
        at readEnough memberEnough
      rcases Nat.exists_eq_succ_of_ne_zero (n := readFuel) (by omega) with ⟨readFuel, rfl⟩
      rcases Nat.exists_eq_succ_of_ne_zero (n := memberFuel) (by omega) with ⟨memberFuel, rfl⟩
      have readOne := readValue_chars value (fun number member =>
        legible number (List.mem_append_left _ member)) readFuel (by omega) depth
        (endsNumber_of_separator '}' (by simp) rest)
      rw [Json.membersChars, List.append_assoc, List.cons_append, List.append_assoc,
        List.singleton_append, readMembers, readMember_chars key readOne]
      simp only [skipBlanks_cons '}' rfl]
      rfl
  | key, value, (nextKey, nextValue) :: members, legible, readFuel, memberFuel, readEnough,
      memberEnough, depth, rest => by
      simp only [Json.membersChars, List.length_append, List.length_cons]
        at readEnough memberEnough
      rcases Nat.exists_eq_succ_of_ne_zero (n := readFuel) (by omega) with ⟨readFuel, rfl⟩
      rcases Nat.exists_eq_succ_of_ne_zero (n := memberFuel) (by omega) with ⟨memberFuel, rfl⟩
      have readOne := readValue_chars value (fun number member =>
        legible number (List.mem_append_left _ member)) readFuel (by omega) depth
        (endsNumber_of_separator ',' (by simp)
          (Json.membersChars ((nextKey, nextValue) :: members) ++ rest))
      have readOthers := readMembers_membersChars nextKey nextValue members (fun number member =>
        legible number (List.mem_append_right _ member)) (readFuel + 1)
        memberFuel (by omega) (by omega) depth rest
      rw [Json.membersChars, List.append_assoc, List.cons_append, List.append_assoc,
        List.cons_append, readMembers, readMember_chars key readOne]
      simp only [skipBlanks_cons ',' rfl, readOthers]
      rfl
termination_by key value members => sizeOf ((key, value) :: members)
end

/-! The value of what was read. -/

namespace Object

theorem place_of_above {key : String} {value : Json} :
    ∀ {members : List (String × Json)}, (∀ other ∈ members.map Prod.fst, other < key) →
      place key value members = members ++ [(key, value)]
  | [], _ => rfl
  | (other, present) :: rest, above => by
      have below : other < key := above other List.mem_cons_self
      have notAbove : ¬ key < other := String.lt_asymm below
      have different : key ≠ other := by
        rintro rfl
        exact notAbove below
      rw [place, if_neg notAbove, if_neg different,
        place_of_above fun next member => above next (List.mem_cons_of_mem _ member)]
      rfl

theorem members_foldl_insert :
    ∀ (later : List (String × Json)) (object : Object),
      ((object.members ++ later).map Prod.fst).Pairwise (· < ·) →
        (later.foldl (fun object (key, value) => object.insert key value) object).members =
          object.members ++ later
  | [], object, _ => (List.append_nil _).symm
  | (key, value) :: later, object, ordered => by
      have above : ∀ other ∈ object.members.map Prod.fst, other < key := by
        intro other present
        rw [List.map_append, List.pairwise_append] at ordered
        exact ordered.2.2 other present key List.mem_cons_self
      have inserted : (object.insert key value).members = object.members ++ [(key, value)] :=
        place_of_above above
      rw [List.foldl_cons, members_foldl_insert later _ (by rw [inserted]; simpa using ordered),
        inserted, List.append_assoc]
      rfl

theorem members_ofList {members : List (String × Json)}
    (ascending : (members.map Prod.fst).Pairwise (· < ·)) : (ofList members).members = members :=
  members_foldl_insert members empty ascending

end Object

mutual
theorem inOrder_of_wellFormed : ∀ {value : Json} (_ : value.WellFormed), value.inOrder = value
  | .null, _ | .bool _, _ | .number _, _ | .string _, _ => rfl
  | .array items, wellFormed => by
      rw [Json.WellFormed] at wellFormed
      rw [Json.inOrder, itemsInOrder_of_wellFormed wellFormed]
  | .object members, wellFormed => by
      rw [Json.WellFormed] at wellFormed
      rw [Json.inOrder, membersInOrder_of_wellFormed wellFormed.2, Object.toJson,
        Object.members_ofList wellFormed.1]

theorem itemsInOrder_of_wellFormed : ∀ {items : List Json} (_ : Json.ItemsWellFormed items),
    Json.itemsInOrder items = items
  | [], _ => rfl
  | item :: rest, wellFormed => by
      rw [Json.ItemsWellFormed] at wellFormed
      rw [Json.itemsInOrder, inOrder_of_wellFormed wellFormed.1,
        itemsInOrder_of_wellFormed wellFormed.2]

theorem membersInOrder_of_wellFormed : ∀ {members : List (String × Json)}
    (_ : Json.MembersWellFormed members), Json.membersInOrder members = members
  | [], _ => rfl
  | (key, value) :: rest, wellFormed => by
      rw [Json.MembersWellFormed] at wellFormed
      rw [Json.membersInOrder, inOrder_of_wellFormed wellFormed.1,
        membersInOrder_of_wellFormed wellFormed.2]
end

mutual
theorem value?_within : ∀ (value : Json) (depth : Nat),
    (Document.within depth value).value? =
      if value.depth ≤ depth then some value.inOrder else none
  | .null, depth => by cases depth <;> rfl
  | .bool _, depth => by cases depth <;> rfl
  | .number _, depth => by cases depth <;> rfl
  | .string _, depth => by cases depth <;> rfl
  | .array items, 0 => rfl
  | .array items, depth + 1 => by
      rw [Document.within, Document.value?, values?_itemsWithin, Json.depth]
      simp only [Nat.add_le_add_iff_right]
      split <;> rfl
  | .object members, 0 => rfl
  | .object members, depth + 1 => by
      rw [Document.within, Document.value?, memberValues?_membersWithin, Json.depth]
      simp only [Nat.add_le_add_iff_right]
      split <;> rfl

theorem values?_itemsWithin : ∀ (items : List Json) (depth : Nat),
    Document.values? (Document.itemsWithin depth items) =
      if Json.itemsDepth items ≤ depth then some (Json.itemsInOrder items) else none
  | [], _ => rfl
  | item :: rest, depth => by
      rw [Document.itemsWithin, Document.values?, value?_within, values?_itemsWithin,
        Json.itemsDepth, Json.itemsInOrder]
      simp only [Nat.max_le]
      by_cases first : item.depth ≤ depth <;> by_cases others : Json.itemsDepth rest ≤ depth <;>
        simp [first, others]

theorem memberValues?_membersWithin : ∀ (members : List (String × Json)) (depth : Nat),
    Document.memberValues? (Document.membersWithin depth members) =
      if Json.membersDepth members ≤ depth then some (Json.membersInOrder members) else none
  | [], _ => rfl
  | (key, value) :: rest, depth => by
      rw [Document.membersWithin, Document.memberValues?, value?_within,
        memberValues?_membersWithin, Json.membersDepth, Json.membersInOrder]
      simp only [Nat.max_le]
      by_cases first : value.depth ≤ depth <;>
        by_cases others : Json.membersDepth rest ≤ depth <;> simp [first, others]
end

/-! Numbers read back. Their texts have no blanks, so that nothing of them is left
over. -/

/-- A number was read from its literal, and an object from an opening brace. -/
def Document.ReadFrom (input : List Char) (left : Remaining) : Document → Prop
  | .number found =>
      ∃ literal rest, readNumber (skipBlanks input) = some (literal, rest) ∧
        literal.value? = some found ∧ left = some rest
  | .object _ => ∃ rest, skipBlanks input = '{' :: rest
  | _ => True

theorem readFrom_withinDepth {input : List Char} {depth : Nat} {value : Document}
    {rest : Remaining} (readFrom : ∀ left, value.ReadFrom input left) :
    (withinDepth depth value rest).1.ReadFrom input (withinDepth depth value rest).2 := by
  rw [withinDepth]
  split
  · dsimp only
    split <;> exact trivial
  · exact readFrom rest

theorem readFrom_readValue (fuel depth : Nat) (input : List Char) :
    (readValue fuel depth input).1.ReadFrom input (readValue fuel depth input).2 := by
  cases fuel with
  | zero => exact trivial
  | succ fuel =>
      rw [readValue]
      split
      · exact trivial
      · exact trivial
      · exact trivial
      · rw [readString]
        split
        · exact trivial
        · split <;> exact trivial
      · split <;> exact readFrom_withinDepth fun _ => trivial
      · next rest opened => split <;> exact readFrom_withinDepth fun _ => ⟨rest, opened⟩
      · split
        · exact trivial
        · next literal rest found =>
            split
            · next value valued => exact ⟨literal, rest, found, valued, rfl⟩
            · exact trivial

theorem eq_number_of_value? {document : Document} {number : Number}
    (valued : document.value? = some (.number number)) : document = .number number := by
  cases document with
  | number found => exact congrArg Document.number (Json.number.inj (Option.some.inj valued))
  | array items =>
      rw [Document.value?, Option.map_eq_some_iff] at valued
      rcases valued with ⟨_, _, equal⟩
      cases equal
  | object members =>
      rw [Document.value?, Option.map_eq_some_iff] at valued
      rcases valued with ⟨_, _, equal⟩
      cases equal
  | _ => cases valued

theorem legible_of_read {number : Number}
    (readsBack : Json.read (Json.number number).render = some (.number number)) :
    number.Legible := by
  have visible : ∀ char ∈ number.chars, isJsonBlank char = false := fun char member =>
    isJsonBlank_eq_false_of_isNumeric (numeric_numberChars number char member)
  have noBlanks : ∀ {text : List Char}, (∀ char ∈ text, isJsonBlank char = false) →
      skipBlanks text = text := by
    intro text allVisible
    cases text with
    | nil => rfl
    | cons char rest => exact skipBlanks_cons char (allVisible char List.mem_cons_self) rest
  rw [Json.read, Json.render, String.toList_ofList, Json.chars] at readsBack
  split at readsBack
  · next document read =>
      rw [eq_number_of_value? readsBack, Document.read] at read
      split at read
      · next found left readFound =>
          rw [Prod.mk.injEq] at read
          rcases read with ⟨rfl, ended⟩
          have readFrom := readFrom_readValue (number.chars.length + 1) maximalDepth number.chars
          rw [readFound] at readFrom
          rcases readFrom with ⟨literal, rest, readLiteral, valued, equal⟩
          cases equal
          rw [noBlanks visible] at readLiteral
          -- What is left is part of the text, and a part without blanks is empty.
          have restVisible : ∀ char ∈ left, isJsonBlank char = false := fun char member =>
            visible char ((readNumber_suffix readLiteral).subset member)
          rw [noBlanks restVisible, List.isEmpty_iff] at ended
          exact ⟨literal, by rw [readLiteral, ended], valued⟩
      · cases read
  · cases readsBack

namespace Json

mutual
theorem fits_of_mem_numbers {integer : Int} : ∀ {value : Json} (_ : value.WellFormed)
    (_ : .integer integer ∈ value.numbers), FitsWord integer
  | .number _, wellFormed, member => by
      rw [numbers, List.mem_singleton] at member
      subst member
      rwa [WellFormed] at wellFormed
  | .array items, wellFormed, member => by
      rw [WellFormed] at wellFormed
      exact fits_of_mem_itemsNumbers wellFormed member
  | .object members, wellFormed, member => by
      rw [WellFormed] at wellFormed
      exact fits_of_mem_membersNumbers wellFormed.2 member

theorem fits_of_mem_itemsNumbers {integer : Int} : ∀ {items : List Json}
    (_ : ItemsWellFormed items) (_ : .integer integer ∈ itemsNumbers items),
      FitsWord integer
  | item :: rest, wellFormed, member => by
      rw [ItemsWellFormed] at wellFormed
      rcases List.mem_append.mp member with first | others
      · exact fits_of_mem_numbers wellFormed.1 first
      · exact fits_of_mem_itemsNumbers wellFormed.2 others

theorem fits_of_mem_membersNumbers {integer : Int} : ∀ {members : List (String × Json)}
    (_ : MembersWellFormed members) (_ : .integer integer ∈ membersNumbers members),
      FitsWord integer
  | (_, value) :: rest, wellFormed, member => by
      rw [MembersWellFormed] at wellFormed
      rcases List.mem_append.mp member with first | others
      · exact fits_of_mem_numbers wellFormed.1 first
      · exact fits_of_mem_membersNumbers wellFormed.2 others
end

theorem legible_of_mem_numbers {value : Json} (fit : value.IntegersFit)
    (doubles : value.DoublesReadBack) : ∀ number ∈ value.numbers, number.Legible := by
  intro number member
  cases number with
  | integer integer => exact legible_integer (fit integer member)
  | float double => exact legible_of_read (doubles double member)

theorem read_render_inOrder {value : Json} (fit : value.IntegersFit)
    (doubles : value.DoublesReadBack) :
    Json.read value.render = if value.depth ≤ maximalDepth then some value.inOrder else none := by
  have readAll := readValue_chars value (legible_of_mem_numbers fit doubles)
    value.chars.length (Nat.le_succ _) maximalDepth endsNumber_nil
  rw [List.append_nil] at readAll
  rw [Json.read, render, String.toList_ofList, Document.read, readAll]
  exact value?_within value maximalDepth

/-- The text of a value reads as the value, if its brackets are not nested too deep;
otherwise the text is refused. -/
theorem read_render {value : Json} (wellFormed : value.WellFormed)
    (doubles : value.DoublesReadBack) :
    Json.read value.render = if value.depth ≤ maximalDepth then some value else none := by
  have fit : value.IntegersFit := fun integer member => fits_of_mem_numbers wellFormed member
  rw [read_render_inOrder fit doubles, inOrder_of_wellFormed wellFormed]

end Json

/-! Only the text of an object reads as an object. -/

theorem exists_object_of_value? {document : Document} {members : List (String × Json)}
    (valued : document.value? = some (.object members)) :
    ∃ documents, document = .object documents := by
  cases document with
  | object documents => exact ⟨documents, rfl⟩
  | array items =>
      rw [Document.value?, Option.map_eq_some_iff] at valued
      rcases valued with ⟨_, _, equal⟩
      cases equal
  | _ => cases valued

namespace Json

theorem opens_of_read_object {text : String} {members : List (String × Json)}
    (read : Json.read text = some (.object members)) :
    ∃ rest, skipBlanks text.toList = '{' :: rest := by
  rw [Json.read] at read
  split at read
  · next document found =>
      rcases exists_object_of_value? read with ⟨documents, rfl⟩
      rw [Document.read] at found
      split at found
      · next readFound =>
          have readFrom := readFrom_readValue (text.toList.length + 1) maximalDepth text.toList
          rw [readFound, (Prod.mk.inj found).1] at readFrom
          exact readFrom
      · cases found
  · cases read

theorem read_render_ne_object {value : Json} (noObject : value.isObject = false)
    (members : List (String × Json)) : Json.read value.render ≠ some (.object members) := by
  intro read
  rcases opens_of_read_object read with ⟨rest, opened⟩
  rw [render, String.toList_ofList] at opened
  cases value with
  | object members => cases noObject
  | number number =>
      have left : '{' ∈ skipBlanks number.chars := by
        rw [chars] at opened
        rw [opened]
        exact List.mem_cons_self
      cases numeric_numberChars number '{' ((List.dropWhile_suffix isJsonBlank).subset left)
  | bool value => cases value <;> cases opened
  | _ => cases opened

end Json

end ChatGateway

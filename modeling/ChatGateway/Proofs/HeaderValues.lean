import ChatGateway.Exchange
import ChatGateway.Proofs.TextParts

namespace ChatGateway

/-! What the headers of a request tell. A header tells a word when its value is the word
in visible ASCII, whatever blanks stand around it. -/

namespace Text

/-! Trimming. -/

theorem dropWhile_eq_iff {drop : Char → Bool} {text rest : List Char} :
    text.dropWhile drop = rest ↔
      ∃ front, text = front ++ rest ∧ (∀ char ∈ front, drop char = true) ∧
        ∀ char ∈ rest.head?, drop char = false := by
  constructor
  · intro dropped
    refine ⟨text.takeWhile drop, ?_, fun char => List.mem_takeWhile_imp, ?_⟩
    · rw [← dropped, List.takeWhile_append_dropWhile]
    · intro char first
      have head := List.head?_dropWhile_not drop text
      rw [dropped, Option.mem_def.mp first] at head
      simpa using head
  · rintro ⟨front, rfl, blank, starts⟩
    rw [List.dropWhile_append_of_pos blank]
    cases rest with
    | nil => rfl
    | cons char rest => rw [List.dropWhile_cons_of_neg (by simp [starts char rfl])]

theorem trimChars_eq_iff {text word : List Char} (visible : word ≠ []) :
    trimChars text = word ↔
      ∃ front back, text = front ++ word ++ back ∧
        (∀ char ∈ front ++ back, isBlank char = true) ∧
        (∀ char ∈ word.head?, isBlank char = false) ∧
        ∀ char ∈ word.getLast?, isBlank char = false := by
  rw [trimChars, List.reverse_eq_iff, dropWhile_eq_iff, List.head?_reverse]
  constructor
  · rintro ⟨back, reversed, backBlank, ends⟩
    rcases dropWhile_eq_iff.mp rfl with ⟨front, split, frontBlank, starts⟩
    have inner : text.dropWhile isBlank = word ++ back.reverse := by
      rw [List.reverse_eq_iff.mp reversed, List.reverse_append, List.reverse_reverse]
    rw [inner] at split starts
    rw [List.head?_append_of_ne_nil _ visible] at starts
    refine ⟨front, back.reverse, by rw [split, List.append_assoc], ?_, starts, ends⟩
    intro char inside
    rcases List.mem_append.mp inside with before | after
    · exact frontBlank char before
    · exact backBlank char (List.mem_reverse.mp after)
  · rintro ⟨front, back, rfl, blank, starts, ends⟩
    have inner : (front ++ word ++ back).dropWhile isBlank = word ++ back := by
      refine dropWhile_eq_iff.mpr ⟨front, by rw [List.append_assoc], ?_, ?_⟩
      · exact fun char inside => blank char (List.mem_append_left _ inside)
      · rwa [List.head?_append_of_ne_nil _ visible]
    refine ⟨back.reverse, by rw [inner, List.reverse_append], ?_, ends⟩
    exact fun char inside =>
      blank char (List.mem_append_right _ (List.mem_reverse.mp inside))

/-! Visible ASCII. -/

def IsVisible (char : Char) : Prop :=
  char = '\t' ∨ ' ' ≤ char ∧ char ≤ '~'

theorem isVisible_iff {char : Char} :
    IsVisible char ↔ char.toNat = 9 ∨ 32 ≤ char.toNat ∧ char.toNat ≤ 126 := by
  have tab : char = '\t' ↔ char.toNat = 9 := Char.toNat_inj.symm
  have above : ' ' ≤ char ↔ 32 ≤ char.toNat := UInt32.le_iff_toNat_le
  have below : char ≤ '~' ↔ char.toNat ≤ 126 := UInt32.le_iff_toNat_le
  rw [IsVisible, tab, above, below]

theorem IsVisible.isBlank_iff {char : Char} (visible : IsVisible char) :
    isBlank char = true ↔ char = ' ' ∨ char = '\t' := by
  have blank : char = ' ' ↔ char.toNat = 32 := Char.toNat_inj.symm
  have tab : char = '\t' ↔ char.toNat = 9 := Char.toNat_inj.symm
  have code := isVisible_iff.mp visible
  rw [isBlank, blank, tab]
  simp only [Bool.or_eq_true, Bool.and_eq_true, decide_eq_true_eq, beq_iff_eq]
  omega

theorem IsVisible.isBlank_eq_false_iff {char : Char} (visible : IsVisible char) :
    isBlank char = false ↔ char ≠ ' ' ∧ char ≠ '\t' := by
  rw [← Bool.not_eq_true, visible.isBlank_iff, not_or]

theorem utf8EncodeChar_of_visible {char : Char} (visible : IsVisible char) :
    String.utf8EncodeChar char = [char.toUInt8] := by
  apply String.utf8EncodeChar_eq_singleton
  have code := isVisible_iff.mp visible
  have value : char.val.toNat = char.toNat := rfl
  rw [Char.utf8Size_eq_one_iff, UInt32.le_iff_toNat_le, value]
  have most : (127 : UInt32).toNat = 127 := rfl
  omega

theorem bytes_of_visible {chars : List Char} (visible : ∀ char ∈ chars, IsVisible char) :
    (String.ofList chars).toUTF8.data.toList = chars.map Char.toUInt8 := by
  rw [String.toUTF8_eq_toByteArray, String.toByteArray_ofList, List.utf8Encode,
    List.data_toByteArray]
  induction chars with
  | nil => rfl
  | cons char rest induction =>
      rw [List.forall_mem_cons] at visible
      rw [List.flatMap_cons, utf8EncodeChar_of_visible visible.1, List.map_cons]
      exact congrArg (char.toUInt8 :: ·) (induction visible.2)

end Text

namespace Header

open Text

theorem toNat_ofNat_byte (byte : UInt8) : (Char.ofNat byte.toNat).toNat = byte.toNat := by
  have valid : byte.toNat.isValidChar := .inl (by have := byte.toNat_lt; omega)
  have made : Char.ofNat byte.toNat = Char.ofNatAux byte.toNat valid := dif_pos valid
  rw [made]
  rfl

theorem toUInt8_ofNat_byte (byte : UInt8) : (Char.ofNat byte.toNat).toUInt8 = byte := by
  rw [← UInt8.toNat_inj]
  have code : (Char.ofNat byte.toNat).toUInt8.toNat = (Char.ofNat byte.toNat).toNat % 256 := rfl
  rw [code, toNat_ofNat_byte]
  exact Nat.mod_eq_of_lt byte.toNat_lt

theorem ofNat_toUInt8_of_visible {char : Char} (visible : IsVisible char) :
    Char.ofNat char.toUInt8.toNat = char := by
  have code : char.toUInt8.toNat = char.toNat % 256 := rfl
  have small := isVisible_iff.mp visible
  rw [code, Nat.mod_eq_of_lt (by omega), Char.ofNat_toNat]

theorem visible_byte_iff (byte : UInt8) :
    (byte = 9 || (32 ≤ byte && byte < 127)) = true ↔ IsVisible (Char.ofNat byte.toNat) := by
  rw [isVisible_iff, toNat_ofNat_byte]
  simp only [Bool.or_eq_true, Bool.and_eq_true, decide_eq_true_eq, ← UInt8.toNat_inj,
    UInt8.le_iff_toNat_le, UInt8.lt_iff_toNat_lt, UInt8.reduceToNat]
  omega

theorem text?_eq_some_iff {header : Header} {text : String} :
    header.text? = some text ↔
      header.value = text.toUTF8 ∧ ∀ char ∈ text.toList, IsVisible char := by
  have each : (header.value.data.toList.all
      fun byte => byte = 9 || (32 ≤ byte && byte < 127)) = true ↔
        ∀ byte ∈ header.value.data.toList, IsVisible (Char.ofNat byte.toNat) := by
    rw [List.all_eq_true]
    exact forall₂_congr fun byte _ => visible_byte_iff byte
  constructor
  · intro taken
    rw [text?] at taken
    split at taken
    · next allVisible =>
        cases taken
        have visible := List.forall_mem_map.mpr (each.mp allVisible)
        refine ⟨?_, by rwa [String.toList_ofList]⟩
        apply ByteArray.ext
        rw [← Array.toList_inj, bytes_of_visible visible, List.map_map]
        refine (List.map_id'' (fun byte => ?_) _).symm
        exact toUInt8_ofNat_byte byte
    · cases taken
  · rintro ⟨value, visible⟩
    have bytes : header.value.data.toList = text.toList.map Char.toUInt8 := by
      rw [value, ← bytes_of_visible visible, String.ofList_toList]
    have characters : header.value.data.toList.map (fun byte => Char.ofNat byte.toNat) =
        text.toList := by
      rw [bytes, List.map_map]
      exact (List.map_congr_left fun char inside =>
        ofNat_toUInt8_of_visible (visible char inside)).trans (List.map_id _)
    have allVisible : ∀ byte ∈ header.value.data.toList, IsVisible (Char.ofNat byte.toNat) := by
      rw [← List.forall_mem_map (P := IsVisible), characters]
      exact visible
    rw [text?, if_pos (each.mpr allVisible), characters, String.ofList_toList]

/-- The value of the header is the word in visible ASCII, with nothing but blanks and tabs
around it. The word is not empty and has no blank or tab at its ends. -/
def Tells (header : Header) (word : String) : Prop :=
  ∃ front back : List Char,
    header.value = (String.ofList (front ++ word.toList ++ back)).toUTF8 ∧
    (∀ char ∈ word.toList, char = '\t' ∨ ' ' ≤ char ∧ char ≤ '~') ∧
    (∀ char ∈ front ++ back, char = ' ' ∨ char = '\t') ∧
    word ≠ "" ∧
    (∀ char ∈ word.toList.head?, char ≠ ' ' ∧ char ≠ '\t') ∧
    ∀ char ∈ word.toList.getLast?, char ≠ ' ' ∧ char ≠ '\t'

theorem notBlank?_eq_some_iff {text word : String} :
    notBlank? text = some word ↔ word ≠ "" ∧ trimChars text.toList = word.toList := by
  have trimmed : trim text = word ↔ trimChars text.toList = word.toList := by
    rw [trim, ← String.toList_inj, String.toList_ofList]
  rw [← trimmed, notBlank?]
  split
  · next empty =>
      constructor
      · intro taken
        cases taken
      · intro told
        exact absurd (told.2.symm.trans empty) told.1
  · next visible =>
      rw [Option.some_inj]
      refine ⟨?_, And.right⟩
      rintro rfl
      exact ⟨visible, rfl⟩

/-- What is taken of a header is what it tells. -/
theorem tells_iff {header : Header} {word : String} :
    header.text?.bind notBlank? = some word ↔ header.Tells word := by
  rw [Option.bind_eq_some_iff]
  constructor
  · rintro ⟨text, taken, trimmed⟩
    rcases text?_eq_some_iff.mp taken with ⟨value, visible⟩
    rcases notBlank?_eq_some_iff.mp trimmed with ⟨nonempty, trimmed⟩
    rcases (trimChars_eq_iff (String.toList_eq_nil_iff.not.mpr nonempty)).mp trimmed with
      ⟨front, back, split, blank, starts, ends⟩
    rw [split] at visible
    simp only [List.forall_mem_append] at visible blank
    rcases visible with ⟨⟨frontVisible, wordVisible⟩, backVisible⟩
    refine ⟨front, back, ?_, wordVisible, List.forall_mem_append.mpr ⟨?_, ?_⟩, nonempty, ?_, ?_⟩
    · rw [← split, String.ofList_toList, value]
    · exact fun char inside => (frontVisible char inside).isBlank_iff.mp (blank.1 char inside)
    · exact fun char inside => (backVisible char inside).isBlank_iff.mp (blank.2 char inside)
    · intro char first
      exact (wordVisible char (List.mem_of_mem_head? first)).isBlank_eq_false_iff.mp
        (starts char first)
    · intro char last
      exact (wordVisible char (List.mem_of_mem_getLast? last)).isBlank_eq_false_iff.mp
        (ends char last)
  · rintro ⟨front, back, value, visible, around, nonempty, starts, ends⟩
    have blank : ∀ char ∈ front ++ back, IsVisible char ∧ isBlank char = true := by
      intro char inside
      rcases around char inside with rfl | rfl
      · exact ⟨.inr (by decide), rfl⟩
      · exact ⟨.inl rfl, rfl⟩
    refine ⟨_, text?_eq_some_iff.mpr ⟨value, ?_⟩, notBlank?_eq_some_iff.mpr ⟨nonempty, ?_⟩⟩
    · rw [List.forall_mem_append] at blank
      rw [String.toList_ofList, List.forall_mem_append, List.forall_mem_append]
      exact ⟨⟨fun char inside => (blank.1 char inside).1, visible⟩,
        fun char inside => (blank.2 char inside).1⟩
    · rw [String.toList_ofList, trimChars_eq_iff (String.toList_eq_nil_iff.not.mpr nonempty)]
      refine ⟨front, back, rfl, fun char inside => (blank char inside).2, ?_, ?_⟩
      · exact fun char first => (IsVisible.isBlank_eq_false_iff
          (visible char (List.mem_of_mem_head? first))).mpr (starts char first)
      · exact fun char last => (IsVisible.isBlank_eq_false_iff
          (visible char (List.mem_of_mem_getLast? last))).mpr (ends char last)

/-- The user header that comes first names the user. -/
def NamesUser (headers : List Header) (user : String) : Prop :=
  ∃ before header after, headers = before ++ header :: after ∧
    (∀ earlier ∈ before, earlier.name ≠ "x-user-id") ∧ header.name = "x-user-id" ∧
    header.Tells user

/-- The words of the beta headers, in order. Headers that tell nothing do not count. -/
inductive BetaWords : List Header → List String → Prop
  | nil : BetaWords [] []
  | told {header : Header} {word : String} {headers : List Header} {words : List String}
      (isBeta : header.name = "anthropic-beta") (tells : header.Tells word)
      (others : BetaWords headers words) : BetaWords (header :: headers) (word :: words)
  | skipped {header : Header} {headers : List Header} {words : List String}
      (silent : header.name = "anthropic-beta" → ∀ word, ¬ header.Tells word)
      (others : BetaWords headers words) : BetaWords (header :: headers) words

def betaWords (headers : List Header) : List String :=
  (texts headers betaName).filterMap notBlank?

theorem betaWords_eq (headers : List Header) :
    betaWords headers =
      (headers.filter (·.name == betaName)).filterMap fun header => header.text?.bind notBlank? :=
  List.filterMap_filterMap

theorem betaWords_of_tells {header : Header} {word : String} (headers : List Header)
    (isBeta : header.name = "anthropic-beta") (tells : header.Tells word) :
    betaWords (header :: headers) = word :: betaWords headers := by
  rw [betaWords_eq, betaWords_eq, List.filter_cons_of_pos (by simp [isBeta, betaName])]
  exact List.filterMap_cons_some (tells_iff.mpr tells)

theorem betaWords_of_silent {header : Header} (headers : List Header)
    (silent : header.name = "anthropic-beta" → ∀ word, ¬ header.Tells word) :
    betaWords (header :: headers) = betaWords headers := by
  rw [betaWords_eq, betaWords_eq]
  by_cases isBeta : header.name = "anthropic-beta"
  · have nothing : header.text?.bind notBlank? = none := by
      rw [Option.eq_none_iff_forall_ne_some]
      exact fun word told => silent isBeta word (tells_iff.mp told)
    rw [List.filter_cons_of_pos (by simp [isBeta, betaName])]
    exact List.filterMap_cons_none nothing
  · rw [List.filter_cons_of_neg (by simp [isBeta, betaName])]

theorem betaWords_eq_iff {headers : List Header} {words : List String} :
    betaWords headers = words ↔ BetaWords headers words := by
  constructor
  · rintro rfl
    induction headers with
    | nil => exact .nil
    | cons header headers induction =>
        by_cases told : header.name = "anthropic-beta" ∧ ∃ word, header.Tells word
        · rcases told with ⟨isBeta, word, tells⟩
          rw [betaWords_of_tells headers isBeta tells]
          exact .told isBeta tells induction
        · have silent (isBeta : header.name = "anthropic-beta") (word) : ¬ header.Tells word :=
            fun tells => told ⟨isBeta, word, tells⟩
          rw [betaWords_of_silent headers silent]
          exact .skipped silent induction
  · intro words
    induction words with
    | nil => rfl
    | told isBeta tells _ induction => rw [betaWords_of_tells _ isBeta tells, induction]
    | skipped silent _ induction => rw [betaWords_of_silent _ silent, induction]

/-- The text that the beta headers make: their words with commas between them, and nothing
where there is no word. -/
def NamesBetas (headers : List Header) (betas : Option String) : Prop :=
  ∃ words, BetaWords headers words ∧
    betas = if words = [] then none else some (",".intercalate words)

theorem joinBetas_eq_iff {headers : List Header} {betas : Option String} :
    joinBetas (texts headers betaName) = betas ↔ NamesBetas headers betas := by
  have joined : joinBetas (texts headers betaName) =
      if betaWords headers = [] then none else some (",".intercalate (betaWords headers)) := by
    rw [joinBetas, betaWords]
    cases (texts headers betaName).filterMap notBlank? <;> rfl
  rw [joined, NamesBetas]
  simp only [← betaWords_eq_iff, exists_eq_left']
  exact eq_comm

end Header

end ChatGateway

import ChatGateway.Json.Printer
import ChatGateway.Json.Reader
import Mathlib.Data.List.TakeWhile

namespace ChatGateway

/-! Numbers in a text. A literal that was read from a whole text is read all the
same when the text goes on, as long as nothing follows that could continue a
number; and a 64-bit integer is read back from its digits. -/

/-- What follows is no part of a number. -/
def EndsNumber (rest : List Char) : Prop :=
  ∀ char ∈ rest.head?, char.isDigit = false ∧ char ≠ '.' ∧ char ≠ 'e' ∧ char ≠ 'E'

theorem endsNumber_nil : EndsNumber [] := by
  simp [EndsNumber]

theorem endsNumber_cons {char : Char} {rest : List Char}
    (other : char.isDigit = false ∧ char ≠ '.' ∧ char ≠ 'e' ∧ char ≠ 'E') :
    EndsNumber (char :: rest) := by
  simpa [EndsNumber] using other

/-! What is read does not depend on what follows. -/

theorem takeDigits_append {rest : List Char} (ends : EndsNumber rest) (input : List Char) :
    takeDigits (input ++ rest) = ((takeDigits input).1, (takeDigits input).2 ++ rest) := by
  induction input with
  | nil =>
      cases rest with
      | nil => rfl
      | cons char rest =>
          have noDigit := (ends char rfl).1
          simp [takeDigits, noDigit]
  | cons char input induction =>
      simp only [takeDigits, Prod.mk.injEq] at induction
      cases digit : char.isDigit with
      | true => simp [takeDigits, digit, induction]
      | false => simp [takeDigits, digit]

theorem readFraction_append {rest : List Char} (ends : EndsNumber rest) {input left : List Char}
    {fraction : Option (List Char)} (read : readFraction input = some (fraction, left)) :
    readFraction (input ++ rest) = some (fraction, left ++ rest) := by
  unfold readFraction at read
  split at read
  · next after =>
      rw [List.cons_append, readFraction, takeDigits_append ends]
      rcases digits : takeDigits after with ⟨run, remaining⟩
      rw [digits] at read
      cases run with
      | nil => cases read
      | cons digit run =>
          cases read
          rfl
  · next noPoint =>
      cases read
      unfold readFraction
      split
      · next after pointed =>
          cases input with
          | nil =>
              rw [List.nil_append] at pointed
              subst pointed
              exact absurd rfl (ends '.' rfl).2.1
          | cons char input =>
              rw [List.cons_append, List.cons.injEq] at pointed
              exact absurd (by rw [pointed.1]) (noPoint input)
      · rfl

def exponentSign : List Char → Bool × List Char
  | '+' :: rest => (false, rest)
  | '-' :: rest => (true, rest)
  | rest => (false, rest)

theorem readExponent_cons (mark : Char) (input : List Char) :
    readExponent (mark :: input) =
      if mark = 'e' ∨ mark = 'E' then
        match takeDigits (exponentSign input).2 with
        | ([], _) => none
        | (digits, left) => some (some ((exponentSign input).1, digits), left)
      else some (none, mark :: input) := rfl

theorem exponentSign_append {input : List Char} (nonempty : input ≠ []) (rest : List Char) :
    exponentSign (input ++ rest) = ((exponentSign input).1, (exponentSign input).2 ++ rest) := by
  cases input with
  | nil => exact absurd rfl nonempty
  | cons sign input =>
      by_cases plus : sign = '+'
      · subst plus
        rfl
      · by_cases minus : sign = '-'
        · subst minus
          rfl
        · simp [exponentSign, plus, minus]

theorem readExponent_append {rest : List Char} (ends : EndsNumber rest) {input left : List Char}
    {exponent : Option (Bool × List Char)} (read : readExponent input = some (exponent, left)) :
    readExponent (input ++ rest) = some (exponent, left ++ rest) := by
  cases input with
  | nil =>
      cases read
      cases rest with
      | nil => rfl
      | cons char rest =>
          have other := ends char rfl
          simp [readExponent, other]
  | cons mark input =>
      rw [readExponent_cons] at read
      rw [List.cons_append, readExponent_cons]
      split at read
      · next marked =>
          have nonempty : input ≠ [] := by
            rintro rfl
            cases read
          rw [if_pos marked, exponentSign_append nonempty, takeDigits_append ends]
          rcases digits : takeDigits (exponentSign input).2 with ⟨run, remaining⟩
          rw [digits] at read
          cases run with
          | nil => cases read
          | cons digit run =>
              cases read
              rfl
      · next unmarked =>
          cases read
          rw [if_neg unmarked]
          rfl

def numberSign : List Char → Bool × List Char
  | '-' :: rest => (true, rest)
  | rest => (false, rest)

def readTail (negative : Bool) (whole input : List Char) : Option (NumberLiteral × List Char) :=
  (readFraction input).bind fun (fraction, left) =>
    (readExponent left).map fun (exponent, left) => ({ negative, whole, fraction, exponent }, left)

theorem readNumber_eq (input : List Char) :
    readNumber input =
      match takeDigits (numberSign input).2 with
      | ([], _) | ('0' :: _ :: _, _) => none
      | (whole, left) => readTail (numberSign input).1 whole left :=
  rfl

theorem numberSign_append {input : List Char} (nonempty : input ≠ []) (rest : List Char) :
    numberSign (input ++ rest) = ((numberSign input).1, (numberSign input).2 ++ rest) := by
  cases input with
  | nil => exact absurd rfl nonempty
  | cons sign input =>
      by_cases minus : sign = '-'
      · subst minus
        rfl
      · simp [numberSign, minus]

theorem readTail_append {rest : List Char} (ends : EndsNumber rest) {negative : Bool}
    {whole input left : List Char} {literal : NumberLiteral}
    (read : readTail negative whole input = some (literal, left)) :
    readTail negative whole (input ++ rest) = some (literal, left ++ rest) := by
  rcases Option.bind_eq_some_iff.mp read with ⟨⟨fraction, afterFraction⟩, readFirst, found⟩
  rcases Option.map_eq_some_iff.mp found with ⟨⟨exponent, afterExponent⟩, readSecond, equal⟩
  cases equal
  simp only [readTail, readFraction_append ends readFirst, Option.bind_some,
    readExponent_append ends readSecond, Option.map_some]

theorem readNumber_append {rest : List Char} (ends : EndsNumber rest) {input left : List Char}
    {literal : NumberLiteral} (read : readNumber input = some (literal, left)) :
    readNumber (input ++ rest) = some (literal, left ++ rest) := by
  have nonempty : input ≠ [] := by
    rintro rfl
    cases read
  rw [readNumber_eq] at read
  rw [readNumber_eq, numberSign_append nonempty, takeDigits_append ends]
  rcases digits : takeDigits (numberSign input).2 with ⟨whole, remaining⟩
  rw [digits] at read
  split at read
  · cases read
  · cases read
  · next run after notEmpty notZero equal =>
      cases equal
      split
      · next equal =>
          cases equal
          exact (notEmpty rfl).elim
      · next equal =>
          cases equal
          exact (notZero _ _ rfl).elim
      · next equal =>
          cases equal
          exact readTail_append ends read

theorem head_of_readNumber {input left : List Char} {literal : NumberLiteral}
    (read : readNumber input = some (literal, left)) :
    ∃ char rest, input = char :: rest ∧ (char = '-' ∨ char.isDigit = true) := by
  cases input with
  | nil => cases read
  | cons char rest =>
      refine ⟨char, rest, rfl, ?_⟩
      by_cases minus : char = '-'
      · exact .inl minus
      · cases digit : char.isDigit with
        | true => exact .inr rfl
        | false => simp [readNumber_eq, numberSign, minus, takeDigits, digit] at read

/-! Integers. -/

theorem gatherDigits_of_lt {digits : List Char} {value : Nat}
    (small : Nat.ofDigitChars 10 digits value < Nat.pow 2 64) :
    gatherDigits value digits = (Nat.ofDigitChars 10 digits value, []) := by
  induction digits generalizing value with
  | nil => rfl
  | cons digit digits induction =>
      rw [Nat.ofDigitChars_cons] at small ⊢
      have grows : 10 * value + digitValue digit ≤
          Nat.ofDigitChars 10 digits (10 * value + digitValue digit) := by
        rw [Nat.ofDigitChars_eq_ofDigitChars_zero]
        exact Nat.le_add_right_of_le (Nat.le_mul_of_pos_left _ (Nat.pow_pos (by decide)))
      have fits : 10 * value + digitValue digit < Nat.pow 2 64 := Nat.lt_of_le_of_lt grows small
      rw [gatherDigits, if_pos fits]
      exact induction small

theorem head?_toDigits_ne_zero {number : Nat} (positive : 0 < number) :
    (Nat.toDigits 10 number).head? ≠ some '0' := by
  have oneDigit : ∀ digit < 10, 0 < digit → Nat.digitChar digit ≠ '0' := by decide
  induction number using Nat.strongRecOn with
  | ind number induction =>
      rw [Nat.toDigits_eq_if (by decide)]
      split
      · next small => simpa using oneDigit number small positive
      · next large =>
          rw [List.head?_append, Option.or_of_isSome (by simp [Nat.toDigits_ne_nil])]
          exact induction (number / 10) (by omega) (by omega)

theorem takeDigits_toDigits (number : Nat) :
    takeDigits (Nat.toDigits 10 number) = (Nat.toDigits 10 number, []) := by
  have allDigits : ∀ char ∈ Nat.toDigits 10 number, char.isDigit = true := fun char member =>
    Nat.isDigit_of_mem_toDigits (by decide) (by decide) member
  rw [takeDigits, List.takeWhile_eq_self_iff.mpr allDigits, List.dropWhile_eq_nil_iff.mpr allDigits]

def NumberLiteral.ofDigits (negative : Bool) (number : Nat) : NumberLiteral where
  negative := negative
  whole := Nat.toDigits 10 number
  fraction := none
  exponent := none

theorem readNumber_of_digits {input : List Char} {negative : Bool} {number : Nat}
    (signed : numberSign input = (negative, Nat.toDigits 10 number)) :
    readNumber input = some (.ofDigits negative number, []) := by
  rw [readNumber_eq, signed]
  simp only [takeDigits_toDigits]
  split
  · next equal => exact absurd (Prod.mk.inj equal).1 Nat.toDigits_ne_nil
  · next equal =>
      have written := (Prod.mk.inj equal).1
      rcases Nat.eq_zero_or_pos number with rfl | positive
      · cases written
      · exact absurd (by rw [written]; rfl) (head?_toDigits_ne_zero positive)
  · next equal =>
      rw [← (Prod.mk.inj equal).1, ← (Prod.mk.inj equal).2]
      rfl

theorem readNumber_integerChars (value : Int) :
    readNumber (integerChars value) = some (.ofDigits (decide (value < 0)) value.natAbs, []) := by
  apply readNumber_of_digits
  rw [integerChars]
  split
  · next nonnegative =>
      have noSign : numberSign (Nat.toDigits 10 value.natAbs) =
          (false, Nat.toDigits 10 value.natAbs) := by
        unfold numberSign
        split
        · next rest equal =>
            have digit : Char.isDigit '-' = true :=
              Nat.isDigit_of_mem_toDigits (by decide) (by decide)
                (equal ▸ List.mem_cons_self : '-' ∈ Nat.toDigits 10 value.natAbs)
            cases digit
        · rfl
      rw [noSign, decide_eq_false (Int.not_lt.mpr nonnegative)]
  · next negative =>
      rw [decide_eq_true (Int.not_le.mp negative)]
      rfl

def FitsWord (value : Int) : Prop :=
  -Nat.pow 2 63 ≤ value ∧ value < Nat.pow 2 64

instance (value : Int) : Decidable (FitsWord value) :=
  inferInstanceAs (Decidable (_ ∧ _))

theorem fitsWord_iff (value : Int) :
    FitsWord value ↔ -9223372036854775808 ≤ value ∧ value < 18446744073709551616 := Iff.rfl

theorem value?_ofDigits {value : Int} (fits : FitsWord value) :
    (NumberLiteral.ofDigits (decide (value < 0)) value.natAbs).value? = some (.integer value) := by
  rw [fitsWord_iff] at fits
  have written : Nat.ofDigitChars 10 (Nat.toDigits 10 value.natAbs) 0 = value.natAbs :=
    Nat.ofDigitChars_toDigits (by decide) (by decide)
  have gathered : gatherDigits 0 (Nat.toDigits 10 value.natAbs) = (value.natAbs, []) := by
    rw [gatherDigits_of_lt, written]
    rw [written]
    change value.natAbs < 2 ^ 64
    omega
  simp only [NumberLiteral.value?, NumberLiteral.ofDigits, gathered]
  by_cases negative : value < 0
  · have small : ¬ (value.natAbs = 0 ∨ Nat.pow 2 63 < value.natAbs) := by
      change ¬ (value.natAbs = 0 ∨ 2 ^ 63 < value.natAbs)
      omega
    have restored : -(value.natAbs : Int) = value := by omega
    simp only [negative, decide_true, Bool.not_true, Bool.false_eq_true, if_false, if_neg small,
      restored]
  · have restored : (value.natAbs : Int) = value := by omega
    simp [negative, restored]

/-! The characters of a number. -/

def isNumeric (char : Char) : Bool :=
  char.isDigit || char == '-' || char == '+' || char == '.' || char == 'e'

theorem isNumeric_of_isDigit {char : Char} (digit : char.isDigit = true) :
    isNumeric char = true := by
  simp [isNumeric, digit]

theorem isJsonBlank_eq_false_of_isNumeric {char : Char} (numeric : isNumeric char = true) :
    isJsonBlank char = false := by
  cases blank : isJsonBlank char with
  | false => rfl
  | true =>
      simp only [isJsonBlank, Bool.or_eq_true, beq_iff_eq] at blank
      rcases blank with ((rfl | rfl) | rfl) | rfl <;> cases numeric

theorem numeric_toDigits (number : Nat) :
    ∀ char ∈ Nat.toDigits 10 number, isNumeric char = true := fun _ member =>
  isNumeric_of_isDigit (Nat.isDigit_of_mem_toDigits (by decide) (by decide) member)

theorem numeric_decimalChars (decimal : Decimal) :
    ∀ char ∈ decimal.chars, isNumeric char = true := by
  have digits := numeric_toDigits decimal.coefficient
  have zeros : ∀ count, ∀ char ∈ List.replicate count '0', isNumeric char = true := by
    intro count char member
    rw [List.eq_of_mem_replicate member]
    rfl
  rw [Decimal.chars]
  dsimp only
  split
  · simp only [List.forall_mem_append, List.forall_mem_cons]
    exact ⟨⟨digits, zeros _⟩, rfl, rfl, by simp⟩
  · split
    · simp only [List.forall_mem_append, List.forall_mem_cons]
      exact ⟨fun char member => digits char (List.mem_of_mem_take member), rfl,
        fun char member => digits char (List.mem_of_mem_drop member)⟩
    · split
      · simp only [List.forall_mem_append, List.forall_mem_cons]
        exact ⟨rfl, rfl, zeros _, digits⟩
      · simp only [List.forall_mem_append, List.forall_mem_cons]
        refine ⟨?_, rfl, by split <;> rfl, numeric_toDigits _⟩
        split
        · simp
        · next lead written =>
            rw [written] at digits
            exact digits
        · next lead rest _ written =>
            rw [written, List.forall_mem_cons] at digits
            simp only [List.forall_mem_cons]
            exact ⟨digits.1, rfl, digits.2⟩

theorem numeric_numberChars (number : Number) :
    ∀ char ∈ number.chars, isNumeric char = true := by
  cases number with
  | integer value =>
      rw [Number.chars, integerChars]
      split
      · exact numeric_toDigits _
      · exact List.forall_mem_cons.mpr ⟨rfl, numeric_toDigits _⟩
  | float value =>
      have sign : ∀ char ∈ (if (Dyadic.ofFloat value).negative then ['-'] else []),
          isNumeric char = true := by
        split <;> simp [isNumeric]
      rw [Number.chars, floatChars]
      split
      · exact List.forall_mem_append.mpr ⟨sign, by simp [isNumeric]⟩
      · exact List.forall_mem_append.mpr ⟨sign, numeric_decimalChars _⟩

/-! What is left of a text stands at its end. -/

theorem takeDigits_suffix (input : List Char) : (takeDigits input).2 <:+ input :=
  List.dropWhile_suffix Char.isDigit

theorem readFraction_suffix {input left : List Char} {fraction : Option (List Char)}
    (read : readFraction input = some (fraction, left)) : left <:+ input := by
  unfold readFraction at read
  split at read
  · next after =>
      have suffix := takeDigits_suffix after
      rcases digits : takeDigits after with ⟨run, remaining⟩
      rw [digits] at read suffix
      cases run with
      | nil => cases read
      | cons digit run =>
          cases read
          exact suffix.trans (List.suffix_cons _ _)
  · cases read
    exact List.suffix_rfl

theorem exponentSign_suffix (input : List Char) : (exponentSign input).2 <:+ input := by
  unfold exponentSign
  split
  · exact List.suffix_cons _ _
  · exact List.suffix_cons _ _
  · exact List.suffix_rfl

theorem readExponent_suffix {input left : List Char} {exponent : Option (Bool × List Char)}
    (read : readExponent input = some (exponent, left)) : left <:+ input := by
  cases input with
  | nil =>
      cases read
      exact List.suffix_rfl
  | cons mark input =>
      rw [readExponent_cons] at read
      split at read
      · have suffix := (takeDigits_suffix _).trans (exponentSign_suffix input)
        rcases digits : takeDigits (exponentSign input).2 with ⟨run, remaining⟩
        rw [digits] at read suffix
        cases run with
        | nil => cases read
        | cons digit run =>
            cases read
            exact suffix.trans (List.suffix_cons _ _)
      · cases read
        exact List.suffix_rfl

theorem numberSign_suffix (input : List Char) : (numberSign input).2 <:+ input := by
  unfold numberSign
  split
  · exact List.suffix_cons _ _
  · exact List.suffix_rfl

theorem readNumber_suffix {input left : List Char} {literal : NumberLiteral}
    (read : readNumber input = some (literal, left)) : left <:+ input := by
  rw [readNumber_eq] at read
  have suffix := (takeDigits_suffix _).trans (numberSign_suffix input)
  split at read
  · cases read
  · cases read
  · next whole after _ _ digits =>
      rw [digits] at suffix
      rcases Option.bind_eq_some_iff.mp read with ⟨⟨fraction, afterFraction⟩, readFirst, found⟩
      rcases Option.map_eq_some_iff.mp found with ⟨⟨exponent, afterExponent⟩, readSecond, equal⟩
      cases equal
      exact ((readExponent_suffix readSecond).trans (readFraction_suffix readFirst)).trans suffix

end ChatGateway

import ChatGateway.Text
import Mathlib.Data.List.Basic
import Mathlib.Data.List.DropRight

namespace ChatGateway

/-! Parts of texts: what stands before and behind a mark, and what is left of a text
without its head or its tail. -/

namespace Text

theorem splitAtFirst?_append (mark : Char) (text more : List Char) :
    splitAtFirst? mark (text ++ more) =
      match splitAtFirst? mark text with
      | some (before, after) => some (before, after ++ more)
      | none => (splitAtFirst? mark more).map fun (before, after) => (text ++ before, after) := by
  induction text with
  | nil => simp [splitAtFirst?]
  | cons head rest induction =>
      rw [List.cons_append, splitAtFirst?, splitAtFirst?, induction]
      split
      · rfl
      · cases splitAtFirst? mark rest with
        | some parts => rfl
        | none => cases splitAtFirst? mark more <;> rfl

theorem splitAtFirst?_eq_none_iff {mark : Char} {text : List Char} :
    splitAtFirst? mark text = none ↔ mark ∉ text := by
  constructor
  · intro none member
    rcases List.append_of_mem member with ⟨before, after, equal⟩
    rw [equal, splitAtFirst?_append] at none
    cases found : splitAtFirst? mark before <;> simp [found, splitAtFirst?] at none
  · intro absent
    cases found : splitAtFirst? mark text with
    | none => rfl
    | some parts =>
        rw [(splitAtFirst?_eq_some found).1] at absent
        simp at absent

theorem splitAtFirst?_eq_some_iff {mark : Char} {text before after : List Char} :
    splitAtFirst? mark text = some (before, after) ↔
      text = before ++ mark :: after ∧ mark ∉ before := by
  constructor
  · exact splitAtFirst?_eq_some
  · intro parts
    rw [parts.1, splitAtFirst?_append, splitAtFirst?_eq_none_iff.mpr parts.2]
    simp [splitAtFirst?]

theorem splitParts_append_cons (mark : Char) (front rest : List Char) :
    splitParts mark (front ++ mark :: rest) =
      ((splitParts mark front).1, (splitParts mark front).2 ++ split mark rest) := by
  induction front with
  | nil => simp [splitParts, split]
  | cons head front induction =>
      rw [List.cons_append, splitParts, splitParts, induction]
      dsimp only
      split <;> rfl

theorem splitParts_of_not_mem {mark : Char} {text : List Char} (absent : mark ∉ text) :
    splitParts mark text = (text, []) := by
  induction text with
  | nil => rfl
  | cons head rest induction =>
      rw [List.mem_cons, not_or] at absent
      rw [splitParts, induction absent.2]
      exact if_neg (Ne.symm absent.1)

theorem split_append_cons {mark : Char} {last : List Char} (absent : mark ∉ last)
    (front : List Char) : split mark (front ++ mark :: last) = split mark front ++ [last] := by
  rw [split, splitParts_append_cons, split, split, splitParts_of_not_mem absent]
  rfl

theorem split_of_not_mem {mark : Char} {text : List Char} (absent : mark ∉ text) :
    split mark text = [text] := by
  rw [split, splitParts_of_not_mem absent]

theorem dropHead?_eq_some_iff {text head rest : String} :
    dropHead? text head = some rest ↔ text = head ++ rest := by
  rw [dropHead?, Option.map_eq_some_iff, ← String.toList_inj, String.toList_append]
  simp only [List.isPrefixOf?_eq_some_iff_append_eq]
  constructor
  · intro dropped
    rcases dropped with ⟨chars, equal, rfl⟩
    rw [String.toList_ofList, equal]
  · intro equal
    exact ⟨rest.toList, equal.symm, String.ofList_toList⟩

theorem dropTail?_eq_some_iff {text tail front : String} :
    dropTail? text tail = some front ↔ text = front ++ tail := by
  rw [dropTail?, Option.map_eq_some_iff, ← String.toList_inj, String.toList_append]
  simp only [List.isSuffixOf?_eq_some_iff_append_eq]
  constructor
  · intro dropped
    rcases dropped with ⟨chars, equal, rfl⟩
    rw [String.toList_ofList, equal]
  · intro equal
    exact ⟨front.toList, equal.symm, String.ofList_toList⟩

theorem trim_eq_empty_iff (text : String) : trim text = "" ↔ allBlank text = true := by
  have blank (chars : List Char) : chars.dropWhile isBlank = [] ↔ chars.all isBlank = true := by
    rw [List.dropWhile_eq_nil_iff, List.all_eq_true]
  rw [trim, String.ofList_eq_empty_iff, trimChars, List.reverse_eq_nil_iff, blank, List.all_reverse,
    ← blank, List.dropWhile_idempotent, blank, allBlank]

end Text

end ChatGateway

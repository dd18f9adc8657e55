import ChatGateway.Text.Lossy
import Mathlib.Order.Bounds.Basic

namespace ChatGateway

/-! Beginnings of texts that have no more than so many bytes. The longest of them ends at the
last place within the limit where the text can be cut, and a search that counts back from the
limit byte by byte reaches this place before it passes the first byte. -/

namespace Text

theorem utf8ByteSize_ofList_cons (char : Char) (rest : List Char) :
    (String.ofList (char :: rest)).utf8ByteSize =
      char.utf8Size + (String.ofList rest).utf8ByteSize := by
  rw [String.ofList_cons, String.utf8ByteSize_append, String.utf8ByteSize_singleton]

theorem takeBytes_cons (room : Nat) (char : Char) (rest : List Char) :
    takeBytes room (char :: rest) =
      if char.utf8Size ≤ room then char :: takeBytes (room - char.utf8Size) rest else [] := by
  rw [takeBytes.eq_def]

theorem takeBytes_begins (room : Nat) (text : List Char) : takeBytes room text <+: text := by
  induction text generalizing room with
  | nil => exact List.nil_prefix
  | cons char rest induction =>
      rw [takeBytes_cons]
      split
      · exact (List.prefix_cons_inj char).mpr (induction _)
      · exact List.nil_prefix

theorem utf8ByteSize_takeBytes_le (room : Nat) (text : List Char) :
    (String.ofList (takeBytes room text)).utf8ByteSize ≤ room := by
  induction text generalizing room with
  | nil => exact Nat.zero_le _
  | cons char rest induction =>
      rw [takeBytes_cons]
      split
      · next fits =>
          have others := induction (room - char.utf8Size)
          rw [utf8ByteSize_ofList_cons]
          omega
      · exact Nat.zero_le _

theorem prefix_takeBytes {room : Nat} {text part : List Char} (begins : part <+: text)
    (fits : (String.ofList part).utf8ByteSize ≤ room) : part <+: takeBytes room text := by
  induction text generalizing room part with
  | nil =>
      rw [List.prefix_nil.mp begins]
      exact List.nil_prefix
  | cons char rest induction =>
      cases part with
      | nil => exact List.nil_prefix
      | cons other part =>
          rcases List.cons_prefix_cons.mp begins with ⟨rfl, restBegins⟩
          rw [utf8ByteSize_ofList_cons] at fits
          rw [takeBytes_cons, if_pos (by omega)]
          exact (List.prefix_cons_inj other).mpr (induction restBegins (by omega))

/-! A text that is cut off. -/

theorem truncated_begins (limit : Nat) (text : String) :
    (truncated limit text).toList <+: text.toList := by
  rw [truncated, String.toList_ofList]
  exact takeBytes_begins limit text.toList

theorem utf8ByteSize_truncated_le (limit : Nat) (text : String) :
    (truncated limit text).utf8ByteSize ≤ limit :=
  utf8ByteSize_takeBytes_le limit text.toList

theorem prefix_truncated {limit : Nat} {text part : String} (begins : part.toList <+: text.toList)
    (fits : part.utf8ByteSize ≤ limit) : part.toList <+: (truncated limit text).toList := by
  rw [truncated, String.toList_ofList]
  exact prefix_takeBytes begins (by rwa [String.ofList_toList])

theorem truncated_eq_empty_iff {limit : Nat} (room : 4 ≤ limit) (text : String) :
    truncated limit text = "" ↔ text = "" := by
  rw [truncated, String.ofList_eq_empty_iff]
  constructor
  · intro nothing
    cases chars : text.toList with
    | nil => exact String.toList_eq_nil_iff.mp chars
    | cons first rest =>
        have fits : (String.ofList [first]).utf8ByteSize ≤ limit := by
          have small := first.utf8Size_le_four
          rw [utf8ByteSize_ofList_cons]
          exact small.trans room
        have begins : [first] <+: text.toList := ⟨rest, chars.symm⟩
        have taken := prefix_takeBytes begins fits
        rw [nothing] at taken
        cases List.prefix_nil.mp taken
  · intro empty
    rw [empty]
    exact List.prefix_nil.mp (takeBytes_begins limit _)

theorem exists_append_of_prefix {part text : String} (begins : part.toList <+: text.toList) :
    ∃ rest, text = part ++ rest := by
  rcases begins with ⟨rest, equal⟩
  refine ⟨.ofList rest, ?_⟩
  rw [← String.toList_inj, String.toList_append, String.toList_ofList, equal]

theorem utf8ByteSize_le_of_prefix {part text : String} (begins : part.toList <+: text.toList) :
    part.utf8ByteSize ≤ text.utf8ByteSize := by
  rcases exists_append_of_prefix begins with ⟨rest, rfl⟩
  rw [String.utf8ByteSize_append]
  exact Nat.le_add_right _ _

theorem copy_sliceTo_of_prefix {part text : String} (begins : part.toList <+: text.toList)
    {place : text.Pos} (size : place.offset.byteIdx = part.utf8ByteSize) :
    (text.sliceTo place).copy = part := by
  rcases exists_append_of_prefix begins with ⟨rest, equal⟩
  have splits : place.Splits part rest := ⟨equal, String.Pos.Raw.ext size⟩
  exact splits.copy_sliceTo_eq

/-! Places where a text can be cut. -/

/-- The numbers of bytes, up to the limit, behind which a character begins or the text ends. -/
def boundaries (limit : Nat) (text : String) : Set Nat :=
  {size | size ≤ limit ∧ String.Pos.Raw.IsValid text ⟨size⟩}

theorem mem_boundaries_iff {limit size : Nat} {text : String} :
    size ∈ boundaries limit text ↔
      size ≤ limit ∧ ∃ part : String, part.toList <+: text.toList ∧ part.utf8ByteSize = size := by
  refine and_congr_right fun _ => String.Pos.Raw.isValid_iff_exists_append.trans ?_
  constructor
  · intro parted
    rcases parted with ⟨part, rest, equal, place⟩
    exact ⟨part, ⟨rest.toList, by rw [equal, String.toList_append]⟩,
      (congrArg String.Pos.Raw.byteIdx place).symm⟩
  · intro begun
    rcases begun with ⟨part, begins, rfl⟩
    rcases exists_append_of_prefix begins with ⟨rest, equal⟩
    exact ⟨part, rest, equal, rfl⟩

/-- A beginning of the text that ends at the last place within the limit where the text can
be cut. -/
structure LongestCut (limit : Nat) (text cut : String) : Prop where
  begins : cut.toList <+: text.toList
  greatest : IsGreatest (boundaries limit text) cut.utf8ByteSize

theorem longestCut_truncated (limit : Nat) (text : String) :
    LongestCut limit text (truncated limit text) where
  begins := truncated_begins limit text
  greatest := by
    constructor
    · apply mem_boundaries_iff.mpr
      exact ⟨utf8ByteSize_truncated_le limit text, _, truncated_begins limit text, rfl⟩
    · intro size member
      rcases mem_boundaries_iff.mp member with ⟨fits, part, begins, rfl⟩
      exact utf8ByteSize_le_of_prefix (prefix_truncated begins fits)

theorem truncated_of_fits {limit : Nat} {text : String} (fits : text.utf8ByteSize ≤ limit) :
    truncated limit text = text := by
  have whole := prefix_truncated List.prefix_rfl fits
  rw [← String.toList_inj]
  exact (truncated_begins limit text).eq_of_length_le whole.length_le

/-! The search for the place. -/

/-- The last place at or before a number of bytes where the text can be cut, looked for by
counting back; none where the count would go below zero. -/
def placeBefore? (text : String) : (size : Nat) → Option text.Pos
  | 0 =>
      if valid : String.Pos.Raw.IsValid text ⟨0⟩ then some (text.pos ⟨0⟩ valid) else none
  | size + 1 =>
      if valid : String.Pos.Raw.IsValid text ⟨size + 1⟩ then some (text.pos ⟨size + 1⟩ valid)
      else placeBefore? text size

def cutBack? (limit : Nat) (text : String) : Option String :=
  if text.utf8ByteSize ≤ limit then some text
  else (placeBefore? text limit).map fun place => (text.sliceTo place).copy

theorem isGreatest_boundaries {text : String} {size : Nat}
    (valid : String.Pos.Raw.IsValid text ⟨size⟩) : IsGreatest (boundaries size text) size :=
  ⟨⟨Nat.le_refl size, valid⟩, fun _ member => member.1⟩

theorem boundaries_succ {text : String} {size : Nat}
    (invalid : ¬ String.Pos.Raw.IsValid text ⟨size + 1⟩) :
    boundaries (size + 1) text = boundaries size text := by
  ext other
  constructor
  · intro member
    have different : other ≠ size + 1 := by
      intro equal
      exact invalid (equal ▸ member.2)
    have within := member.1
    exact ⟨by omega, member.2⟩
  · intro member
    exact ⟨Nat.le_succ_of_le member.1, member.2⟩

theorem exists_placeBefore (text : String) (size : Nat) :
    ∃ place, placeBefore? text size = some place ∧
      IsGreatest (boundaries size text) place.offset.byteIdx := by
  induction size with
  | zero =>
      have valid : String.Pos.Raw.IsValid text ⟨0⟩ := String.Pos.Raw.isValid_zero
      exact ⟨text.pos ⟨0⟩ valid, dif_pos valid, isGreatest_boundaries valid⟩
  | succ size induction =>
      rw [placeBefore?]
      by_cases valid : String.Pos.Raw.IsValid text ⟨size + 1⟩
      · exact ⟨text.pos ⟨size + 1⟩ valid, dif_pos valid, isGreatest_boundaries valid⟩
      · rw [dif_neg valid, boundaries_succ valid]
        exact induction

theorem cutBack?_eq (limit : Nat) (text : String) :
    cutBack? limit text = some (truncated limit text) := by
  rw [cutBack?]
  split
  · next fits => rw [truncated_of_fits fits]
  · rcases exists_placeBefore text limit with ⟨place, found, greatest⟩
    have cut := longestCut_truncated limit text
    rw [found, Option.map_some,
      copy_sliceTo_of_prefix cut.begins (greatest.unique cut.greatest)]

example : cutBack? 2 "héllo" = some "h" := by decide +kernel

end Text

end ChatGateway

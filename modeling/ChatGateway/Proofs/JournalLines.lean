import ChatGateway.Journal
import ChatGateway.Proofs.Numerals
import Mathlib.Data.List.Basic
import Mathlib.Data.List.Induction

namespace ChatGateway

/-! The lines of a journal's file. An entry is printed without a line feed, in its text
and in the bytes of its text, so the lines of a file to which entries were appended are
the lines of these entries. -/

/-! Printed values have no line feed. -/

theorem newline_not_mem_escapedChar (char : Char) : '\n' ∉ escapedChar char := by
  have plain : ∀ code < 32, '\n' ≠ hexDigit (code / 16) ∧ '\n' ≠ hexDigit code := by decide
  unfold escapedChar
  split
  · decide
  split
  · decide
  split
  · decide
  split
  · decide
  split
  · decide
  split
  · decide
  split
  · decide
  split
  · next control =>
      rcases plain char.toNat control with ⟨high, low⟩
      simp [high, low]
  · next _ _ notNewline _ _ _ _ _ =>
      rw [List.mem_singleton]
      exact fun equal => notNewline equal.symm

theorem newline_not_mem_quotedChars (text : List Char) : '\n' ∉ quotedChars text := by
  rw [quotedChars, List.mem_cons, List.mem_append, List.mem_flatMap, List.mem_singleton]
  rintro (equal | ⟨char, _, member⟩ | equal)
  · exact absurd equal (by decide)
  · exact newline_not_mem_escapedChar char member
  · exact absurd equal (by decide)

namespace Json

mutual
theorem newline_not_mem_chars : ∀ value : Json, '\n' ∉ value.chars
  | .null | .bool true | .bool false => by decide
  | .number value => fun member => by
      have numeric := numeric_numberChars value '\n' member
      exact absurd numeric (by decide)
  | .string text => newline_not_mem_quotedChars text.toList
  | .array items => by simpa [chars] using newline_not_mem_itemsChars items
  | .object members => by simpa [chars] using newline_not_mem_membersChars members

theorem newline_not_mem_itemsChars : ∀ items : List Json, '\n' ∉ itemsChars items
  | [] => by decide
  | [item] => by simpa [itemsChars] using newline_not_mem_chars item
  | item :: next :: rest => by
      simpa [itemsChars] using
        ⟨newline_not_mem_chars item, newline_not_mem_itemsChars (next :: rest)⟩

theorem newline_not_mem_membersChars :
    ∀ members : List (String × Json), '\n' ∉ membersChars members
  | [] => by decide
  | [(key, value)] => by
      simpa [membersChars] using
        ⟨newline_not_mem_quotedChars key.toList, newline_not_mem_chars value⟩
  | (key, value) :: next :: rest => by
      simpa [membersChars] using
        ⟨newline_not_mem_quotedChars key.toList, newline_not_mem_chars value,
          newline_not_mem_membersChars (next :: rest)⟩
end

end Json

namespace Journal

/-! Bytes. -/

theorem newline_not_mem_utf8EncodeChar {char : Char} (other : char ≠ '\n') :
    newline ∉ String.utf8EncodeChar char := by
  have ne_of_high : ∀ code : Nat, 128 ≤ code → code < 256 → newline ≠ UInt8.ofNat code := by
    intro code high bound equal
    have numbers := congrArg UInt8.toNat equal
    rw [UInt8.toNat_ofNat', Nat.mod_eq_of_lt bound] at numbers
    exact absurd (numbers ▸ high) (by decide)
  unfold String.utf8EncodeChar
  extract_lets code
  split
  · next ascii =>
      rw [List.mem_singleton]
      intro equal
      have numbers := congrArg UInt8.toNat equal
      rw [UInt8.toNat_ofNat', Nat.mod_eq_of_lt (by omega)] at numbers
      exact other (Char.toNat_inj.mp numbers.symm)
  split
  · simp only [List.mem_cons, List.not_mem_nil, or_false, not_or]
    exact ⟨ne_of_high _ (by omega) (by omega), ne_of_high _ (by omega) (by omega)⟩
  split
  · simp only [List.mem_cons, List.not_mem_nil, or_false, not_or]
    exact ⟨ne_of_high _ (by omega) (by omega), ne_of_high _ (by omega) (by omega),
      ne_of_high _ (by omega) (by omega)⟩
  · simp only [List.mem_cons, List.not_mem_nil, or_false, not_or]
    exact ⟨ne_of_high _ (by omega) (by omega), ne_of_high _ (by omega) (by omega),
      ne_of_high _ (by omega) (by omega), ne_of_high _ (by omega) (by omega)⟩

def bytesOf (text : String) : List UInt8 :=
  text.toUTF8.data.toList

theorem bytesOf_eq (text : String) :
    bytesOf text = text.toList.flatMap String.utf8EncodeChar := by
  rw [bytesOf, String.toUTF8_eq_toByteArray, ← String.ofList_toList (s := text),
    String.toByteArray_ofList, String.toList_ofList]
  simp [List.utf8Encode]

theorem bytesOf_append (text more : String) :
    bytesOf (text ++ more) = bytesOf text ++ bytesOf more := by
  rw [bytesOf_eq, bytesOf_eq, bytesOf_eq, String.toList_append, List.flatMap_append]

theorem textOf?_bytesOf (text : String) : textOf? (bytesOf text) = some text := by
  rw [textOf?, bytesOf, Array.toArray_toList]
  exact dif_pos text.isValidUTF8

def lineOf (entry : LogEntry) : List UInt8 :=
  bytesOf entry.line

theorem newline_not_mem_lineOf (entry : LogEntry) : newline ∉ lineOf entry := by
  rw [lineOf, bytesOf_eq, List.mem_flatMap]
  rintro ⟨char, member, coded⟩
  rw [LogEntry.line, Json.render, String.toList_ofList] at member
  refine newline_not_mem_utf8EncodeChar ?_ coded
  rintro rfl
  exact Json.newline_not_mem_chars _ member

theorem toList_lineBytes (entry : LogEntry) :
    (lineBytes entry).data.toList = lineOf entry ++ [newline] :=
  bytesOf_append entry.line "\n"

/-! Files that were written entry by entry. -/

def fileOf (entries : List LogEntry) : ByteArray :=
  entries.foldl (fun content entry => content ++ lineBytes entry) .empty

theorem fileOf_concat (entries : List LogEntry) (entry : LogEntry) :
    fileOf (entries ++ [entry]) = fileOf entries ++ lineBytes entry := by
  rw [fileOf, List.foldl_append]
  rfl

theorem compacted_eq (journal : Journal) : journal.compacted = fileOf journal.window.reverse := by
  rw [compacted, fileOf, List.foldl_reverse]

theorem toList_fileOf (entries : List LogEntry) :
    (fileOf entries).data.toList = entries.flatMap fun entry => lineOf entry ++ [newline] := by
  induction entries using List.reverseRec with
  | nil => rfl
  | append_singleton entries entry induction =>
      rw [fileOf_concat, ByteArray.data_append, Array.toList_append, induction, toList_lineBytes,
        List.flatMap_append, List.flatMap_singleton]

theorem linesFrom_ended {line : List UInt8} (unbroken : newline ∉ line)
    (begun rest : List UInt8) :
    linesFrom begun (line ++ newline :: rest) = (begun.reverse ++ line) :: linesFrom [] rest := by
  induction line generalizing begun with
  | nil => simp [linesFrom]
  | cons byte line induction =>
      rw [List.mem_cons, not_or] at unbroken
      rw [List.cons_append, linesFrom, if_neg (Ne.symm unbroken.1), induction unbroken.2]
      simp

theorem lines_fileOf (entries : List LogEntry) : lines (fileOf entries) = entries.map lineOf := by
  rw [lines, toList_fileOf]
  induction entries with
  | nil => rfl
  | cons entry rest induction =>
      rw [List.flatMap_cons, List.append_assoc, List.singleton_append,
        linesFrom_ended (newline_not_mem_lineOf entry), List.reverse_nil, List.nil_append,
        induction, List.map_cons]

theorem fileOf_eq_empty_iff (entries : List LogEntry) : fileOf entries = .empty ↔ entries = [] := by
  constructor
  · intro nothing
    have noLine := lines_fileOf entries
    rw [nothing] at noLine
    exact List.map_eq_nil_iff.mp noLine.symm
  · intro none
    rw [none]
    rfl

def ReadBack (entries : List LogEntry) : Prop :=
  ∀ entry ∈ entries, LogEntry.ofLine? entry.line = some entry

theorem entriesOf_fileOf {entries : List LogEntry} (readBack : ReadBack entries) :
    entriesOf (fileOf entries) = entries := by
  have readable : readableLines (entries.map lineOf) = entries.map LogEntry.line := by
    clear readBack
    induction entries with
    | nil => rfl
    | cons entry rest induction =>
        rw [List.map_cons, readableLines, lineOf, textOf?_bytesOf]
        exact congrArg _ induction
  rw [entriesOf, lines_fileOf, readable, List.filterMap_map, Function.comp_def]
  calc
    entries.filterMap (fun entry => LogEntry.ofLine? entry.line) = entries.filterMap some :=
      List.filterMap_congr readBack
    _ = entries := List.filterMap_some

end Journal

end ChatGateway

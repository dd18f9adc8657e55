import ChatGateway.Proofs.JournalRuns

namespace ChatGateway

/-! Journals over damaged files. When a file is opened it may hold lines that are no
entries, bytes that are no text, and a rest that no line feed ends. The first entry that
is logged shares a line with that rest, and nothing is read behind a line that is not
UTF-8. So all is read again just when no entry stands behind such a line and the first
new entry can be told from the line that it shares. -/

namespace Journal

/-! The lines of a file that goes on. -/

def endedLines (content : ByteArray) : List (List UInt8) :=
  (content.data.toList.splitOn newline).dropLast

def unended (content : ByteArray) : List UInt8 :=
  (content.data.toList.splitOn newline).getLast (List.splitOn_ne_nil _ _)

/-- What is read of bytes that go on: all parts but the last are lines, and with the last
part the next line has begun. -/
theorem linesFrom_append {bytes first : List UInt8} {others : List (List UInt8)}
    (parts : bytes.splitOn newline = first :: others) (begun more : List UInt8) :
    linesFrom begun (bytes ++ more) = ((begun.reverse ++ first) :: others).dropLast ++
      linesFrom (((begun.reverse ++ first) :: others).getLast (List.cons_ne_nil _ _)).reverse
        more := by
  induction bytes generalizing begun first others with
  | nil =>
      cases parts
      simp
  | cons byte rest induction =>
      rw [List.splitOn_cons_eq_if_modifyHead] at parts
      rw [List.cons_append, linesFrom]
      cases later : rest.splitOn newline with
      | nil => exact absurd later (List.splitOn_ne_nil _ _)
      | cons next following =>
          rw [later] at parts
          by_cases ended : byte = newline
          · rw [if_pos (beq_iff_eq.mpr ended)] at parts
            cases parts
            rw [if_pos ended, induction later, List.reverse_nil, List.nil_append, List.append_nil]
            rfl
          · rw [if_neg (by simpa using ended), List.modifyHead_cons] at parts
            cases parts
            rw [if_neg ended, induction later]
            simp

/-- The lines when entries follow the rest. -/
def joinedLines (rest : List UInt8) : List LogEntry → List (List UInt8)
  | [] => if rest = [] then [] else [rest]
  | entry :: later => (rest ++ lineOf entry) :: later.map lineOf

theorem lines_append_fileOf (content : ByteArray) (entries : List LogEntry) :
    lines (content ++ fileOf entries) =
      endedLines content ++ joinedLines (unended content) entries := by
  rw [lines, ByteArray.data_append, Array.toList_append, endedLines]
  cases parts : content.data.toList.splitOn newline with
  | nil => exact absurd parts (List.splitOn_ne_nil _ _)
  | cons first others =>
      have rest : unended content = (first :: others).getLast (List.cons_ne_nil _ _) := by
        simp only [unended, parts]
      rw [linesFrom_append parts, List.reverse_nil, List.nil_append, ← rest]
      congr 1
      cases entries with
      | nil => simp [fileOf, linesFrom, joinedLines]
      | cons entry later =>
          have listed := lines_fileOf later
          rw [lines] at listed
          rw [toList_fileOf, List.flatMap_cons, List.append_assoc, List.singleton_append,
            linesFrom_ended (newline_not_mem_lineOf entry), List.reverse_reverse, ← toList_fileOf,
            listed, joinedLines]

/-! What is read of lines. -/

def isText (line : List UInt8) : Bool :=
  (textOf? line).isSome

def entryOf? (line : List UInt8) : Option LogEntry :=
  (textOf? line).bind LogEntry.ofLine?

theorem entryOf?_eq_none {line : List UInt8} (unreadable : isText line = false) :
    entryOf? line = none := by
  rw [isText, Option.isSome_eq_false_iff, Option.isNone_iff_eq_none] at unreadable
  rw [entryOf?, unreadable, Option.bind_none]

theorem entryOf?_lineOf (entry : LogEntry) :
    entryOf? (lineOf entry) = LogEntry.ofLine? entry.line := by
  rw [entryOf?, lineOf, textOf?_bytesOf, Option.bind_some]

theorem isText_bytesOf (text : String) : isText (bytesOf text) = true := by
  rw [isText, textOf?_bytesOf, Option.isSome_some]

theorem entriesOf_eq (content : ByteArray) :
    entriesOf content = ((lines content).takeWhile isText).filterMap entryOf? := by
  rw [entriesOf]
  induction lines content with
  | nil => rfl
  | cons line rest induction =>
      cases text : textOf? line with
      | none => simp [readableLines, isText, text]
      | some found => simp [readableLines, isText, text, entryOf?, induction, List.filterMap_cons]

theorem entryOf?_nil : entryOf? [] = none := by decide +kernel

theorem filterMap_entryOf?_lineOf {entries : List LogEntry} (readBack : ReadBack entries) :
    (entries.map lineOf).filterMap entryOf? = entries := by
  rw [List.filterMap_map, Function.comp_def]
  calc
    entries.filterMap (fun entry => entryOf? (lineOf entry)) = entries.filterMap some :=
      List.filterMap_congr fun entry member => (entryOf?_lineOf entry).trans (readBack entry member)
    _ = entries := List.filterMap_some

/-- The rest of a file is no obstacle to what is logged: the first new entry can be told
from the line that it shares with the rest. Where nothing was logged the rest is no entry
itself. -/
def CarriesOn (rest : List UInt8) : List LogEntry → Prop
  | [] => entryOf? rest = none
  | entry :: _ => entryOf? (rest ++ lineOf entry) = some entry

theorem carriesOn_nil {entries : List LogEntry} (readBack : ReadBack entries) :
    CarriesOn [] entries := by
  cases entries with
  | nil => exact entryOf?_nil
  | cons entry later =>
      rw [CarriesOn, List.nil_append, entryOf?_lineOf]
      exact readBack entry List.mem_cons_self

theorem read_joinedLines_nil (rest : List UInt8) :
    ((joinedLines rest []).takeWhile isText).filterMap entryOf? = (entryOf? rest).toList := by
  rw [joinedLines]
  by_cases empty : rest = []
  · simp [empty, entryOf?_nil]
  · cases text : isText rest with
    | false => simp [empty, text, entryOf?_eq_none text]
    | true => cases found : entryOf? rest <;> simp [empty, text, found]

theorem read_joinedLines_cons (rest : List UInt8) {entry : LogEntry} {later : List LogEntry}
    (readBack : ReadBack later) :
    ((joinedLines rest (entry :: later)).takeWhile isText).filterMap entryOf? =
      if isText (rest ++ lineOf entry) = true then
        (entryOf? (rest ++ lineOf entry)).toList ++ later
      else [] := by
  have laterText : (later.map lineOf).takeWhile isText = later.map lineOf := by
    rw [List.takeWhile_eq_self_iff]
    intro line member
    rcases List.mem_map.mp member with ⟨other, -, rfl⟩
    exact isText_bytesOf other.line
  rw [joinedLines]
  split
  · next text =>
      rw [List.takeWhile_cons_of_pos text, laterText, List.filterMap_cons,
        filterMap_entryOf?_lineOf readBack]
      cases entryOf? (rest ++ lineOf entry) <;> rfl
  · next noText => rw [List.takeWhile_cons_of_neg noText, List.filterMap_nil]

theorem read_joinedLines_iff (rest : List UInt8) {entries : List LogEntry}
    (readBack : ReadBack entries) :
    ((joinedLines rest entries).takeWhile isText).filterMap entryOf? = entries ↔
      CarriesOn rest entries := by
  cases entries with
  | nil => rw [read_joinedLines_nil, CarriesOn, Option.toList_eq_nil_iff]
  | cons entry later =>
      have laterBack : ReadBack later := fun other member =>
        readBack other (List.mem_cons_of_mem _ member)
      rw [read_joinedLines_cons rest laterBack, CarriesOn]
      split
      · cases shared : entryOf? (rest ++ lineOf entry) <;> simp
      · next noText => simp [entryOf?_eq_none (Bool.eq_false_iff.mpr noText)]

/-- All that a file held is read again with all that was logged behind it. -/
inductive Survives (content : ByteArray) (entries : List LogEntry) : Prop where
  | carriedOn (readable : ∀ line ∈ endedLines content, isText line = true)
      (carriesOn : CarriesOn (unended content) entries)
  /-- Nothing was logged, and no entry stands behind the first line that is no text. -/
  | cutShort (broken : ∃ line ∈ endedLines content, isText line = false)
      (nothing : ((endedLines content).dropWhile isText).filterMap entryOf? = [])
      (silent : entries = [])

/-! Behind a line that is no text nothing is read, and before it everything. -/

section

variable (content : ByteArray) (entries : List LogEntry)

theorem read_of_readable (readable : ∀ line ∈ endedLines content, isText line = true) :
    ((endedLines content ++ joinedLines (unended content) entries).takeWhile
        isText).filterMap entryOf? =
      (endedLines content).filterMap entryOf? ++
        ((joinedLines (unended content) entries).takeWhile isText).filterMap entryOf? := by
  rw [List.takeWhile_append_of_pos readable, List.filterMap_append]

theorem read_of_broken (broken : ∃ line ∈ endedLines content, isText line = false) :
    ((endedLines content ++ joinedLines (unended content) entries).takeWhile
        isText).filterMap entryOf? =
      ((endedLines content).takeWhile isText).filterMap entryOf? := by
  rw [List.takeWhile_append, if_neg]
  intro whole
  have all := (List.takeWhile_prefix isText).eq_of_length whole
  rw [List.takeWhile_eq_self_iff] at all
  rcases broken with ⟨line, member, noText⟩
  rw [all line member] at noText
  cases noText

theorem filterMap_endedLines_split :
    (endedLines content).filterMap entryOf? =
      ((endedLines content).takeWhile isText).filterMap entryOf? ++
        ((endedLines content).dropWhile isText).filterMap entryOf? := by
  rw [← List.filterMap_append, List.takeWhile_append_dropWhile]

theorem readable_or_broken :
    (∀ line ∈ endedLines content, isText line = true) ∨
      ∃ line ∈ endedLines content, isText line = false := by
  by_cases readable : ∀ line ∈ endedLines content, isText line = true
  · exact .inl readable
  · exact .inr (by simpa using readable)

end

theorem entriesOf_append_fileOf_iff (content : ByteArray) {entries : List LogEntry}
    (readBack : ReadBack entries) :
    entriesOf (content ++ fileOf entries) = (endedLines content).filterMap entryOf? ++ entries ↔
      Survives content entries := by
  rw [entriesOf_eq, lines_append_fileOf]
  rcases readable_or_broken content with readable | broken
  · rw [read_of_readable content entries readable, List.append_cancel_left_eq,
      read_joinedLines_iff _ readBack]
    constructor
    · exact .carriedOn readable
    · rintro (⟨-, carriesOn⟩ | ⟨⟨line, member, broken⟩, -, -⟩)
      · exact carriesOn
      · rw [readable line member] at broken
        cases broken
  · rw [read_of_broken content entries broken, filterMap_endedLines_split, List.append_assoc,
      List.self_eq_append_right, List.append_eq_nil_iff]
    constructor
    · rintro ⟨nothing, silent⟩
      exact .cutShort broken nothing silent
    · rintro (⟨readable, -⟩ | ⟨-, nothing, silent⟩)
      · rcases broken with ⟨line, member, broken⟩
        rw [readable line member] at broken
        cases broken
      · exact ⟨nothing, silent⟩

end Journal

namespace StoredJournal

open Journal

def logAll (content : ByteArray) (entries : List LogEntry) : StoredJournal :=
  entries.foldl log (ofContent content)

theorem content_logAll (content : ByteArray) (entries : List LogEntry) :
    (logAll content entries).content = content ++ fileOf entries :=
  content_foldl_log (ofContent content) entries

theorem window_reopen (stored : StoredJournal) :
    stored.reopen.journal.window.reverse = lastOf (entriesOf stored.content) :=
  reverse_latest _

/-! Only the latest entries are loaded. -/

/-- The latest entries are read again: all are, or the one that may have been lost is not among
the latest any more. -/
inductive LatestSurvive (content : ByteArray) (entries : List LogEntry) : Prop where
  | all (survives : Survives content entries)
  | outnumbered {entry : LogEntry} {later : List LogEntry} (logged : entries = entry :: later)
      (readable : ∀ line ∈ endedLines content, isText line = true)
      (shared : isText (unended content ++ lineOf entry) = true)
      (many : capacity ≤ later.length)

theorem mem_of_mem_lastOf {entry : LogEntry} {entries : List LogEntry}
    (inside : entry ∈ lastOf entries) : entry ∈ entries :=
  List.mem_of_mem_drop inside

theorem lastOf_append_of_many {later : List LogEntry} (many : capacity ≤ later.length)
    (earlier : List LogEntry) : lastOf (earlier ++ later) = lastOf later := by
  rw [lastOf_eq, lastOf_eq, List.length_append, Nat.add_sub_assoc many, List.drop_append,
    List.drop_eq_nil_of_le (Nat.le_add_right _ _), Nat.add_sub_cancel_left, List.nil_append]

theorem mem_lastOf_append {entry : LogEntry} {later : List LogEntry} (inside : entry ∈ later)
    (few : later.length ≤ capacity) (earlier : List LogEntry) :
    entry ∈ lastOf (earlier ++ later) := by
  rw [lastOf_eq, List.drop_append_of_le_length (by rw [List.length_append]; omega)]
  exact List.mem_append_right _ inside

/-- Where no entry stands twice, further ones change the latest. -/
theorem lastOf_append_ne {earlier later : List LogEntry} (nodup : (earlier ++ later).Nodup)
    (more : later ≠ []) : lastOf earlier ≠ lastOf (earlier ++ later) := by
  intro same
  rcases List.eq_nil_or_concat later with none | ⟨others, last, rfl⟩
  · exact more none
  · rw [List.concat_eq_append] at nodup same
    have latest : last ∈ lastOf ((earlier ++ others) ++ [last]) :=
      mem_lastOf_append (List.mem_singleton_self last) (Nat.le_add_left 1 4999) _
    rw [List.append_assoc, ← same] at latest
    rw [List.nodup_append] at nodup
    exact nodup.2.2 last (mem_of_mem_lastOf latest) last (by simp) rfl

theorem drop_concat_ne {limit : Nat} (several : 2 ≤ limit) {entries : List LogEntry}
    (nodup : entries.Nodup) (entry : LogEntry) :
    (entries ++ [entry]).drop (entries.length + 1 - limit) ≠
      entries.drop (entries.length - limit) := by
  intro same
  by_cases full : limit ≤ entries.length
  · have first := congrArg (·[0]?) same
    simp only [List.getElem?_drop, Nat.add_zero] at first
    rw [List.getElem?_append_left (by omega), List.getElem?_inj (by omega) nodup] at first
    omega
  · have lengths := congrArg List.length same
    rw [List.length_drop, List.length_drop, List.length_append, List.length_singleton] at lengths
    omega

theorem lastOf_concat_ne {entries : List LogEntry} (nodup : entries.Nodup) (entry : LogEntry) :
    lastOf (entries ++ [entry]) ≠ lastOf entries := by
  rw [lastOf_eq, lastOf_eq, List.length_append, List.length_singleton]
  exact drop_concat_ne (by decide) nodup entry

section

variable {content : ByteArray} {entries : List LogEntry} (readBack : ReadBack entries)

include readBack

theorem LatestSurvive.lastOf_eq (survive : LatestSurvive content entries) :
    lastOf (entriesOf (content ++ fileOf entries)) =
      lastOf ((endedLines content).filterMap entryOf? ++ entries) := by
  cases survive with
  | all survives => rw [(entriesOf_append_fileOf_iff content readBack).mpr survives]
  | @outnumbered entry later logged readable shared many =>
      subst logged
      have laterBack : ReadBack later := readBack.of_subset (List.subset_cons_self _ _)
      rw [entriesOf_eq, lines_append_fileOf, read_of_readable content _ readable,
        read_joinedLines_cons _ laterBack, if_pos shared, ← List.append_assoc,
        lastOf_append_of_many many, List.append_cons, lastOf_append_of_many many]

theorem latestSurvive_of_lastOf_eq
    (nodup : ((endedLines content).filterMap entryOf? ++ entries).Nodup)
    (same : lastOf (entriesOf (content ++ fileOf entries)) =
      lastOf ((endedLines content).filterMap entryOf? ++ entries)) :
    LatestSurvive content entries := by
  rw [entriesOf_eq, lines_append_fileOf] at same
  rcases readable_or_broken content with readable | broken
  · rw [read_of_readable content _ readable] at same
    cases entries with
    | nil =>
        rw [read_joinedLines_nil, List.append_nil] at same
        rw [List.append_nil] at nodup
        cases rest : entryOf? (unended content) with
        | none => exact .all (.carriedOn readable rest)
        | some entry =>
            rw [rest] at same
            exact absurd same (lastOf_concat_ne nodup entry)
    | cons entry later =>
        have laterBack : ReadBack later := readBack.of_subset (List.subset_cons_self _ _)
        rw [read_joinedLines_cons _ laterBack] at same
        split at same
        · next shared =>
            by_cases many : capacity ≤ later.length
            · exact .outnumbered rfl readable shared many
            · -- The first new entry is among the latest, so it is read where it was written.
              have first : entry ∈ lastOf ((endedLines content).filterMap entryOf? ++
                  entry :: later) :=
                mem_lastOf_append List.mem_cons_self (by rw [List.length_cons]; omega) _
              rw [← same] at first
              rw [List.nodup_append, List.nodup_cons] at nodup
              rcases List.mem_append.mp (mem_of_mem_lastOf first) with before | behind
              · exact absurd rfl (nodup.2.2 entry before entry List.mem_cons_self)
              · rcases List.mem_append.mp behind with found | after
                · exact .all (.carriedOn readable (Option.mem_toList.mp found))
                · exact absurd after nodup.2.1.1
        · rw [List.append_nil] at same
          exact absurd same (lastOf_append_ne nodup (List.cons_ne_nil _ _))
  · rw [read_of_broken content _ broken, filterMap_endedLines_split, List.append_assoc] at same
    rw [filterMap_endedLines_split, List.append_assoc] at nodup
    by_cases nothing : ((endedLines content).dropWhile isText).filterMap entryOf? ++ entries = []
    · rw [List.append_eq_nil_iff] at nothing
      exact .all (.cutShort broken nothing.1 nothing.2)
    · exact absurd same (lastOf_append_ne nodup nothing)

end

/-- Whoever opens a file again has the latest of the entries that can be read. These are
the entries on the lines before the first that is no text, where the first new entry
shares a line with what no line feed ended; they are the entries on the ended lines that
the file had before, and behind them all that was logged since, just when nothing was lost
by damage. The latest of both are the same when no more was lost than an entry that is not
among the latest; where no entry stands twice, they are the same only then. -/
theorem reopened_logAll_iff (content : ByteArray) {entries : List LogEntry}
    (readBack : ReadBack entries) :
    let kept := (endedLines content).filterMap entryOf? ++ entries
    let read := ((endedLines content ++ joinedLines (unended content) entries).takeWhile
      isText).filterMap entryOf?
    (logAll content entries).reopen.journal.window.reverse = lastOf read ∧
      (read = kept ↔ Survives content entries) ∧
      (LatestSurvive content entries → lastOf read = lastOf kept) ∧
      (kept.Nodup → lastOf read = lastOf kept → LatestSurvive content entries) := by
  intro kept read
  have reread : entriesOf (content ++ fileOf entries) = read := by
    rw [entriesOf_eq, lines_append_fileOf]
  rw [← reread]
  refine ⟨?_, entriesOf_append_fileOf_iff content readBack, LatestSurvive.lastOf_eq readBack,
    latestSurvive_of_lastOf_eq readBack⟩
  rw [window_reopen, content_logAll]

def litteredFile : ByteArray :=
  "garbage\n".toUTF8 ++ lineBytes firstEntry ++ "\n\x7b\x7d\n".toUTF8

theorem readBack_secondEntry : ReadBack [secondEntry] :=
  readBack_firstEntry_secondEntry.of_subset (List.subset_cons_self _ _)

theorem entryOf?_line_firstEntry : entryOf? (lineOf firstEntry) = some firstEntry := by
  rw [entryOf?_lineOf]
  exact readBack_firstEntry_secondEntry firstEntry List.mem_cons_self

theorem reopened_litteredFile :
    ReadBack [secondEntry] ∧ Survives litteredFile [secondEntry] ∧
      (logAll litteredFile [secondEntry]).reopen.journal.window.reverse =
        [firstEntry, secondEntry] := by
  have ended : endedLines litteredFile =
      [bytesOf "garbage", lineOf firstEntry, bytesOf "", bytesOf "\x7b\x7d"] := by decide +kernel
  have rest : unended litteredFile = [] := by decide +kernel
  have garbage : entryOf? (bytesOf "garbage") = none := by decide +kernel
  have hollow : entryOf? (bytesOf "\x7b\x7d") = none := by decide +kernel
  have held : (endedLines litteredFile).filterMap entryOf? = [firstEntry] := by
    have empty : entryOf? (bytesOf "") = none := entryOf?_nil
    simp [ended, garbage, hollow, empty, entryOf?_line_firstEntry]
  have readable : ∀ line ∈ endedLines litteredFile, isText line = true := by
    simp [ended, lineOf, isText_bytesOf]
  have survives : Survives litteredFile [secondEntry] :=
    .carriedOn readable (rest ▸ carriesOn_nil readBack_secondEntry)
  rcases reopened_logAll_iff litteredFile readBack_secondEntry with ⟨window, read, -⟩
  rw [read.mpr survives, held] at window
  exact ⟨readBack_secondEntry, survives, window⟩

def maskedFile : ByteArray :=
  ⟨#[0xFF, newline]⟩ ++ lineBytes firstEntry

def brokenOffFile : ByteArray :=
  "\x7b\"timestamp\":".toUTF8

/-- Well-formed entries are lost behind a line that is not UTF-8, and so is an entry that
was logged behind a rest without a line feed. -/
theorem lost_of_damagedFiles :
    ReadBack [secondEntry] ∧
    (endedLines maskedFile).filterMap entryOf? ++ [secondEntry] = [firstEntry, secondEntry] ∧
      (logAll maskedFile [secondEntry]).reopen.journal.window = [] ∧
    (endedLines brokenOffFile).filterMap entryOf? ++ [secondEntry] = [secondEntry] ∧
      (logAll brokenOffFile [secondEntry]).reopen.journal.window = [] := by
  have ended : endedLines maskedFile = [[0xFF], lineOf firstEntry] := by decide +kernel
  have noText : entryOf? [0xFF] = none := by decide +kernel
  refine ⟨readBack_secondEntry, ?_, by decide +kernel, by decide +kernel, by decide +kernel⟩
  simp [ended, noText, entryOf?_line_firstEntry]

end StoredJournal

end ChatGateway

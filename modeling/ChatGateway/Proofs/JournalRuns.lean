import ChatGateway.Proofs.JournalLines

namespace ChatGateway

/-! Journals over whole runs. Entries are logged, the file is compacted and opened
again, in any order. The entries in memory are the latest that were logged, and the
file has at least these at its end and never one that was not logged, so that whoever
reads the file again keeps the same ones in memory. -/

namespace Journal

theorem latest_eq_of_suffix {written logged : List LogEntry} (part : written <:+ logged)
    (holds : (latest logged).reverse <:+ written) : latest written = latest logged := by
  have kept : latest written <+: logged.reverse :=
    (List.take_prefix _ _).trans (List.reverse_prefix.mpr part)
  have fewer := part.length_le
  have enough := holds.length_le
  rw [latest, List.length_reverse, List.length_take, List.length_reverse] at enough
  have lengths : (latest written).length = (latest logged).length := by
    rw [latest, latest, List.length_take, List.length_take, List.length_reverse,
      List.length_reverse]
    omega
  have shorter := List.prefix_of_prefix_length_le kept (List.take_prefix capacity logged.reverse)
    lengths.le
  exact shorter.eq_of_length lengths

theorem latest_concat (logged : List LogEntry) (entry : LogEntry) :
    latest (logged ++ [entry]) = (entry :: latest logged).take capacity := by
  rw [latest, latest, List.reverse_append, List.reverse_singleton, List.singleton_append, capacity,
    List.take_succ_cons, List.take_succ_cons, List.take_take]
  rfl

theorem latest_suffix (logged : List LogEntry) : (latest logged).reverse <:+ logged := by
  rw [← List.reverse_prefix, List.reverse_reverse]
  exact List.take_prefix _ _

theorem ReadBack.of_subset {entries more : List LogEntry} (readBack : ReadBack more)
    (part : entries ⊆ more) : ReadBack entries :=
  fun entry member => readBack entry (part member)

end Journal

namespace StoredJournal

open Journal

/-! Entries that are logged one after the other. -/

theorem attached_foldl_log (stored : StoredJournal) (entries : List LogEntry) :
    (entries.foldl log stored).journal.attached = stored.journal.attached := by
  induction entries generalizing stored with
  | nil => rfl
  | cons entry entries induction => exact induction (stored.log entry)

theorem content_foldl_log (stored : StoredJournal) (entries : List LogEntry) :
    (entries.foldl log stored).content =
      stored.content ++ if stored.journal.attached then fileOf entries else .empty := by
  induction entries using List.reverseRec with
  | nil =>
      have nothing : (if stored.journal.attached then fileOf [] else .empty) = ByteArray.empty :=
        ite_self _
      rw [nothing, ByteArray.append_empty]
      rfl
  | append_singleton entries entry induction =>
      have attached := attached_foldl_log stored entries
      have logged : ((entries.foldl log stored).log entry).content =
          (entries.foldl log stored).content ++ (entries.foldl log stored).journal.appended entry :=
        rfl
      rw [List.foldl_concat, logged, induction, appended, attached, ByteArray.append_assoc]
      cases stored.journal.attached with
      | false => rfl
      | true => exact congrArg (stored.content ++ ·) (fileOf_concat entries entry).symm

/-! Runs. -/

inductive Step where
  | log (entry : LogEntry)
  | compact
  | reopen

def Step.entry? : Step → Option LogEntry
  | .log entry => some entry
  | .compact | .reopen => none

def after (stored : StoredJournal) : Step → StoredJournal
  | .log entry => stored.log entry
  | .compact => (stored.compact .done).1
  | .reopen => stored.reopen

def run (steps : List Step) : StoredJournal :=
  steps.foldl after (ofContent .empty)

def logged (steps : List Step) : List LogEntry :=
  steps.filterMap Step.entry?

/-- The memory has the latest entries, and the file ends with them and holds nothing
but entries that were logged. -/
structure Tracks (logged : List LogEntry) (stored : StoredJournal) : Prop where
  attached : stored.journal.attached = true
  window : stored.journal.window = latest logged
  content : ∃ written, stored.content = fileOf written ∧ written <:+ logged ∧
    (latest logged).reverse <:+ written

namespace Tracks

variable {logged : List LogEntry} {stored : StoredJournal}

theorem start : Tracks [] (ofContent .empty) where
  attached := rfl
  window := rfl
  content := ⟨[], rfl, List.suffix_rfl, List.suffix_rfl⟩

theorem log (tracks : Tracks logged stored) (entry : LogEntry) :
    Tracks (logged ++ [entry]) (stored.log entry) where
  attached := tracks.attached
  window := by
    rw [latest_concat, ← tracks.window]
    rfl
  content := by
    rcases tracks.content with ⟨written, equal, part, holds⟩
    refine ⟨written ++ [entry], ?_, ?_, ?_⟩
    · rw [fileOf_concat, ← equal]
      exact congrArg (stored.content ++ ·) (if_pos tracks.attached)
    · exact (List.suffix_append_inj_of_length_eq rfl).mpr ⟨part, rfl⟩
    · have withEntry : (latest logged).reverse ++ [entry] <:+ written ++ [entry] :=
        (List.suffix_append_inj_of_length_eq rfl).mpr ⟨holds, rfl⟩
      rw [latest_concat]
      rw [← List.reverse_cons] at withEntry
      exact (List.reverse_suffix.mpr (List.take_prefix _ _)).trans withEntry

theorem compact (tracks : Tracks logged stored) : Tracks logged (stored.compact .done).1 where
  attached := rfl
  window := tracks.window
  content := by
    refine ⟨(latest logged).reverse, ?_, latest_suffix logged, List.suffix_rfl⟩
    rw [← tracks.window]
    exact compacted_eq stored.journal

theorem window_reopen (tracks : Tracks logged stored) (readBack : ReadBack logged) :
    stored.reopen.journal.window = latest logged := by
  rcases tracks.content with ⟨written, equal, part, holds⟩
  have reread : stored.reopen.journal.window = latest (entriesOf stored.content) := rfl
  rw [reread, equal, entriesOf_fileOf (readBack.of_subset part.subset),
    latest_eq_of_suffix part holds]

theorem reopen (tracks : Tracks logged stored) (readBack : ReadBack logged) :
    Tracks logged stored.reopen where
  attached := rfl
  window := tracks.window_reopen readBack
  content := tracks.content

end Tracks

theorem tracks_run (steps : List Step) (readBack : ReadBack (logged steps)) :
    Tracks (logged steps) (run steps) := by
  induction steps using List.reverseRec with
  | nil => exact .start
  | append_singleton steps step induction =>
      have entries : logged (steps ++ [step]) = logged steps ++ step.entry?.toList := by
        rw [logged, List.filterMap_append]
        cases step <;> rfl
      have stepped : run (steps ++ [step]) = (run steps).after step := by
        rw [run, List.foldl_concat, run]
      rw [entries] at readBack ⊢
      have tracks := induction (readBack.of_subset (List.subset_append_left _ _))
      rw [stepped]
      cases step with
      | log entry => exact tracks.log entry
      | compact =>
          rw [Step.entry?, Option.toList_none, List.append_nil]
          exact tracks.compact
      | reopen =>
          rw [Step.entry?, Option.toList_none, List.append_nil] at readBack ⊢
          exact tracks.reopen readBack

def lastOf (logged : List LogEntry) : List LogEntry :=
  logged.drop (logged.length - min logged.length 5000)

theorem lastOf_eq (logged : List LogEntry) :
    lastOf logged = logged.drop (logged.length - capacity) := by
  have count : logged.length - min logged.length 5000 = logged.length - capacity := by
    rw [capacity]
    omega
  rw [lastOf, count]

theorem reverse_latest (logged : List LogEntry) : (latest logged).reverse = lastOf logged := by
  rw [latest, lastOf_eq, List.reverse_take, List.reverse_reverse, List.length_reverse]

/-- A journal that mirrors what was logged. -/
structure Mirrors (logged : List LogEntry) (stored : StoredJournal) : Prop where
  window : stored.journal.window.reverse = lastOf logged
  recent : ∀ limit, stored.journal.recent limit = (lastOf logged).reverse.take limit
  /-- The file ends with the lines of the entries in memory. -/
  ends : (lastOf logged).map lineOf <:+ lines stored.content
  /-- After a compaction the file has no other lines, and the memory is the same. -/
  compacted : lines (stored.after .compact).content = (lastOf logged).map lineOf ∧
    (stored.after .compact).journal.window = stored.journal.window
  reopened : (stored.after .reopen).journal.window = stored.journal.window

/-- After every run the journal mirrors the entries that were logged, if they are read
back from their lines. -/
theorem mirrors_run (steps : List Step) (readBack : ReadBack (logged steps)) :
    Mirrors (logged steps) (run steps) := by
  have tracks := tracks_run steps readBack
  have window : (run steps).journal.window.reverse = lastOf (logged steps) := by
    rw [tracks.window, reverse_latest]
  refine ⟨window, ?_, ?_, ⟨?_, rfl⟩, ?_⟩
  · intro limit
    rw [← window, List.reverse_reverse]
    rfl
  · rcases tracks.content with ⟨written, equal, _, holds⟩
    rw [equal, lines_fileOf, ← reverse_latest]
    exact holds.map lineOf
  · rw [← window, ← lines_fileOf, ← compacted_eq]
    rfl
  · rw [tracks.window]
    exact tracks.window_reopen readBack

def firstEntry : LogEntry where
  timestamp := ⟨1577934245, 120000000⟩
  note :=
    { Note.ofRequest "req-1" .debug "transform" "first\nof \"all\"" with
      context := some (.object [("betas", .array [.string "é", .null])]) }

def secondEntry : LogEntry where
  timestamp := ⟨1577934246, 0⟩
  note := .plain .warn "server" "second"

theorem readBack_firstEntry_secondEntry : ReadBack [firstEntry, secondEntry] := by
  intro entry member
  rcases List.mem_pair.mp member with rfl | rfl
  · decide +kernel
  · decide +kernel

/-- A run that compacts the file between two entries and opens it again after them. -/
theorem mirrors_compactedRun :
    let steps : List Step := [.log firstEntry, .compact, .log secondEntry, .reopen]
    logged steps = [firstEntry, secondEntry] ∧ ReadBack [firstEntry, secondEntry] ∧
      Mirrors [firstEntry, secondEntry] (run steps) :=
  ⟨rfl, readBack_firstEntry_secondEntry,
    mirrors_run [.log firstEntry, .compact, .log secondEntry, .reopen]
      readBack_firstEntry_secondEntry⟩

end StoredJournal

end ChatGateway

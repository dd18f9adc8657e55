import ChatGateway.Proofs.JournalRuns

namespace ChatGateway

/-! Journals whose file fails. A compaction gives the file up before it empties it, and
takes it up again at its very end. One that fails between the two leaves the memory as it
was, and no file: what is logged then reaches the memory alone, until a compaction succeeds
or the journal is opened again. -/

namespace StoredJournal

open Journal

/-! What reaches the memory, and what reaches the file. -/

theorem window_foldl_log {stored other : StoredJournal}
    (same : stored.journal.window = other.journal.window) (entries : List LogEntry) :
    (entries.foldl log stored).journal.window = (entries.foldl log other).journal.window := by
  induction entries generalizing stored other with
  | nil => exact same
  | cons entry entries induction =>
      apply induction
      exact congrArg (fun window => (entry :: window).take capacity) same

theorem appends_foldl_log_iff (stored : StoredJournal) (entries : List LogEntry) :
    (entries.foldl log stored).content = stored.content ++ fileOf entries ↔
      stored.journal.attached = true ∨ entries = [] := by
  rw [content_foldl_log, ByteArray.append_right_inj]
  cases stored.journal.attached with
  | true => exact iff_of_true rfl (.inl rfl)
  | false =>
      rw [or_iff_right Bool.false_ne_true, ← fileOf_eq_empty_iff]
      exact eq_comm

/-- A compaction reports its error and keeps the entries in memory, which goes on as if
there had been none. The file goes on just when no operation of the compaction failed;
otherwise nothing that is logged behind it is written. -/
theorem logging_goes_on_iff (stored : StoredJournal) (ended : CompactionEnd)
    (entries : List LogEntry) :
    let compacted := (stored.compact ended).1
    let later := entries.foldl log compacted
    (stored.compact ended).2 = ended.result ∧
      compacted.journal.window = stored.journal.window ∧
      later.journal.window = (entries.foldl log stored).journal.window ∧
      (later.content = compacted.content ++ fileOf entries ↔ ended = .done ∨ entries = []) ∧
      (ended ≠ .done → later.content = compacted.content) := by
  intro compacted later
  have attached : compacted.journal.attached = (ended == .done) := rfl
  have window : compacted.journal.window = stored.journal.window := rfl
  refine ⟨rfl, window, window_foldl_log window entries, ?_, ?_⟩
  · rw [appends_foldl_log_iff, attached, beq_iff_eq]
  · intro failed
    rw [content_foldl_log, attached, beq_false_of_ne failed]
    exact ByteArray.append_empty

/-- An entry that is logged after a compaction failed, at whichever of its operations: the
memory has it, and the file does not. -/
theorem entry_lost_of_failedCompaction :
    let stored := (ofContent .empty).log firstEntry
    ∀ ended ∈ [CompactionEnd.notEmptied .notFound, .notWritten 0 .notFound,
        .notReopened .notFound],
      let compacted := (stored.compact ended).1
      let later := compacted.log secondEntry
      (stored.compact ended).2 = .error .notFound ∧
        later.journal.window = [secondEntry, firstEntry] ∧
        later.content = compacted.content ∧
        later.content ≠ compacted.content ++ lineBytes secondEntry := by
  decide +kernel

/-! Runs in which compactions fail. -/

inductive Attempt where
  | log (entry : LogEntry)
  | compact (ended : CompactionEnd)
  | reopen

/-- Whether the file is open for appending behind the attempt; none where that stays as it was. -/
def Attempt.opens? : Attempt → Option Bool
  | .log _ => none
  | .compact ended => some (ended == .done)
  | .reopen => some true

def attempt (stored : StoredJournal) : Attempt → StoredJournal
  | .log entry => stored.log entry
  | .compact ended => (stored.compact ended).1
  | .reopen => stored.reopen

theorem attached_attempt (stored : StoredJournal) (tried : Attempt) :
    (stored.attempt tried).journal.attached = tried.opens?.getD stored.journal.attached := by
  cases tried <;> rfl

theorem attached_foldl_attempt (stored : StoredJournal) (attempts : List Attempt) :
    (attempts.foldl attempt stored).journal.attached =
      (attempts.filterMap Attempt.opens?).getLast?.getD stored.journal.attached := by
  induction attempts using List.reverseRec with
  | nil => rfl
  | append_singleton attempts tried induction =>
      rw [List.foldl_concat, attached_attempt, induction, List.filterMap_append,
        List.getLast?_append, List.filterMap_cons, List.filterMap_nil]
      cases tried.opens? <;> rfl

/-- After any run entries are written just when the last attempt of the run to open the
file did not fail. -/
theorem appends_after_attempts_iff (stored : StoredJournal) (attempts : List Attempt)
    (entries : List LogEntry) :
    let reached := attempts.foldl attempt stored
    (entries.foldl log reached).content = reached.content ++ fileOf entries ↔
      (attempts.filterMap Attempt.opens?).getLast?.getD stored.journal.attached = true ∨
        entries = [] := by
  intro reached
  rw [appends_foldl_log_iff, attached_foldl_attempt]

end StoredJournal

end ChatGateway

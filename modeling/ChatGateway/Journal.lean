import ChatGateway.Journal.Entry
import ChatGateway.SystemFault

namespace ChatGateway

/-! The journal keeps the latest entries in memory and all entries in a file, one
a line. The file outlives the process: opening it again loads the latest entries
that can be read. -/

def Journal.capacity : Nat := 5000

structure Journal where
  /-- The latest entries, newest first. -/
  window : List LogEntry
  /-- The file is open for appending. Without it entries reach the memory only. -/
  attached : Bool
  deriving DecidableEq, Inhabited

namespace Journal

/-! Lines of a file. A line ends at its line feed; what follows the last one is a
line only when it is not empty. -/

def newline : UInt8 := 10

def linesFrom (begun : List UInt8) : List UInt8 → List (List UInt8)
  | [] => if begun.isEmpty then [] else [begun.reverse]
  | byte :: rest =>
      if byte = newline then begun.reverse :: linesFrom [] rest
      else linesFrom (byte :: begun) rest

def lines (content : ByteArray) : List (List UInt8) :=
  linesFrom [] content.data.toList

def textOf? (line : List UInt8) : Option String :=
  String.fromUTF8? ⟨line.toArray⟩

/-- The lines as far as they are UTF-8: nothing is read beyond the first that is not. -/
def readableLines : List (List UInt8) → List String
  | [] => []
  | line :: rest =>
      match textOf? line with
      | some text => text :: readableLines rest
      | none => []

/-- The entries that a file holds; other lines are skipped. -/
def entriesOf (content : ByteArray) : List LogEntry :=
  (readableLines (lines content)).filterMap LogEntry.ofLine?

/-! Memory. -/

def latest (entries : List LogEntry) : List LogEntry :=
  entries.reverse.take capacity

def ofContent (content : ByteArray) : Journal where
  window := latest (entriesOf content)
  attached := true

def remember (journal : Journal) (entry : LogEntry) : Journal :=
  { journal with window := (entry :: journal.window).take capacity }

def recent (journal : Journal) (limit : Nat) : List LogEntry :=
  journal.window.take limit

def count (journal : Journal) : Nat :=
  journal.window.length

/-! The file. -/

def lineBytes (entry : LogEntry) : ByteArray :=
  (entry.line ++ "\n").toUTF8

def appended (journal : Journal) (entry : LogEntry) : ByteArray :=
  if journal.attached then lineBytes entry else .empty

def compacted (journal : Journal) : ByteArray :=
  journal.window.foldr (fun entry written => written ++ lineBytes entry) .empty

/-- How the operations on the file of a compaction end. The file is given up for
appending before the first of them, and is taken up again after the last. -/
inductive CompactionEnd where
  | done
  /-- The file could not be emptied. -/
  | notEmptied (fault : SystemFault)
  /-- Only so many bytes were written. -/
  | notWritten (written : Nat) (fault : SystemFault)
  /-- The file could not be opened again for appending. -/
  | notReopened (fault : SystemFault)
  deriving DecidableEq, Inhabited

def CompactionEnd.result : CompactionEnd → Except SystemFault Unit
  | .done => .ok ()
  | .notEmptied fault | .notWritten _ fault | .notReopened fault => .error fault

def afterCompaction (journal : Journal) (ended : CompactionEnd) : Journal :=
  { journal with attached := ended == .done }

end Journal

structure StoredJournal where
  journal : Journal
  content : ByteArray
  deriving Inhabited

namespace StoredJournal

def ofContent (content : ByteArray) : StoredJournal where
  journal := .ofContent content
  content := content

def log (stored : StoredJournal) (entry : LogEntry) : StoredJournal :=
  let { journal, content } := stored
  { journal := journal.remember entry
    content := content ++ journal.appended entry }

/-- What the file holds after a compaction that began with `content`. -/
def contentAfter (journal : Journal) (content : ByteArray) : Journal.CompactionEnd → ByteArray
  | .done | .notReopened _ => journal.compacted
  | .notEmptied _ => content
  | .notWritten written _ => journal.compacted.extract 0 written

def compact (stored : StoredJournal) (ended : Journal.CompactionEnd) :
    StoredJournal × Except SystemFault Unit :=
  ({ journal := stored.journal.afterCompaction ended
     content := contentAfter stored.journal stored.content ended }, ended.result)

def reopen (stored : StoredJournal) : StoredJournal :=
  ofContent stored.content

end StoredJournal

end ChatGateway

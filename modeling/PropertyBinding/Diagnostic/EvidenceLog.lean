import PropertyBinding.Diagnostic.Failure

namespace PropertyBinding

/-!
# Evidence logs

An evidence log keeps failures as lines of text.  Text gathers in a buffer and
reaches the medium when the buffer is emptied, or at once when it is too long
for the buffer.
-/

/-- Why a log did not take a text. -/
inductive LogError where
  /-- The medium takes nothing any more. -/
  | broken
deriving Repr, DecidableEq

namespace LogError

/-- The message for a log that did not take a text. -/
def message : LogError → String
  | .broken => "broken pipe"

end LogError

/-- What becomes of the text that leaves the buffer. -/
inductive Medium where
  /-- Text is kept after the text before it. -/
  | kept
  /-- No text is taken. -/
  | broken
deriving Repr, DecidableEq

/-- A log of lines. -/
structure EvidenceLog where
  medium : Medium
  /-- Whether the buffer is emptied after each line. -/
  flushOnWrite : Bool
  /-- The number of lines that the log took. -/
  lines : Nat := 0
  /-- The text that has not reached the medium. -/
  buffer : String := ""
  /-- The text that has reached the medium. -/
  written : String := ""
deriving Repr, DecidableEq

namespace EvidenceLog

/-- A step of a log, which can fail after it has changed the log. -/
abbrev Step : Type := ExceptT LogError (StateM EvidenceLog) Unit

/-- The number of bytes that the buffer has room for. -/
def bufferSize : Nat := 8192

/-- The number of bytes that the buffer still has room for. -/
def room (log : EvidenceLog) : Nat :=
  bufferSize - log.buffer.utf8ByteSize

/-- Hands a text to the medium. -/
def deliver (text : String) : Step := do
  let log ← get
  match log.medium with
  | .kept => set { log with written := log.written ++ text }
  | .broken => throw .broken

/-- Empties the buffer. -/
def emptyBuffer : Step := do
  let log ← get
  if log.buffer.isEmpty then
    return
  deliver log.buffer
  modify fun log => { log with buffer := "" }

/-- Takes a text that fits in one piece, after making room for it if need be. -/
def append (text : String) : Step := do
  let log ← get
  if log.room < text.utf8ByteSize then
    emptyBuffer
  if bufferSize ≤ text.utf8ByteSize then
    deliver text
  else
    modify fun log => { log with buffer := log.buffer ++ text }

/-- Empties the buffer and makes sure that the medium still takes text. -/
def flush : Step := do
  emptyBuffer
  deliver ""

/-- Takes a line. -/
def addLine (line : String) : Step := do
  append line
  append "\n"
  modify fun log => { log with lines := log.lines + 1 }
  if (← get).flushOnWrite then
    flush

end EvidenceLog

end PropertyBinding

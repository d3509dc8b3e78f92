import PropertyBinding.Diagnostic.EvidenceLog

namespace PropertyBinding

/-!
# The text of evidence logs

The text that a log has taken is what has reached the medium and what waits in the buffer
after it.  As long as the medium takes what it is handed, a line comes to the end of the
text whole, whatever way through the buffer it goes, and emptying the buffer changes
nothing of the text.
-/

namespace EvidenceLog

/-- The text that a log has taken, wherever it is by now. -/
def text (log : EvidenceLog) : String :=
  log.written ++ log.buffer

/-- What a step of a log answers, and the log after it. -/
def after (log : EvidenceLog) (step : Step) : Except LogError Unit × EvidenceLog :=
  step.run.run log

/-- Whether a log took a text and no line to its end. -/
structure Took (former log : EvidenceLog) (added : String) : Prop where
  medium : log.medium = former.medium
  flushOnWrite : log.flushOnWrite = former.flushOnWrite
  lines : log.lines = former.lines
  text : log.text = former.text ++ added

/-- Whether a step succeeds and takes a text, on every log whose medium takes text. -/
def Takes (step : Step) (added : String) : Prop :=
  ∀ log : EvidenceLog, log.medium = .kept →
    ∃ later, log.after step = (.ok (), later) ∧ log.Took later added

/-- Whether a step leaves the medium as it is, also if it fails. -/
def Steadfast (step : Step) : Prop :=
  ∀ log : EvidenceLog, (log.after step).2.medium = log.medium

/-! ## Steps in sequence -/

theorem after_bind (log : EvidenceLog) (step next : Step) :
    log.after (do step; next) = match log.after step with
      | (.ok _, middle) => middle.after next
      | (.error error, middle) => (.error error, middle) := by
  unfold after
  rw [ExceptT.run_bind, StateT.run_bind]
  rcases step.run.run log with ⟨answer, middle⟩
  cases answer <;> rfl

theorem Took.trans {former middle log : EvidenceLog} {added more : String}
    (first : former.Took middle added) (second : middle.Took log more) :
    former.Took log (added ++ more) where
  medium := second.medium.trans first.medium
  flushOnWrite := second.flushOnWrite.trans first.flushOnWrite
  lines := second.lines.trans first.lines
  text := by rw [second.text, first.text, String.append_assoc]

theorem Takes.bind {step next : Step} {added more : String} (first : Takes step added)
    (second : Takes next more) : Takes (do step; next) (added ++ more) := by
  intro log kept
  rcases first log kept with ⟨middle, done, took⟩
  rcases second middle (took.medium.trans kept) with ⟨later, finished, took'⟩
  exact ⟨later, by rw [after_bind, done]; exact finished, took.trans took'⟩

theorem Steadfast.bind {step next : Step} (first : Steadfast step) (second : Steadfast next) :
    Steadfast (do step; next) := by
  intro log
  rw [after_bind, ← first log]
  rcases log.after step with ⟨answer, middle⟩
  cases answer with
  | ok _ => exact second middle
  | error _ => rfl

/-- A step that looks at the log first is the step it chooses there. -/
theorem after_get (log : EvidenceLog) (next : EvidenceLog → Step) :
    log.after (get >>= next) = log.after (next log) := rfl

theorem after_deliver (log : EvidenceLog) (text : String) :
    log.after (deliver text) = match log.medium with
      | .kept => (.ok (), { log with written := log.written ++ text })
      | .broken => (.error .broken, log) := by
  rw [deliver, after_get]
  cases log.medium <;> rfl

theorem steadfast_deliver (text : String) : Steadfast (deliver text) := by
  intro log
  rw [after_deliver]
  cases medium : log.medium <;> simp [medium]

theorem steadfast_modify {change : EvidenceLog → EvidenceLog}
    (same : ∀ log, (change log).medium = log.medium) : Steadfast (modify change) :=
  same

/-! ## The operations of a log -/

/-- Emptying the buffer hands all text to the medium. -/
theorem after_emptyBuffer {log : EvidenceLog} (kept : log.medium = .kept) :
    log.after emptyBuffer = (.ok (), { log with written := log.text, buffer := "" }) := by
  rw [emptyBuffer, after_get]
  split
  · next empty =>
    have empty : log.buffer = "" := by simpa using empty
    have same : { log with written := log.text, buffer := "" } = log := by
      rw [text, empty, String.append_empty]
      cases log
      cases empty
      rfl
    rw [same]
    rfl
  · rw [after_bind, after_deliver, kept]
    rfl

theorem takes_emptyBuffer : Takes emptyBuffer "" :=
  fun log kept => ⟨_, after_emptyBuffer kept, rfl, rfl, rfl, by simp [text]⟩

/-- Takes a text that there is room for, if there is room for it in the buffer at all. -/
def settle (added : String) : Step :=
  if bufferSize ≤ added.utf8ByteSize then
    deliver added
  else
    modify fun log => { log with buffer := log.buffer ++ added }

theorem after_append (log : EvidenceLog) (added : String) :
    log.after (append added) = log.after
      (if log.room < added.utf8ByteSize then (do emptyBuffer; settle added) else settle added) := by
  rw [append, after_get]
  by_cases long : bufferSize ≤ added.utf8ByteSize
  · simp only [settle, if_pos long]
  · simp only [settle, if_neg long]

/-- A text goes to the medium at once only if nothing waits in the buffer. -/
theorem takes_settle {log : EvidenceLog} {added : String} (kept : log.medium = .kept)
    (first : log.buffer = "" ∨ added.utf8ByteSize < bufferSize) :
    ∃ later, log.after (settle added) = (.ok (), later) ∧ log.Took later added := by
  unfold settle
  split
  · next long =>
    have empty := first.resolve_right (Nat.not_lt_of_le long)
    rw [after_deliver, kept]
    exact ⟨_, rfl, kept.symm ▸ rfl, rfl, rfl, by simp [text, empty]⟩
  · exact ⟨_, rfl, rfl, rfl, rfl, by simp [text, String.append_assoc]⟩

theorem takes_append (added : String) : Takes (append added) added := by
  intro log kept
  rw [after_append]
  split
  · rw [after_bind, after_emptyBuffer kept]
    have emptied : { log with written := log.text, buffer := "" : EvidenceLog }.medium = .kept :=
      kept
    rcases takes_settle emptied (.inl rfl) with ⟨later, done, took⟩
    exact ⟨later, done, took.medium, took.flushOnWrite, took.lines, by simpa [text] using took.text⟩
  · next room =>
    refine takes_settle kept ?_
    by_cases short : added.utf8ByteSize < bufferSize
    · exact .inr short
    · -- where a text as long as the buffer fits, nothing waits
      have none : log.buffer.utf8ByteSize = 0 := by
        unfold EvidenceLog.room at room
        unfold bufferSize at room short
        omega
      exact .inl (by simpa using none)

theorem takes_flush : Takes flush "" := by
  have delivers : Takes (deliver "") "" := by
    intro log kept
    rw [after_deliver, kept]
    exact ⟨_, rfl, kept.symm ▸ rfl, rfl, rfl, by simp [text]⟩
  exact takes_emptyBuffer.bind delivers

/-- Flushing hands all text to the medium, which still takes text. -/
theorem after_flush {log : EvidenceLog} (kept : log.medium = .kept) :
    log.after flush = (.ok (), { log with written := log.text, buffer := "" }) := by
  rw [flush, after_bind, after_emptyBuffer kept]
  dsimp only
  rw [after_deliver]
  dsimp only
  rw [kept]
  simp

/--
A line comes to the end of the text, and is counted.  What is left to do is to
flush, if the log flushes after each line.
-/
theorem after_addLine_parts {log : EvidenceLog} (kept : log.medium = .kept) (line : String) :
    ∃ counted : EvidenceLog, counted.medium = .kept ∧
      counted.flushOnWrite = log.flushOnWrite ∧ counted.lines = log.lines + 1 ∧
      counted.text = log.text ++ (line ++ "\n") ∧
      log.after (addLine line) =
        counted.after (if counted.flushOnWrite then flush else pure ()) := by
  rcases takes_append line log kept with ⟨written, wrote, took⟩
  rcases takes_append "\n" written (took.medium.trans kept) with ⟨broken, broke, ended⟩
  have whole := took.trans ended
  refine ⟨{ broken with lines := broken.lines + 1 }, whole.medium.trans kept, whole.flushOnWrite,
    congrArg (· + 1) whole.lines, whole.text, ?_⟩
  rw [addLine, after_bind, wrote]
  show written.after (do append "\n"; _) = _
  rw [after_bind, broke]
  rfl

/-- A line comes to the end of the text, and is counted. -/
theorem after_addLine {log : EvidenceLog} (kept : log.medium = .kept) (line : String) :
    ∃ later, log.after (addLine line) = (.ok (), later) ∧ later.medium = .kept ∧
      later.lines = log.lines + 1 ∧ later.text = log.text ++ (line ++ "\n") := by
  rcases after_addLine_parts kept line with ⟨counted, still, _, lines, text, parts⟩
  rw [parts]
  split
  · rw [after_flush still]
    exact ⟨_, rfl, still, lines, by rw [← text]; simp [EvidenceLog.text]⟩
  · exact ⟨counted, rfl, still, lines, text⟩

/-- A log that flushes after each line has nothing waiting after a line. -/
theorem buffer_after_addLine {log : EvidenceLog} (kept : log.medium = .kept)
    (flushes : log.flushOnWrite = true) (line : String) :
    (log.after (addLine line)).2.flushOnWrite = true ∧
      (log.after (addLine line)).2.buffer = "" := by
  rcases after_addLine_parts kept line with ⟨counted, still, same, _, _, parts⟩
  rw [flushes] at same
  rw [parts, if_pos same, after_flush still]
  exact ⟨same, rfl⟩

/-! ## The medium -/

theorem steadfast_get {next : EvidenceLog → Step} (each : ∀ log, Steadfast (next log)) :
    Steadfast (get >>= next) :=
  fun log => each log log

theorem steadfast_emptyBuffer : Steadfast emptyBuffer := by
  refine steadfast_get fun log => ?_
  split
  · exact fun _ => rfl
  · exact (steadfast_deliver _).bind (steadfast_modify fun _ => rfl)

theorem steadfast_append (added : String) : Steadfast (append added) := by
  have settles : Steadfast (settle added) := by
    unfold settle
    split
    · exact steadfast_deliver added
    · exact steadfast_modify fun _ => rfl
  intro log
  rw [after_append]
  split
  · exact steadfast_emptyBuffer.bind settles log
  · exact settles log

theorem steadfast_flush : Steadfast flush :=
  steadfast_emptyBuffer.bind (steadfast_deliver "")

/-- No line changes what becomes of text. -/
theorem steadfast_addLine (line : String) : Steadfast (addLine line) := by
  refine (steadfast_append line).bind ((steadfast_append "\n").bind
    (Steadfast.bind (steadfast_modify fun _ => rfl) (steadfast_get fun log => ?_)))
  split
  · exact steadfast_flush
  · exact fun _ => rfl

/-! ## Logs that have taken the same -/

/-- Whether a log has taken the same as before, if its medium takes text at all. -/
structure Alike (former log : EvidenceLog) : Prop where
  medium : log.medium = former.medium
  lines : former.medium = .kept → log.lines = former.lines
  text : former.medium = .kept → log.text = former.text

theorem Alike.refl (log : EvidenceLog) : log.Alike log :=
  ⟨rfl, fun _ => rfl, fun _ => rfl⟩

theorem alike_flush (log : EvidenceLog) : log.Alike (log.after flush).2 := by
  refine ⟨steadfast_flush log, fun kept => ?_, fun kept => ?_⟩ <;>
    rcases takes_flush log kept with ⟨later, done, took⟩ <;> rw [done]
  · exact took.lines
  · exact took.text.trans (String.append_empty)

end EvidenceLog

end PropertyBinding

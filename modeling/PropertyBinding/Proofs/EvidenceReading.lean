import PropertyBinding.Proofs.Conservation
import PropertyBinding.Proofs.JsonText

namespace PropertyBinding

/-!
# Evidence read back

The evidence of a failure is the text of a value of a data file, all on one
line.  So the text of a log falls into its lines in one way only, each line
reads back as the value, and the value holds every part of the failure: the
object by its number and generation, and the path only if there is one.  What a
log has taken therefore reads back as the failures that were reported, in their
order, whatever characters are in them.
-/

/-! ## Parts of a failure -/

namespace ObjectId

/-- The id whose slot and whose generation two texts give, the second one behind a point. -/
def ofNumerals? (index : List Char) : List Char → Option ObjectId
  | '.' :: generation =>
      if index ≠ [] ∧ generation ≠ [] ∧ generation.all Char.isDigit = true ∧
          Number.natOfDigits generation < UInt32.size then
        some ⟨Number.natOfDigits index, UInt32.ofNat (Number.natOfDigits generation)⟩
      else
        none
  | _ => none

/-- The id that a text gives. -/
def ofText? (text : String) : Option ObjectId :=
  match text.toList with
  | '#' :: rest => ofNumerals? (rest.takeWhile Char.isDigit) (rest.dropWhile Char.isDigit)
  | _ => none

/-- The text of an id gives the id. -/
theorem ofText?_text (id : ObjectId) : ofText? id.text = some id := by
  rcases id with ⟨index, generation⟩
  have written : (ObjectId.text ⟨index, generation⟩).toList =
      '#' :: (Nat.toDigits 10 index ++ '.' :: Nat.toDigits 10 generation.toNat) := by
    show ("#" ++ toString index ++ "." ++ toString generation.toNat).toList = _
    simp
  have cut := Number.splitRun (Number.allDigits_toDigits index)
    ('.' :: Nat.toDigits 10 generation.toNat) rfl
  have sound : Nat.toDigits 10 index ≠ [] ∧ Nat.toDigits 10 generation.toNat ≠ [] ∧
      (Nat.toDigits 10 generation.toNat).all Char.isDigit = true ∧
        Number.natOfDigits (Nat.toDigits 10 generation.toNat) < UInt32.size := by
    rw [Number.natOfDigits_toDigits]
    exact ⟨Nat.toDigits_ne_nil, Nat.toDigits_ne_nil,
      List.all_eq_true.mpr (Number.allDigits_toDigits _), generation.toNat_lt⟩
  unfold ofText?
  rw [written]
  show ofNumerals? (List.takeWhile _ _) (List.dropWhile _ _) = _
  rw [cut.1, cut.2, ofNumerals?, if_pos sound, Number.natOfDigits_toDigits,
    Number.natOfDigits_toDigits, UInt32.ofNat_toNat]

end ObjectId

namespace FailureKind

theorem ofName?_name (kind : FailureKind) : ofName? kind.name = some kind := by
  cases kind <;> rfl

end FailureKind

namespace Location

/-- A location as a value of a data file. -/
def toJson (location : Location) : Json :=
  .object [("url", .string location.url), ("line", .natural location.line),
    ("column", .natural location.column)]

/-- The location that a value gives. -/
def ofJson? (json : Json) : Option Location := do
  let url ← (← json.member? "url").asString?
  let line ← (← json.member? "line").asNatural?
  let column ← (← json.member? "column").asNatural?
  return ⟨url, line, column⟩

theorem ofJson?_toJson (location : Location) : ofJson? location.toJson = some location := by
  simp [toJson, ofJson?, Json.member?, Json.asString?, Json.asNatural?_natural]

end Location

namespace Failure

/-- A failure as a value of a data file. -/
def toJson (failure : Failure) : Json :=
  .object ([("event", .string "binding_error"), ("kind", .string failure.kind.name),
    ("location", failure.location.toJson),
    ("object", (failure.object?.map fun id => .string id.text).getD .null),
    ("message", .string failure.message)] ++
      (failure.path?.map fun path => ("property_path", .string path)).toList)

/-- The object that the value of a failure gives; it is there, and may be nothing. -/
def objectOf? : Json → Option (Option ObjectId)
  | .null => some none
  | .string text => (ObjectId.ofText? text).map some
  | _ => none

/-- The failure that a value gives. -/
def ofJson? (json : Json) : Option Failure := do
  let event ← (← json.member? "event").asString?
  let kind ← FailureKind.ofName? (← (← json.member? "kind").asString?)
  let location ← Location.ofJson? (← json.member? "location")
  let object? ← objectOf? (← json.member? "object")
  let message ← (← json.member? "message").asString?
  let path? ← match json.member? "property_path" with
    | none => some none
    | some path => path.asString?.map some
  if event = "binding_error" then some ⟨kind, location, object?, message, path?⟩ else none

theorem ofJson?_toJson (failure : Failure) : ofJson? failure.toJson = some failure := by
  rcases failure with ⟨kind, location, object?, message, path?⟩
  cases object? <;> cases path? <;>
    simp [toJson, ofJson?, objectOf?, Json.member?, Json.asString?, FailureKind.ofName?_name,
      Location.ofJson?_toJson, ObjectId.ofText?_text]

/-- The evidence of a failure is the text of its value. -/
theorem evidence_eq_text (failure : Failure) : failure.evidence = failure.toJson.text := by
  have opening : "\x7b\"event\":\"binding_error\",\"kind\":" =
      "\x7b" ++ Text.quoted "event" ++ ":" ++ Text.quoted "binding_error" ++ "," ++
        Text.quoted "kind" ++ ":" := by decide
  have location : ",\"location\":\x7b\"url\":" =
      "," ++ Text.quoted "location" ++ ":\x7b" ++ Text.quoted "url" ++ ":" := by decide
  have line : ",\"line\":" = "," ++ Text.quoted "line" ++ ":" := by decide
  have column : ",\"column\":" = "," ++ Text.quoted "column" ++ ":" := by decide
  have object : "\x7d,\"object\":" = "\x7d," ++ Text.quoted "object" ++ ":" := by decide
  have message : ",\"message\":" = "," ++ Text.quoted "message" ++ ":" := by decide
  have path : ",\"property_path\":" = "," ++ Text.quoted "property_path" ++ ":" := by decide
  rcases failure with ⟨kind, place, object?, text, path?⟩
  rw [← String.toList_inj]
  unfold evidence
  simp only [opening, location, line, column, object, message]
  cases object? <;> cases path? <;>
    simp [quotedObject, quotedPath, path, toJson, Location.toJson, Json.text, Json.chars,
      Json.memberChars, Json.membersChars, Json.chars_natural]

/-- No character of the evidence of a failure is a control character. -/
theorem visible_evidence (failure : Failure) : Json.Visible failure.evidence.toList := by
  rw [evidence_eq_text, Json.text, String.toList_ofList]
  exact Json.visible_chars failure.toJson

end Failure

/-! ## Lines -/

namespace Evidence

/-- The lines of a text whose first line has begun; the last one has to be ended as well. -/
def linesAfter? (line : List Char) : List Char → Option (List String)
  | [] => if line = [] then some [] else none
  | character :: rest =>
      if character = '\n' then
        (linesAfter? [] rest).map fun lines => String.ofList line :: lines
      else
        linesAfter? (line ++ [character]) rest

/-- The lines of a text, if each of them is ended. -/
def lines? (text : String) : Option (List String) :=
  linesAfter? [] text.toList

/-- The failure that a line is evidence of. -/
def failure? (line : String) : Option Failure :=
  (Json.read? line).bind Failure.ofJson?

/-- The failures that a text is evidence of, one for each line. -/
def read? (text : String) : Option (List Failure) :=
  (lines? text).bind fun lines => lines.mapM failure?

/-- The evidence of a failure is read as the failure. -/
theorem failure?_evidence (failure : Failure) : failure? failure.evidence = some failure := by
  rw [failure?, failure.evidence_eq_text, Json.read?_text, Option.bind_some,
    Failure.ofJson?_toJson]

/-- A line goes on to its end. -/
theorem linesAfter?_line {body : List Char} (whole : '\n' ∉ body) (line rest : List Char) :
    linesAfter? line (body ++ '\n' :: rest) =
      (linesAfter? [] rest).map fun lines => String.ofList (line ++ body) :: lines := by
  induction body generalizing line with
  | nil => rw [List.nil_append, linesAfter?, if_pos rfl, List.append_nil]
  | cons character body step =>
      rw [List.mem_cons, not_or] at whole
      rw [List.cons_append, linesAfter?, if_neg (Ne.symm whole.1), step whole.2,
        List.append_assoc, List.singleton_append]

/-- Ended lines are taken apart as they were put together. -/
theorem linesAfter?_lines {lines : List String} (whole : ∀ line ∈ lines, '\n' ∉ line.toList) :
    linesAfter? [] (lines.flatMap fun line => line.toList ++ ['\n']) = some lines := by
  induction lines with
  | nil => rfl
  | cons line lines step =>
      rw [List.forall_mem_cons] at whole
      rw [List.flatMap_cons, List.append_assoc, List.singleton_append, linesAfter?_line whole.1,
        step whole.2]
      simp

theorem toList_evidenceText (failures : List Failure) :
    (Diagnostics.evidenceText failures).toList =
      (failures.map Failure.evidence).flatMap fun line => line.toList ++ ['\n'] := by
  have behind : ∀ text : String,
      (failures.foldl (fun text failure => text ++ (failure.evidence ++ "\n")) text).toList =
        text.toList ++ (failures.map Failure.evidence).flatMap fun line => line.toList ++ ['\n'] := by
    induction failures with
    | nil => simp
    | cons failure failures step =>
        intro text
        rw [List.foldl_cons, step]
        simp
  exact behind ""

/-- The evidence of a failure is a single line. -/
theorem not_mem_evidence (failure : Failure) : '\n' ∉ failure.evidence.toList :=
  fun member => absurd (failure.visible_evidence '\n' member) (by decide)

/-- The evidence of some failures has one line for each of them. -/
theorem lines?_evidenceText (failures : List Failure) :
    lines? (Diagnostics.evidenceText failures) = some (failures.map Failure.evidence) := by
  rw [lines?, toList_evidenceText, linesAfter?_lines]
  intro line member
  rcases List.mem_map.mp member with ⟨failure, _, rfl⟩
  exact not_mem_evidence failure

/-- The evidence of some failures reads back as the failures. -/
theorem read?_evidenceText (failures : List Failure) :
    read? (Diagnostics.evidenceText failures) = some failures := by
  rw [read?, lines?_evidenceText, Option.bind_some]
  induction failures with
  | nil => rfl
  | cons failure failures step =>
      rw [List.map_cons, List.mapM_cons, failure?_evidence, step]
      rfl

end Evidence

/-! ## Logs -/

namespace EvidenceLog

/-- Takes the evidence of some failures in turn. -/
def takeAll (failures : List Failure) : Step :=
  failures.forM fun failure => addLine failure.evidence

/-- Whether what a log has taken is the evidence of some failures. -/
structure Holds (log : EvidenceLog) (failures : List Failure) : Prop where
  /-- The text is the evidence of each failure, ended by a line feed, in order. -/
  text : log.text = Diagnostics.evidenceText failures
  /-- There is one line for each failure. -/
  count : log.lines = failures.length
  /-- No line feed is inside of a line. -/
  whole : ∀ failure ∈ failures, '\n' ∉ failure.evidence.toList
  /-- The lines of the text are the evidence of the failures. -/
  lines : Evidence.lines? log.text = some (failures.map Failure.evidence)
  /-- The text reads back as the failures, with all their parts. -/
  reads : Evidence.read? log.text = some failures
  /-- Once flushed, the log has handed the text to the medium. -/
  settles : log.after flush =
    (.ok (), { log with written := Diagnostics.evidenceText failures, buffer := "" })

/-- A log whose medium takes text holds failures if it has taken their lines. -/
theorem holds_of_text {log : EvidenceLog} {failures : List Failure} (kept : log.medium = .kept)
    (text : log.text = Diagnostics.evidenceText failures) (count : log.lines = failures.length) :
    log.Holds failures where
  text := text
  count := count
  whole failure _ := Evidence.not_mem_evidence failure
  lines := by rw [text, Evidence.lines?_evidenceText]
  reads := by rw [text, Evidence.read?_evidenceText]
  settles := by rw [after_flush kept, text]

theorem evidenceText_append (failures more : List Failure) :
    Diagnostics.evidenceText (failures ++ more) =
      Diagnostics.evidenceText failures ++ Diagnostics.evidenceText more := by
  rw [← String.toList_inj, String.toList_append, Evidence.toList_evidenceText,
    Evidence.toList_evidenceText, Evidence.toList_evidenceText, List.map_append,
    List.flatMap_append]

/-- A log takes the evidence of one failure after the other. -/
theorem after_takeAll {log : EvidenceLog} (kept : log.medium = .kept) (failures : List Failure) :
    ∃ later, log.after (takeAll failures) = (.ok (), later) ∧ later.medium = .kept ∧
      later.lines = log.lines + failures.length ∧
      later.text = log.text ++ Diagnostics.evidenceText failures ∧
      (log.flushOnWrite = true → log.buffer = "" → later.buffer = "") := by
  induction failures generalizing log with
  | nil => exact ⟨log, rfl, kept, rfl, by simp [Diagnostics.evidenceText], fun _ empty => empty⟩
  | cons failure failures step =>
      rcases after_addLine kept failure.evidence with ⟨middle, took, still, lines, text⟩
      rcases step still with ⟨later, done, ends, lines', text', flushed⟩
      refine ⟨later, ?_, ends, ?_, ?_, fun flushes _ => ?_⟩
      · show log.after (do addLine failure.evidence; takeAll failures) = _
        rw [after_bind, took]
        exact done
      · rw [lines', lines, List.length_cons]
        omega
      · have first : Diagnostics.evidenceText [failure] = failure.evidence ++ "\n" := by
          simp [Diagnostics.evidenceText]
        rw [text', text, ← List.singleton_append, evidenceText_append, first, String.append_assoc]
      · have empty := buffer_after_addLine kept flushes failure.evidence
        rw [took] at empty
        exact flushed empty.1 empty.2

end EvidenceLog

namespace Engine

/--
The evidence log can be read back.

A new log whose medium takes text takes the evidence of any failures, one line
for each in their order, whatever characters are in them, and if it flushes
after each line the medium has it all.  In a run with any foreign code that uses
what the engine offers, the log of some diagnostics holds the failures that were
reported to them, at every moment and in the order of the reports.  No line
feed is inside of a line, and the lines read back as the failures: kind,
location, object, message and path, and whether there is an object or a path.
-/
theorem evidence_reads_back :
    (∀ (flushOnWrite : Bool) (failures : List Failure), ∃ log : EvidenceLog,
      EvidenceLog.after { medium := .kept, flushOnWrite := flushOnWrite }
          (EvidenceLog.takeAll failures) = (.ok (), log) ∧
        log.Holds failures ∧
        (flushOnWrite = true → log.written = Diagnostics.evidenceText failures)) ∧
    ∀ {σ α : Type} {host : Host σ} {bound : Nat} {schema : Schema} {state : σ}
      {operation : Engine σ α} {result : α} {after : World σ},
      host.Obeys Practice → Practice operation →
      runWithin bound host operation (.initial schema state) = some (result, after) →
      (∃ tale, Chronicled host bound operation (.initial schema state) tale result after) ∧
        ∀ tale, Chronicled host bound operation (.initial schema state) tale result after →
          Throughout (fun past scene => ∀ (id : DiagnosticsId) diagnostics,
            scene.diagnostics[id]? = some diagnostics → ∀ log ∈ diagnostics.log?,
              log.medium = .kept → log.Holds (Ledger.after id past).reported) [] tale after := by
  refine ⟨fun flushOnWrite failures => ?_, fun obeys practice run => ⟨practice.chronicled obeys run, ?_⟩⟩
  · let new : EvidenceLog := { medium := .kept, flushOnWrite := flushOnWrite }
    have kept : new.medium = .kept := rfl
    rcases EvidenceLog.after_takeAll kept failures with ⟨log, took, still, lines, text, flushed⟩
    have empty : new.text = "" := rfl
    rw [empty, String.empty_append] at text
    refine ⟨log, took, EvidenceLog.holds_of_text still text (lines.trans (Nat.zero_add _)), ?_⟩
    intro flushes
    rw [← text, EvidenceLog.text, flushed flushes rfl, String.append_empty]
  · intro tale told
    have conserved : Throughout (fun past scene => scene.Conserved past) [] tale _ :=
      told.throughout (fun turn conserved => turn.conserved conserved) (conserved_initial _ _)
    refine conserved.weaken fun past scene conserved id diagnostics found log member kept => ?_
    have accounted := conserved.kept found
    exact EvidenceLog.holds_of_text kept (accounted.text log member kept)
      (accounted.lines log member kept)

section Awkward

/-! ## Awkward failures -/

/-- Two failures with characters that have to be escaped, and with parts that are empty. -/
def awkwardFailures : List Failure :=
  [{ kind := .compile, location := ⟨"a \"quoted\" \\ path\n.ui", 3, 14⟩,
     message := "tab \t, bell \x07, null \x00 and é😀" },
   { kind := .property, location := .none, object? := some ⟨12, 4294967295⟩, message := "\r\n",
     path? := some "" }]

/-- Makes diagnostics with a log that gathers text, and reports awkward failures. -/
def awkwardReports : Engine Unit Unit := do
  let _ ← createContextWith {} .empty
    { capacity := 2, handler? := some 0, log? := some { medium := .kept, flushOnWrite := false } }
  awkwardFailures.forM (report 0)

/-- The world after the reports. -/
def awkwardWorld : World Unit :=
  ((runWithin 3 eagerHost awkwardReports (.initial .empty ())).map Prod.snd).getD
    (.initial .empty ())

theorem awkwardReports_run :
    runWithin 3 eagerHost awkwardReports (.initial .empty ()) = some ((), awkwardWorld) :=
  runWithin_of_ends _ (by decide +kernel)

theorem awkwardReports_practice : Practice awkwardReports := by
  refine .sequence (Administered.createContextWith _ _ ⟨rfl, by decide, rfl, ?_⟩).practice
    fun _ => .sequence (.report 0 _) fun _ => .sequence (.report 0 _) fun _ => .value ()
  intro log member
  cases member
  exact ⟨rfl, rfl⟩

/-- Awkward failures, and what a handler reports in answer, read back from the log. -/
theorem awkward_failures_read_back :
    (∃ log : EvidenceLog, EvidenceLog.after { medium := .kept, flushOnWrite := true }
        (EvidenceLog.takeAll awkwardFailures) = (.ok (), log) ∧
      Evidence.read? log.written = some awkwardFailures) ∧
    runWithin 3 eagerHost awkwardReports (.initial .empty ()) = some ((), awkwardWorld) ∧
      ∃ diagnostics log, awkwardWorld.diagnostics[0]? = some diagnostics ∧
        diagnostics.log? = some log ∧
        ∃ tale, Chronicled eagerHost 3 awkwardReports (.initial .empty ()) tale () awkwardWorld ∧
          (Ledger.after 0 (incidentsOf tale)).reported.length = 3 ∧
          log.Holds (Ledger.after 0 (incidentsOf tale)).reported := by
  refine ⟨?_, awkwardReports_run, ?_⟩
  · rcases evidence_reads_back.1 true awkwardFailures with ⟨log, took, holds, written⟩
    refine ⟨log, took, ?_⟩
    rw [written rfl, ← holds.text]
    exact holds.reads
  · rcases evidence_reads_back.2 eagerHost_obeys awkwardReports_practice awkwardReports_run with
      ⟨⟨tale, told⟩, throughout⟩
    have kept : (awkwardWorld.diagnostics[0]?).map (fun diagnostics =>
        diagnostics.log?.map fun log => (log.medium, log.lines)) = some (some (.kept, 3)) := by
      decide +kernel
    rcases Option.map_eq_some_iff.mp kept with ⟨diagnostics, found, logged⟩
    rcases Option.map_eq_some_iff.mp logged with ⟨log, there, same⟩
    simp only [Prod.mk.injEq] at same
    have holds := (throughout tale told).ended 0 diagnostics found log there same.1
    rw [List.nil_append] at holds
    exact ⟨diagnostics, log, found, there, tale, told, by rw [← holds.count, same.2], holds⟩

end Awkward

end Engine

end PropertyBinding

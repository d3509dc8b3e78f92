import PropertyBinding.Proofs.Practice

namespace PropertyBinding

/-!
# Diagnostics lose count of nothing

Every failure that diagnostics take is kept, handed out or given up for later ones, and
their evidence log has a line for it, in the order of the reports.  Handlers run after a
report is entered everywhere, so whatever they report, take or resize in turn finds the
books in order.
-/

/-- What a chronicle says about some diagnostics. -/
structure Ledger where
  /-- The failures that the diagnostics have taken. -/
  reported : List Failure := []
  /-- The failures that the diagnostics have handed out. -/
  taken : List Failure := []
  /-- The failures that the diagnostics have taken since they last handed out what they kept. -/
  recent : List Failure := []

namespace Ledger

/-- Enters an incident in the ledger of some diagnostics. -/
def enter (id : DiagnosticsId) (ledger : Ledger) : Incident → Ledger
  | .reports other failure =>
      if other = id then
        { ledger with
          reported := ledger.reported ++ [failure]
          recent := ledger.recent ++ [failure] }
      else
        ledger
  | .takes other failures =>
      if other = id then
        { ledger with taken := ledger.taken ++ failures, recent := [] }
      else
        ledger
  | .fails _ _ | .succeeds _ | .forwards _ _ => ledger

/-- The ledger of some diagnostics after incidents. -/
def after (id : DiagnosticsId) (past : List Incident) : Ledger :=
  past.foldl (enter id) {}

theorem after_append (id : DiagnosticsId) (past incidents : List Incident) :
    after id (past ++ incidents) = incidents.foldl (enter id) (after id past) :=
  List.foldl_append

end Ledger

namespace Diagnostics

/-- The lines by which an evidence log keeps failures. -/
def evidenceText (failures : List Failure) : String :=
  failures.foldl (fun text failure => text ++ (failure.evidence ++ "\n")) ""

/-- Whether diagnostics agree with their ledger, however many failures they keep. -/
structure Tallied (diagnostics : Diagnostics) (ledger : Ledger) : Prop where
  /-- At least one failure may be kept. -/
  positive : 0 < diagnostics.capacity
  /-- A failure is kept, or was handed out, or gave way to a later one. -/
  conserved : diagnostics.evicted + ledger.taken.length + diagnostics.records.length =
    ledger.reported.length
  /-- What was handed out and what is kept is in the order of the reports. -/
  ordered : (ledger.taken ++ diagnostics.records).Sublist ledger.reported
  /-- Of the failures that might be kept, the latest are. -/
  latest : diagnostics.records <:+ ledger.recent
  /-- A log that takes text has a line for each failure. -/
  lines : ∀ log ∈ diagnostics.log?, log.medium = .kept → log.lines = ledger.reported.length
  /-- The lines are in the order of the reports. -/
  text : ∀ log ∈ diagnostics.log?, log.medium = .kept → log.text = evidenceText ledger.reported

/-- Whether diagnostics agree with their ledger and keep no more than they may. -/
structure Accounted (diagnostics : Diagnostics) (ledger : Ledger) : Prop
    extends diagnostics.Tallied ledger where
  bounded : diagnostics.records.length ≤ diagnostics.capacity

/-- What diagnostics are after their log was told of a failure. -/
def witnessed (diagnostics : Diagnostics) (failure : Failure) : Diagnostics :=
  { diagnostics with
    log? := diagnostics.log?.map fun log =>
      (log.after (EvidenceLog.addLine failure.evidence)).2 }

variable {diagnostics former : Diagnostics} {ledger : Ledger}

/-- With the oldest failures gone the others fit, and they are counted. -/
theorem Tallied.trim (tallied : diagnostics.Tallied ledger) :
    diagnostics.trim.Accounted ledger where
  positive := tallied.positive
  conserved := by
    have conserved := tallied.conserved
    simp only [Diagnostics.trim, List.length_drop]
    omega
  ordered := ((List.Sublist.refl _).append (List.drop_sublist _ _)).trans tallied.ordered
  latest := (List.drop_suffix _ _).trans tallied.latest
  lines := tallied.lines
  text := tallied.text
  bounded := by
    simp only [Diagnostics.trim, List.length_drop]
    omega

theorem Fresh.accounted (fresh : diagnostics.Fresh) : diagnostics.Accounted {} where
  positive := fresh.capacity
  conserved := by simp [fresh.evicted, fresh.records]
  ordered := by simp [fresh.records]
  latest := by simp [fresh.records]
  lines log member _ := (fresh.log log member).1
  text log member _ := (fresh.log log member).2
  bounded := by simp [fresh.records]

/-- The log of diagnostics that have kept the same was there before. -/
theorem Alike.before (alike : former.Alike diagnostics) {log : EvidenceLog}
    (member : log ∈ diagnostics.log?) : ∃ before ∈ former.log?, before.Alike log := by
  have related := alike.log
  rw [member] at related
  cases before : former.log? with
  | none =>
      rw [before] at related
      cases related
  | some old =>
      rw [before] at related
      cases related with
      | some same => exact ⟨old, rfl, same⟩

/-- Diagnostics that have kept the same agree with the same ledger. -/
theorem Accounted.alike (accounted : former.Accounted ledger) (alike : former.Alike diagnostics) :
    diagnostics.Accounted ledger where
  positive := alike.capacity ▸ accounted.positive
  conserved := by
    rw [alike.evicted, alike.records]
    exact accounted.conserved
  ordered := alike.records ▸ accounted.ordered
  latest := alike.records ▸ accounted.latest
  lines log member kept := by
    rcases alike.before member with ⟨before, there, same⟩
    have kept := same.medium ▸ kept
    exact (same.lines kept).trans (accounted.lines before there kept)
  text log member kept := by
    rcases alike.before member with ⟨before, there, same⟩
    have kept := same.medium ▸ kept
    exact (same.text kept).trans (accounted.text before there kept)
  bounded := by
    rw [alike.records, alike.capacity]
    exact accounted.bounded

/-- A report is entered in the records, in the log and in the ledger. -/
theorem Accounted.report (accounted : former.Accounted ledger) (failure : Failure) :
    ((former.witnessed failure).record failure).Accounted
      { ledger with
        reported := ledger.reported ++ [failure]
        recent := ledger.recent ++ [failure] } := by
  have conserved := accounted.conserved
  have logs : ∀ log ∈ (former.witnessed failure).log?, log.medium = .kept →
      ∃ before ∈ former.log?, before.medium = .kept ∧ log.lines = before.lines + 1 ∧
        log.text = before.text ++ (failure.evidence ++ "\n") := by
    intro log member kept
    rcases Option.map_eq_some_iff.mp member with ⟨before, there, rfl⟩
    have kept := (EvidenceLog.steadfast_addLine failure.evidence before).symm.trans kept
    rcases EvidenceLog.after_addLine kept failure.evidence with ⟨later, done, _, lines, text⟩
    rw [done]
    exact ⟨before, there, kept, lines, text⟩
  refine Tallied.trim ⟨accounted.positive, ?_, ?_, ?_, fun log member kept => ?_,
    fun log member kept => ?_⟩
  · simp only [List.length_append, List.length_singleton, witnessed]
    omega
  · rw [← List.append_assoc]
    exact accounted.ordered.append (List.Sublist.refl [failure])
  · rcases accounted.latest with ⟨older, same⟩
    exact ⟨older, by rw [← same, List.append_assoc]; rfl⟩
  · rcases logs log member kept with ⟨before, there, still, lines, _⟩
    rw [lines, accounted.lines before there still, List.length_append, List.length_singleton]
  · rcases logs log member kept with ⟨before, there, still, _, text⟩
    rw [text, accounted.text before there still, evidenceText, evidenceText, List.foldl_append]
    rfl

/-- What is handed out is kept no longer. -/
theorem Accounted.take (accounted : former.Accounted ledger) :
    former.take.2.Accounted
      { ledger with taken := ledger.taken ++ former.records, recent := [] } where
  positive := accounted.positive
  conserved := by
    have conserved := accounted.conserved
    simp only [Diagnostics.take, List.length_append, List.length_nil]
    omega
  ordered := by
    simpa only [Diagnostics.take, List.append_nil] using accounted.ordered
  latest := List.suffix_rfl
  lines := accounted.lines
  text := accounted.text
  bounded := Nat.zero_le _

theorem Accounted.setCapacity (accounted : former.Accounted ledger) (capacity : Nat) :
    (former.setCapacity capacity).Accounted ledger :=
  Tallied.trim ⟨Nat.le_max_right _ _, accounted.conserved, accounted.ordered, accounted.latest,
    accounted.lines, accounted.text⟩

end Diagnostics

namespace World

variable {σ : Type} {world : World σ}

theorem witnessed_of_log {world : World σ} {id : DiagnosticsId} {log : EvidenceLog}
    (there : (world.diagnostics[id]?).bind (·.log?) = some log) (failure : Failure) :
    (world.witnessed id failure).diagnostics = world.diagnostics.modify id fun diagnostics =>
      { diagnostics with
        log? := some (log.after (EvidenceLog.addLine failure.evidence)).2 } := by
  unfold witnessed EvidenceLog.after
  rw [there]
  dsimp only
  split <;> rfl

/-- The log of the diagnostics that are named is told, and no other one. -/
theorem diagnostics_witnessed (world : World σ) (id other : DiagnosticsId) (failure : Failure) :
    (world.witnessed id failure).diagnostics[other]? = (world.diagnostics[other]?).map fun former =>
      if id = other then former.witnessed failure else former := by
  cases logged : (world.diagnostics[id]?).bind (·.log?) with
  | none =>
      have same : world.witnessed id failure = world := by rw [witnessed, logged]
      rw [same]
      cases found : world.diagnostics[other]? with
      | none => rfl
      | some former =>
          rw [Option.map_some]
          split
          · next same =>
            rw [same, found, Option.bind_some] at logged
            rw [Diagnostics.witnessed, logged, Option.map_none, ← logged]
          · rfl
  | some log =>
      rw [witnessed_of_log logged, List.getElem?_modify]
      cases found : world.diagnostics[other]? with
      | none => rfl
      | some former =>
          by_cases same : id = other
          · rw [same, found, Option.bind_some] at logged
            simp only [Option.map_eq_map, Option.map_some, if_pos same, Diagnostics.witnessed,
              logged]
          · simp only [Option.map_eq_map, Option.map_some, if_neg same]

/-- A report changes the diagnostics that take it, and no others. -/
theorem diagnostics_noted (world : World σ) (id other : DiagnosticsId) (failure : Failure) :
    (world.noted id failure).diagnostics[other]? = (world.diagnostics[other]?).map fun former =>
      if id = other then (former.witnessed failure).record failure else former := by
  let watched : World σ := { world with warnings := world.warnings ++ [.failure failure] }
  show ((watched.witnessed id failure).diagnostics.modify id
    fun diagnostics => diagnostics.record failure)[other]? = _
  rw [List.getElem?_modify, diagnostics_witnessed watched]
  show _ = (watched.diagnostics[other]?).map _
  cases watched.diagnostics[other]? with
  | none => rfl
  | some former => by_cases same : id = other <;> simp [same]

/-- Whether all diagnostics agree with their ledgers after incidents. -/
def Conserved (past : List Incident) (world : World σ) : Prop :=
  Booked (fun _ diagnostics ledger => diagnostics.Accounted ledger) {} world.diagnostics
    fun id => Ledger.after id past

namespace Conserved

variable {world later : World σ} {past : List Incident}

/-- Work that leaves diagnostics alone keeps them in order, and so do incidents elsewhere. -/
theorem aloof (conserved : world.Conserved past)
    (grows : Grows Diagnostics.Alike Diagnostics.Fresh world.diagnostics later.diagnostics)
    {incidents : List Incident}
    (elsewhere : ∀ id ledger, incidents.foldl (Ledger.enter id) ledger = ledger) :
    later.Conserved (past ++ incidents) := by
  refine conserved.grow grows (fun _ _ _ accounted alike => accounted.alike alike)
    (fun _ _ fresh => fresh.accounted) fun id => ?_
  rw [Ledger.after_append, elsewhere]

/-- One change of the diagnostics that incidents are about keeps all in order. -/
theorem changed (conserved : world.Conserved past) (id : DiagnosticsId)
    (change : Diagnostics → Diagnostics) {incidents : List Incident}
    (diagnostics : ∀ other, later.diagnostics[other]? =
      (world.diagnostics[other]?).map fun former => if id = other then change former else former)
    (kept : ∀ former ledger, world.diagnostics[id]? = some former → former.Accounted ledger →
      (change former).Accounted (incidents.foldl (Ledger.enter id) ledger))
    (elsewhere : ∀ other ledger, (id = other → world.diagnostics[id]? = none) →
      incidents.foldl (Ledger.enter other) ledger = ledger) :
    later.Conserved (past ++ incidents) := by
  refine conserved.change id change diagnostics (fun former found accounted => ?_)
    fun other apart => ?_
  · rw [Ledger.after_append]
    exact kept former _ found accounted
  · rw [Ledger.after_append, elsewhere other _ apart]

/-- A report is entered, whatever else there is to tell with it. -/
theorem noted (conserved : world.Conserved past) (id : DiagnosticsId) (failure : Failure)
    {incidents : List Incident} (diagnostics : later.diagnostics = world.diagnostics)
    (entered : ∀ other ledger, incidents.foldl (Ledger.enter other) ledger =
      (world.filed id failure).foldl (Ledger.enter other) ledger) :
    (later.noted id failure).Conserved (past ++ incidents) := by
  refine conserved.changed id (fun former => (former.witnessed failure).record failure) (fun other => ?_)
    (fun former ledger found accounted => ?_) fun other ledger apart => ?_
  · rw [diagnostics_noted, diagnostics]
  · have there := (List.getElem?_eq_some_iff.mp found).1
    rw [entered, filed, if_pos there]
    simpa only [List.foldl_cons, List.foldl_nil, Ledger.enter, if_true] using
      accounted.report failure
  · rw [entered, filed]
    split
    · next there =>
      have other : id ≠ other := by
        intro same
        exact Nat.not_le_of_lt there (List.getElem?_eq_none_iff.mp (apart same))
      simp only [List.foldl_cons, List.foldl_nil, Ledger.enter, if_neg other]
    · rfl

end Conserved

end World

namespace Engine

variable {σ α : Type} {world after : World σ} {incidents past : List Incident} {result : α}
  {operation : Engine σ α} {rest : Engine σ Unit}

/-- Every turn keeps all diagnostics in agreement with their ledgers. -/
theorem Turn.conserved (turn : Turn operation world incidents result after rest)
    (conserved : world.Conserved past) : after.Conserved (past ++ incidents) := by
  have same : Grows Diagnostics.Alike Diagnostics.Fresh world.diagnostics world.diagnostics :=
    .refl .refl _
  cases turn with
  | still => exact conserved.aloof same fun _ _ => rfl
  | work uneventful steps =>
      exact conserved.aloof (uneventful.aloof steps).diagnostics fun _ _ => rfl
  | report _ id failure => exact conserved.noted id failure rfl fun _ _ => rfl
  | @take _ id diagnostics found =>
      refine conserved.changed id (fun _ => diagnostics.take.2) (fun other => ?_)
        (fun former ledger present accounted => ?_) fun other ledger apart => ?_
      · exact List.getElem?_modify ..
      · rw [found] at present
        cases present
        simpa only [List.foldl_cons, List.foldl_nil, Ledger.enter, if_true] using accounted.take
      · have other : id ≠ other := by
          intro same
          rw [apart same] at found
          cases found
        simp only [List.foldl_cons, List.foldl_nil, Ledger.enter, if_neg other]
  | resize _ id capacity =>
      refine conserved.changed id (fun former => former.setCapacity capacity)
        (fun other => ?_) (fun former ledger present accounted => accounted.setCapacity capacity)
        fun _ _ _ => rfl
      exact List.getElem?_modify ..
  | succeed =>
      refine conserved.aloof ?_ fun _ _ => rfl
      exact same
  | failAtOnce failure found atOnce =>
      exact conserved.noted _ failure rfl fun _ _ => rfl
  | failLater failure =>
      refine conserved.aloof ?_ fun _ _ => rfl
      exact same
  | @failInstead _ id _ earlier failure found deferred waits =>
      refine conserved.noted _ earlier rfl fun _ _ => ?_
      rw [List.foldl_append]
      rfl
  | flush found waits =>
      exact conserved.noted _ _ rfl fun _ _ => rfl

/-- Where nothing has happened, there are no diagnostics. -/
theorem conserved_initial (schema : Schema) (state : σ) :
    (World.initial schema state).Conserved [] :=
  .nil

/--
In a run with any foreign code that uses what the engine offers, handlers that report, take
and resize among it, diagnostics agree with their ledgers at every moment.  They keep at
least one failure and no more than they may.  The failures that gave way, those that were
handed out and those that are kept are as many as were reported.  Those that were handed
out or are kept are in the order of the reports, and those that are kept are the latest
reported since failures were last handed out.  An evidence log whose medium takes text has
one line for each report, in their order.
-/
theorem diagnostics_conserve_reports {host : Host σ} {bound : Nat} {schema : Schema} {state : σ}
    (obeys : host.Obeys Practice) (practice : Practice operation)
    (run : runWithin bound host operation (.initial schema state) = some (result, after)) :
    (∃ tale, Chronicled host bound operation (.initial schema state) tale result after) ∧
      ∀ tale, Chronicled host bound operation (.initial schema state) tale result after →
        Throughout (fun past scene => ∀ (id : DiagnosticsId) diagnostics,
          scene.diagnostics[id]? = some diagnostics →
            diagnostics.Accounted (Ledger.after id past)) [] tale after := by
  refine ⟨practice.chronicled obeys run, fun tale told => ?_⟩
  have conserved : Throughout (fun past scene => scene.Conserved past) [] tale after :=
    told.throughout (fun turn conserved => turn.conserved conserved)
      (conserved_initial schema state)
  exact conserved.weaken fun past scene conserved id diagnostics found =>
    conserved.kept found

section Eager

/-! ## An eager handler -/

/-- A failure that says its kind only. -/
def bareFailure (kind : FailureKind) : Failure :=
  { kind := kind, location := .none, message := kind.name }

/--
A host whose handler answers a failure to compile with a report of its own, has fewer
failures kept, and takes those that are left.
-/
def eagerHost : Host Unit :=
  { Host.silent with
    handle := fun _ failure =>
      if failure.kind = .compile then do
        report 0 (bareFailure .evaluation)
        modifyDiagnostics 0 fun diagnostics => diagnostics.setCapacity 0
        let _ ← takeFailures 0
      else
        return }

/-- Makes diagnostics with a log and with room for two failures, and reports four. -/
def eagerReports : Engine Unit Unit := do
  let _ ← createContextWith {} .empty
    { capacity := 2, handler? := some 0, log? := some { medium := .kept, flushOnWrite := true } }
  report 0 (bareFailure .property)
  report 0 (bareFailure .compile)
  report 0 (bareFailure .property)
  report 0 (bareFailure .bindingLoop)

/-- The world after the reports. -/
def eagerWorld : World Unit :=
  ((runWithin 3 eagerHost eagerReports (.initial .empty ())).map Prod.snd).getD (.initial .empty ())

theorem eagerReports_run :
    runWithin 3 eagerHost eagerReports (.initial .empty ()) = some ((), eagerWorld) :=
  runWithin_of_ends _ (by decide +kernel)

theorem eagerHost_obeys : eagerHost.Obeys Practice where
  call _ _ := .value _
  callTyped _ _ := .value _
  intercept _ _ _ := .value _
  announce _ := .value _
  handle _ failure := by
    refine Sequential.branch ?_ (.value ())
    refine .sequence (.report 0 _) fun _ => .sequence (.resize 0 0) fun _ => ?_
    exact .sequence (.takeFailures 0) fun _ => .value ()
  retire _ := .value _

theorem eagerReports_practice : Practice eagerReports := by
  refine .sequence (Administered.createContextWith _ _ ⟨rfl, by decide, rfl, ?_⟩).practice
    fun _ => .sequence (.report 0 _) fun _ => .sequence (.report 0 _) fun _ =>
      .sequence (.report 0 _) fun _ => .report 0 _
  intro log member
  cases member
  exact ⟨rfl, rfl⟩

/-- Of the five failures three gave way, one was taken and one is kept, and all are in the log. -/
theorem eager_handler_conserves_reports :
    runWithin 3 eagerHost eagerReports (.initial .empty ()) = some ((), eagerWorld) ∧
      ∃ diagnostics log, eagerWorld.diagnostics[0]? = some diagnostics ∧
        diagnostics.records = [bareFailure .bindingLoop] ∧ diagnostics.evicted = 3 ∧
        diagnostics.capacity = 1 ∧ diagnostics.log? = some log ∧
        ∃ tale, Chronicled eagerHost 3 eagerReports (.initial .empty ()) tale () eagerWorld ∧
          (Ledger.after 0 (incidentsOf tale)).reported.length = 5 ∧
          (Ledger.after 0 (incidentsOf tale)).taken.length = 1 ∧
          log.text = Diagnostics.evidenceText (Ledger.after 0 (incidentsOf tale)).reported := by
  have books := diagnostics_conserve_reports eagerHost_obeys eagerReports_practice eagerReports_run
  rcases books with ⟨⟨tale, told⟩, throughout⟩
  have kept : (eagerWorld.diagnostics[0]?).map (fun diagnostics =>
      (diagnostics.records, diagnostics.evicted, diagnostics.capacity,
        diagnostics.log?.map fun log => (log.medium, log.lines))) =
      some ([bareFailure .bindingLoop], 3, 1, some (.kept, 5)) := by decide +kernel
  rcases Option.map_eq_some_iff.mp kept with ⟨diagnostics, found, same⟩
  simp only [Prod.mk.injEq] at same
  rcases same with ⟨records, evicted, capacity, logged⟩
  rcases Option.map_eq_some_iff.mp logged with ⟨log, there, same⟩
  simp only [Prod.mk.injEq] at same
  have accounted := (throughout tale told).ended 0 diagnostics found
  have conserved := accounted.conserved
  have lines := accounted.lines log there same.1
  rw [List.nil_append] at accounted conserved lines
  refine ⟨eagerReports_run, diagnostics, log, found, records, evicted, capacity, there, tale, told,
    ?_, ?_, accounted.text log there same.1⟩
  · rw [← lines, same.2]
  · rw [records, evicted, List.length_singleton, ← lines, same.2] at conserved
    omega

end Eager

end Engine

end PropertyBinding

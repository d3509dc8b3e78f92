import PropertyBinding.Engine.World

namespace PropertyBinding

/-!
# Reports

A reported failure goes, in this order, to whoever watches the engine, to the
evidence log, to the kept records, and to the handler that was installed when
the report began.
-/

namespace Engine

variable {σ : Type}

/-- Says something to whoever watches. -/
def warn (warning : Warning) : Engine σ Unit :=
  modify fun world => { world with warnings := world.warnings ++ [warning] }

/-- Hands out what was said to whoever watches. -/
def takeWarnings : Engine σ (List Warning) := do
  let warnings := (← get).warnings
  modify fun world => { world with warnings := [] }
  return warnings

/-- Changes some diagnostics. -/
def modifyDiagnostics (id : DiagnosticsId) (change : Diagnostics → Diagnostics) : Engine σ Unit :=
  modify fun world => { world with diagnostics := world.diagnostics.modify id change }

/-- Hands out all failures that some diagnostics keep. -/
def takeFailures (id : DiagnosticsId) : Engine σ (List Failure) := do
  let some diagnostics := (← get).diagnostics[id]? | return []
  let (failures, rest) := diagnostics.take
  modifyDiagnostics id fun _ => rest
  return failures

/-- Performs a step of the evidence log, if there is a log. -/
def onEvidence (id : DiagnosticsId) (step : EvidenceLog.Step) : Attempt LogError σ Unit :=
  ExceptT.mk do
    let some log := ((← get).diagnostics[id]?).bind (·.log?) | return .ok ()
    let (result, changed) := step.run.run log
    modifyDiagnostics id fun diagnostics => { diagnostics with log? := some changed }
    return result

/-- Makes sure that all evidence so far has left the buffer of the log, if there is a log. -/
def flushEvidence (id : DiagnosticsId) : Attempt LogError σ Unit :=
  onEvidence id EvidenceLog.flush

/-- Keeps a failure as evidence, if there is a log. -/
def keepEvidence (id : DiagnosticsId) (failure : Failure) : Engine σ Unit := do
  match ← (onEvidence id (EvidenceLog.addLine failure.evidence)).run with
  | .ok _ => return
  | .error error => warn (.lostEvidence error)

/-- Reports a failure. -/
def report (id : DiagnosticsId) (failure : Failure) : Engine σ Unit := do
  warn (.failure failure)
  keepEvidence id failure
  let some diagnostics := (← get).diagnostics[id]? | return
  modifyDiagnostics id fun diagnostics => diagnostics.record failure
  match diagnostics.handler? with
  | some handler => foreign fun outside => outside.handle handler failure
  | none => return

/-- Makes diagnostics. -/
def createDiagnostics (diagnostics : Diagnostics) : Engine σ DiagnosticsId := do
  let id := (← get).diagnostics.length
  modify fun world => { world with diagnostics := world.diagnostics ++ [diagnostics] }
  return id

/-- The evidence log that a configuration asks for. -/
def logFor (config : EvidenceConfig) : Option EvidenceLog :=
  if config.enabled then
    some { medium := .kept, flushOnWrite := config.flushOnWrite }
  else
    none

/-- Makes a context whose diagnostics are those that its configuration asks for. -/
def createContext (config : Config) (scope : Script.Scope) : Engine σ BindingContext := do
  let diagnostics : Diagnostics := { log? := logFor config.evidence }
  let id ← createDiagnostics (diagnostics.setCapacity config.capacity)
  return ⟨id, config, scope⟩

/-- Makes a context that reports into other diagnostics than its configuration asks for. -/
def createContextWith (config : Config) (scope : Script.Scope) (diagnostics : Diagnostics) :
    Engine σ BindingContext := do
  return ⟨← createDiagnostics diagnostics, config, scope⟩

end Engine

end PropertyBinding

import PropertyBinding.Engine.Evaluation
import PropertyBinding.Engine.Report
import PropertyBinding.Engine.WriteBack

namespace PropertyBinding

/-!
# Updates of bindings

An update evaluates the expression of a binding, makes the binding follow
exactly what the evaluation reads, and stores the result in the target.  An
update of a binding that is being updated is refused and reported as a loop.
The update looks again at its target and at itself after every step that may
run foreign code, and ends silently when the target is dead or the binding has
been retired.  It holds the object graph until it ends.
-/

namespace Engine

variable {σ : Type}

/-! ## Names for bindings -/

/-- Lets go of the edges of a binding that nothing keeps any more. -/
def settle (id : BindingId) : Engine σ Unit := do
  if !(← get).keepsBinding id then
    clearReads id

/-- Gives a binding one more name. -/
def retain (id : BindingId) : Engine σ Unit :=
  modifyBinding id fun binding => { binding with holders := binding.holders + 1 }

/-- Takes one name from a binding. -/
def release (id : BindingId) : Engine σ Unit := do
  modifyBinding id fun binding => { binding with holders := binding.holders - 1 }
  settle id

/-- Performs an operation while a binding has one more name. -/
def keeping {α : Type} (id : BindingId) (operation : Engine σ α) : Engine σ α := do
  retain id
  let result ← operation
  release id
  return result

/-! ## Holders of the object graph -/

/-- Lets go of all bindings that nothing keeps. -/
def settleAll : List BindingId → Engine σ Unit
  | [] => return
  | id :: rest => do
      settle id
      settleAll rest

/-- Gives the object graph one more holder. -/
def retainGraph : Engine σ Unit :=
  modify fun world => { world with graphHolders := world.graphHolders + 1 }

/--
Takes a holder from the object graph.  With the last one the graph goes, and all
objects in it; no writer is told.
-/
def releaseGraph : Engine σ Unit := do
  modify fun world => { world with graphHolders := world.graphHolders - 1 }
  if !(← get).hasGraph then
    modify fun world =>
      { world with
        graph := .empty world.graph.schema
        channels := world.channels.removeProperties }
    settleAll (List.range (← get).bindings.length)

/-- Performs an operation while the object graph has one more holder. -/
def keepingGraph {α : Type} (operation : Engine σ α) : Engine σ α := do
  retainGraph
  let result ← operation
  releaseGraph
  return result

/-! ## Evaluation -/

/-- The function a binding evaluates; source text is compiled the first time. -/
def functionOf (id : BindingId) (binding : Binding) :
    Engine σ (Except Script.CompileError Function) := do
  match binding.expression, binding.compiled? with
  | .function callee, _ => return .ok callee
  | .source _, some compiled => return compiled
  | .source source, none =>
      let compiled ← (Script.Evaluation.compile source).run
      modifyBinding id fun binding => { binding with compiled? := some compiled }
      return compiled

/-- Where failures of a binding are. -/
def locationOf (id : BindingId) : Engine σ Location := do
  return ((← binding? id).map (·.location)).getD .none

/-- Evaluates the expression of a binding, which follows what is read if it is made for that. -/
def evaluateBinding (id : BindingId) (binding : Binding) : Engine σ (Except Failure Boxed) := do
  match ← functionOf id binding with
  | .error error =>
      return .error
        { kind := .compile, location := error.location, object? := some binding.target.object,
          message := error.message }
  | .ok callee =>
      let collector? := if binding.notifyOnChange then some (.binding id) else none
      let invocation := Script.Evaluation.invoke callee
        ⟨binding.context.scope, binding.this?, binding.arguments⟩
      match ← withCollector collector? invocation.run with
      | .ok value => return .ok value
      | .error error =>
          return .error
            { kind := .evaluation, location := ← locationOf id,
              object? := some binding.target.object, message := error.message }

/-- Stores a result in the target of a binding. -/
def storeResult (id : BindingId) (binding : Binding) (result : Boxed) (flags : WriteFlags) :
    WriteBack σ Unit := do
  let ref ← WriteBack.access (Attempt.ask fun graph =>
    graph.resolve binding.target.property binding.context.config.aliasDepth)
  let fastPath := ((← Attempt.perform (binding? id)).map (·.fastPath)).getD false
  WriteBack.write binding.adapter ⟨ref, binding.target.field?⟩ result
    { flags with keep := true, bypass := flags.bypass || fastPath }

/-! ## Failures -/

/-- Reports that a binding re-entered its own update, if it is to be reported. -/
def reportLoop (binding : Binding) : Engine σ Unit := do
  if binding.context.config.reportLoops then
    let path := binding.target.path (← graph)
    report binding.context.diagnostics
      { kind := .bindingLoop, location := binding.location, object? := some binding.target.object,
        message := s!"Binding loop detected for property \"{path}\"", path? := some path }

/--
Makes a failure the latest of a binding.  It is reported at once, or waits and
leaves that to the failure that waited before it.
-/
def recordFailure (id : BindingId) (failure : Failure) : Engine σ Unit := do
  let some binding ← binding? id | return
  if binding.context.config.deferErrors then
    modifyBinding id fun binding => binding.withPending failure false
    match binding.unreported? with
    | some earlier => report binding.context.diagnostics earlier
    | none => return
  else
    modifyBinding id fun binding => binding.withPending failure true
    report binding.context.diagnostics failure

/-- Reports the failure that waits; tells whether one did. -/
def reportPending (id : BindingId) : Engine σ Bool := do
  let some binding ← binding? id | return false
  match binding.unreported? with
  | none => return false
  | some failure =>
      modifyBinding id fun binding => binding.withPending failure true
      report binding.context.diagnostics failure
      return true

/-- The failure of a binding whose result was not stored. -/
def writeFailure (id : BindingId) (binding : Binding) (error : WriteError) : Engine σ Failure := do
  return {
    kind := error.kind?.getD .property
    location := ← locationOf id
    object? := some binding.target.object
    message := error.message
    path? := some (binding.target.path (← graph)) }

/-! ## Updates -/

/-- What an update does with the result of its evaluation while the target is alive. -/
def finishUpdate (id : BindingId) (binding : Binding) (result : Except Failure Boxed)
    (flags : WriteFlags) : Engine σ Unit := do
  match result with
  | .error failure => recordFailure id failure
  | .ok value =>
      if ((← binding? id).map (·.retired)).getD true then
        return
      match ← (storeResult id binding value flags).run with
      | .ok _ => modifyBinding id fun binding => { binding with pending? := none }
      | .error .targetDestroyed => return
      | .error error =>
          if (← graph).isAlive binding.target.object then
            recordFailure id (← writeFailure id binding error)

/-- Evaluates a binding and stores the result; the checks have been made. -/
def runUpdate (id : BindingId) (binding : Binding) (flags : WriteFlags) : Engine σ Unit := do
  modifyBinding id fun binding => { binding with updating := true }
  clearReads id
  let result ← evaluateBinding id binding
  modifyBinding id fun binding => { binding with evaluations := binding.evaluations + 1 }
  if (← graph).isAlive binding.target.object then
    finishUpdate id binding result flags
  modifyBinding id fun binding => { binding with updating := false }
  settle id

/-- Updates a binding, if it is enabled and its target is alive. -/
def update (id : BindingId) (flags : WriteFlags) : Engine σ Unit := do
  let some binding ← binding? id | return
  if !(← get).hasGraph || !binding.enabled || binding.retired then
    return
  if !(← graph).isAlive binding.target.object then
    return
  keepingGraph do
    if binding.updating then
      reportLoop binding
    else
      runUpdate id binding flags

/-- What a binding does when a source it follows has changed. -/
def followChange (id : BindingId) : Engine σ Unit := do
  if (← get).keepsBinding id then
    update id .none

/-! ## Life of a binding -/

/-- Makes a disabled binding that is not attached to its target. -/
def createBinding (context : BindingContext) (target : BindingTarget)
    (expression : BindingExpression) (options : BindingOptions) :
    Attempt PropertyError σ BindingId := do
  let property ← Attempt.ask fun graph => graph.property target.property
  let strategy? :=
    match options.declaredType? with
    | some type => some (WriteStrategy.ofType type)
    | none => if property.isAlias then none else some (WriteStrategy.ofType property.type)
  Attempt.perform do
    let adapter ← WriteBack.createAdapter strategy?
    let id := (← get).bindings.length
    let binding : Binding :=
      { context := context, expression := expression, target := target, this? := options.this?,
        arguments := options.arguments, adapter := adapter,
        notifyOnChange := options.notifyOnChange, location? := options.location? }
    modify fun world => { world with bindings := world.bindings ++ [binding] }
    return id

/--
Makes a binding the active writer of its target.  On an alias it becomes the
writer of the property that the alias resolves to, if it resolves.
-/
def install (id : BindingId) : Attempt PropertyError σ Unit := do
  let some binding ← Attempt.perform (binding? id) | return
  let world ← Attempt.perform get
  if !world.hasGraph then
    throw (.destroyed binding.target.object)
  let ref :=
    match world.graph.resolve binding.target.property binding.context.config.aliasDepth with
    | .ok ref => ref
    | .error _ => binding.target.property
  let slot : WriterSlot := ⟨ref.index, binding.target.field?⟩
  if world.graph.writer? ref.object slot ≠ some (.binding id) then
    attach ref.object slot (.binding id)

/-- Finds out whether write-back of a binding may skip interceptors. -/
def refreshFastPath (id : BindingId) : Engine σ Unit := do
  let some binding ← binding? id | return
  let intercepted ← hasInterceptor binding.target.property
  let fast := binding.context.config.fastPath && (← get).hasGraph && !intercepted
  modifyBinding id fun binding => { binding with fastPath := fast }

/--
Enables or disables a binding.  One that becomes enabled is updated once, if
flags for the write are given.  A retired binding stays disabled.
-/
def setEnabled (id : BindingId) (enabled : Bool) (flags? : Option WriteFlags) : Engine σ Unit := do
  let some binding ← binding? id | return
  if enabled && binding.retired then
    return
  modifyBinding id fun binding => { binding with enabled := enabled }
  refreshFastPath id
  match flags? with
  | some flags => if enabled && !binding.enabled then update id flags
  | none => return

/-- Makes a binding on a path of an object, installs it and enables it. -/
def bind (context : BindingContext) (object : ObjectId) (path : String)
    (expression : BindingExpression) : Attempt PropertyError σ BindingId := do
  let target ← Attempt.ask fun graph => BindingTarget.resolve graph object path
  let id ← createBinding context target expression {}
  install id
  Attempt.perform (setEnabled id true (some .none))
  return id

end Engine

end PropertyBinding

import PropertyBinding.Proofs.Ensuring

namespace PropertyBinding

/-!
# Traces

What an operation does itself, and what foreign code does that it calls, are told
apart by a trace of its run: a list of stretches, each from one visit to foreign
code to the next.  The trace is kept in the state of the host.  Foreign code does
not see it there, and an operation does not look at the state of its host, so that
a traced run is the run itself with its trace beside it.
-/

/-- What foreign code is asked to do. -/
inductive Query where
  | call (callee : Function) (context : Script.CallContext)
  | intercept (id : HostId) (object : ObjectId) (value : Native)
  | announce (callback : Callback)
  | handle (id : HostId) (failure : Failure)
  | retire (id : HostId)

/-- A visit to foreign code: what it was asked, and the world that it was given. -/
structure Visit (σ : Type) where
  query : Query
  world : World σ

/-- What an operation does from one visit to foreign code to the next. -/
structure Stretch (σ : Type) where
  /-- The visit before the stretch; the first stretch has none. -/
  visit? : Option (Visit σ)
  start : World σ
  stop : World σ

/-- The trace of a run as far as it has come. -/
structure Trace (σ : Type) where
  past : List (Stretch σ)
  visit? : Option (Visit σ)
  /-- The world in which the present stretch began. -/
  start : World σ

namespace Trace

variable {σ : Type} (trace : Trace σ) (stop : World σ)

/-- The trace of a run that begins in a world. -/
def empty (start : World σ) : Trace σ :=
  ⟨[], none, start⟩

/-- The present stretch, if it comes to an end. -/
def present : Stretch σ :=
  ⟨trace.visit?, trace.start, stop⟩

/-- All stretches, if the present one comes to an end and is the last. -/
def stretches : List (Stretch σ) :=
  trace.past ++ [trace.present stop]

theorem mem_stretches {trace : Trace σ} {stop : World σ} {stretch : Stretch σ} :
    stretch ∈ trace.stretches stop ↔ stretch ∈ trace.past ∨ stretch = trace.present stop := by
  simp [stretches]

end Trace

namespace World

variable {σ : Type}

/-- A world with a trace beside it. -/
def traced (world : World σ) (trace : Trace σ) : World (σ × Trace σ) :=
  { world with host := (world.host, trace) }

/-- A world without the trace beside it. -/
def untraced (world : World (σ × Trace σ)) : World σ :=
  { world with host := world.host.1 }

section Untraced

variable (world : World (σ × Trace σ))

@[simp] theorem untraced_graph : world.untraced.graph = world.graph := rfl

@[simp] theorem untraced_channels : world.untraced.channels = world.channels := rfl

@[simp] theorem untraced_bindings : world.untraced.bindings = world.bindings := rfl

@[simp] theorem untraced_diagnostics : world.untraced.diagnostics = world.diagnostics := rfl

@[simp] theorem untraced_warnings : world.untraced.warnings = world.warnings := rfl

@[simp] theorem untraced_hasGraph : world.untraced.hasGraph = world.hasGraph := rfl

end Untraced

/-- The trace beside a world. -/
def trace (world : World (σ × Trace σ)) : Trace σ :=
  world.host.2

/-- The present stretch of the trace beside a world, as far as it has come. -/
def present (world : World (σ × Trace σ)) : Stretch σ :=
  world.trace.present world.untraced

end World

/-- What foreign code makes of the world that it is given, with the visit in the trace. -/
def Step.traced {σ α : Type} (query : Query) (step : Step σ α) : Step (σ × Trace σ) α :=
  fun world => (step world.untraced).map fun (result, after) =>
    (result, after.traced
      ⟨world.trace.stretches world.untraced, some ⟨query, world.untraced⟩, after⟩)

/-- The run of foreign code with its visit in the trace is a run of foreign code. -/
theorem Step.run_of_traced {σ α : Type} (query : Query) {step : Step σ α}
    {world after : World (σ × Trace σ)} {result : α}
    (run : Step.traced query step world = some (result, after)) :
    ∃ later, step world.untraced = some (result, later) ∧
      after = later.traced
        ⟨world.trace.stretches world.untraced, some ⟨query, world.untraced⟩, later⟩ := by
  rcases Option.map_eq_some_iff.mp run with ⟨⟨result', later⟩, answered, same⟩
  cases same
  exact ⟨later, answered, rfl⟩

/-- Foreign code, with its visits in the trace. -/
def Outside.traced {σ : Type} (outside : Outside σ) : Outside (σ × Trace σ) where
  call callee context := Step.traced (.call callee context) (outside.call callee context)
  intercept id object value :=
    Step.traced (.intercept id object value) (outside.intercept id object value)
  announce callback := Step.traced (.announce callback) (outside.announce callback)
  handle id failure := Step.traced (.handle id failure) (outside.handle id failure)
  retire id := Step.traced (.retire id) (outside.retire id)

namespace Engine

variable {σ α β ε : Type}

/-- Whether an operation does without a trace what another does with one. -/
def Mirrors (operation : Engine σ α) (traced : Engine (σ × Trace σ) α) : Prop :=
  ∀ (outside : Outside σ) (world : World (σ × Trace σ)),
    (traced outside.traced world).map (fun out => (out.1, out.2.untraced)) =
      operation outside world.untraced

namespace Mirrors

/-! ## Sequences -/

theorem value (result : α) : Mirrors (σ := σ) (pure result) (pure result) :=
  fun _ _ => rfl

theorem bind {operation : Engine σ α} {traced : Engine (σ × Trace σ) α} {next : α → Engine σ β}
    {tracedNext : α → Engine (σ × Trace σ) β} (first : Mirrors operation traced)
    (second : ∀ result, Mirrors (next result) (tracedNext result)) :
    Mirrors (operation >>= next) (traced >>= tracedNext) := by
  intro outside world
  rw [apply_bind, apply_bind, ← first outside world]
  cases traced outside.traced world with
  | none => rfl
  | some out => exact second out.1 outside out.2

theorem seen : Mirrors (σ := σ) graph graph :=
  fun _ _ => rfl

theorem found (id : BindingId) : Mirrors (σ := σ) (binding? id) (binding? id) :=
  fun _ _ => rfl

/-- What is done with a world depends on no more of it than is there without the trace. -/
theorem look {next : World σ → Engine σ β} {tracedNext : World (σ × Trace σ) → Engine (σ × Trace σ) β}
    (rest : ∀ world, Mirrors (next world.untraced) (tracedNext world)) :
    Mirrors (get >>= next) (get >>= tracedNext) :=
  fun outside world => rest world outside world

theorem change {change : World σ → World σ}
    {tracedChange : World (σ × Trace σ) → World (σ × Trace σ)}
    (same : ∀ world, (tracedChange world).untraced = change world.untraced) :
    Mirrors (modify change) (modify tracedChange) :=
  fun _ world => congrArg (fun after => some ((), after)) (same world)

theorem foreign (query : Query) {step : Outside σ → Step σ α}
    {traced : Outside (σ × Trace σ) → Step (σ × Trace σ) α}
    (visits : ∀ outside : Outside σ, traced outside.traced = Step.traced query (step outside)) :
    Mirrors (Engine.foreign step) (Engine.foreign traced) := by
  intro outside world
  show (traced outside.traced world).map _ = step outside world.untraced
  rw [visits]
  unfold Step.traced
  cases step outside world.untraced <;> rfl

theorem map (change : α → β) {operation : Engine σ α} {traced : Engine (σ × Trace σ) α}
    (first : Mirrors operation traced) : Mirrors (change <$> operation) (change <$> traced) :=
  bind first fun result => value (change result)

theorem attempt {operation : Attempt ε σ α} {traced : Attempt ε (σ × Trace σ) α}
    {next : α → Attempt ε σ β} {tracedNext : α → Attempt ε (σ × Trace σ) β}
    (first : Mirrors operation.run traced.run)
    (second : ∀ result, Mirrors (next result).run (tracedNext result).run) :
    Mirrors (operation >>= next).run (traced >>= tracedNext).run := by
  refine bind first fun outcome => ?_
  cases outcome with
  | ok result => exact second result
  | error error => exact value (Except.error error)

theorem done {operation : Engine σ α} {traced : Engine (σ × Trace σ) α}
    (last : Mirrors operation traced) :
    Mirrors (Attempt.perform operation : Attempt ε σ α).run (Attempt.perform traced).run :=
  map _ last

theorem perform {operation : Engine σ α} {traced : Engine (σ × Trace σ) α}
    {next : α → Attempt ε σ β} {tracedNext : α → Attempt ε (σ × Trace σ) β}
    (first : Mirrors operation traced)
    (second : ∀ result, Mirrors (next result).run (tracedNext result).run) :
    Mirrors (Attempt.perform operation >>= next).run (Attempt.perform traced >>= tracedNext).run :=
  attempt (done first) second

theorem ask {question : ObjectGraph → Except ε α} :
    Mirrors (σ := σ) (Attempt.ask question).run (Attempt.ask question).run :=
  fun _ _ => rfl

theorem adapt {ε' : Type} {operation : Attempt ε σ α} {traced : Attempt ε (σ × Trace σ) α}
    (rename : ε → ε') (inner : Mirrors operation.run traced.run) :
    Mirrors (ExceptT.adapt rename operation).run (ExceptT.adapt rename traced).run :=
  map _ inner

theorem succeed (result : α) :
    Mirrors (σ := σ) (pure result : Attempt ε σ α).run (pure result : Attempt ε _ α).run :=
  value (Except.ok result)

theorem fail (error : ε) :
    Mirrors (σ := σ) (throw error : Attempt ε σ α).run (throw error : Attempt ε _ α).run :=
  value (Except.error error)

theorem branch {condition : Prop} [Decidable condition] {yes no : Engine σ α}
    {tracedYes tracedNo : Engine (σ × Trace σ) α} (left : Mirrors yes tracedYes)
    (right : Mirrors no tracedNo) :
    Mirrors (if condition then yes else no) (if condition then tracedYes else tracedNo) := by
  split
  · exact left
  · exact right

theorem choose {condition : Prop} [Decidable condition] {yes no : Attempt ε σ α}
    {tracedYes tracedNo : Attempt ε (σ × Trace σ) α} (left : Mirrors yes.run tracedYes.run)
    (right : Mirrors no.run tracedNo.run) :
    Mirrors (if condition then yes else no).run (if condition then tracedYes else tracedNo).run := by
  split
  · exact left
  · exact right

end Mirrors

/-! ## Channels and bindings -/

theorem modifyBinding_mirrors (id : BindingId) (change : Binding → Binding) :
    Mirrors (σ := σ) (modifyBinding id change) (modifyBinding id change) :=
  .change fun _ => rfl

theorem modifyChannels_mirrors (change : Channels → Channels) :
    Mirrors (σ := σ) (modifyChannels change) (modifyChannels change) :=
  .change fun _ => rfl

theorem modifyGraph_mirrors (change : ObjectGraph → ObjectGraph) :
    Mirrors (σ := σ) (modifyGraph change) (modifyGraph change) :=
  .change fun _ => rfl

theorem callAll_mirrors (subscribers : List Subscriber) :
    Mirrors (σ := σ) (callAll subscribers) (callAll subscribers) := by
  induction subscribers with
  | nil => exact .value ()
  | cons subscriber rest step =>
      exact .bind (.foreign (.announce subscriber.callback) fun _ => rfl) fun _ => step

theorem announce_mirrors (source : Source) : Mirrors (σ := σ) (announce source) (announce source) := by
  refine .look fun _ => .bind (modifyChannels_mirrors _) fun _ => ?_
  exact .bind (callAll_mirrors _) fun _ => modifyChannels_mirrors _

theorem withCollector_mirrors (collector? : Option Collector) {operation : Engine σ α}
    {traced : Engine (σ × Trace σ) α} (inner : Mirrors operation traced) :
    Mirrors (withCollector collector? operation) (withCollector collector? traced) :=
  .look fun _ => .bind (.change fun _ => rfl) fun _ =>
    .bind inner fun _ => .bind (.change fun _ => rfl) fun _ => .value _

theorem clearReads_mirrors (id : BindingId) :
    Mirrors (σ := σ) (clearReads id) (clearReads id) := by
  refine .bind (.found id) fun found => ?_
  cases found with
  | none => exact .value ()
  | some binding =>
      exact .bind (modifyBinding_mirrors id _) fun _ => modifyChannels_mirrors _

theorem retireAll_mirrors (writers : List Writer) :
    Mirrors (σ := σ) (retireAll writers) (retireAll writers) := by
  induction writers with
  | nil => exact .value ()
  | cons writer rest step =>
      refine .bind ?_ fun _ => step
      cases writer with
      | binding id => exact .bind (modifyBinding_mirrors id _) fun _ => clearReads_mirrors id
      | host id => exact .foreign (.retire id) fun _ => rfl

theorem removeWriters_mirrors (ref : PropertyRef) :
    Mirrors (σ := σ) (removeWriters ref) (removeWriters ref) := by
  refine .bind .seen fun graph => ?_
  cases graph.object? ref.object with
  | none => exact .value ()
  | some object => exact .bind (modifyGraph_mirrors _) fun _ => retireAll_mirrors _

theorem place_mirrors (value : Value) : Mirrors (σ := σ) (place value) (place value) :=
  .look fun _ => .bind (.change fun _ => rfl) fun _ => .value _

theorem freshIdentity_mirrors : Mirrors (σ := σ) freshIdentity freshIdentity :=
  .look fun _ => .bind (.change fun _ => rfl) fun _ => .value _

/-! ## Writes -/

theorem store_mirrors (ref : PropertyRef) (signal : Nat) (cell : Cell) (unchanged : Cell → Bool)
    (flags : WriteFlags) : Mirrors (σ := σ) (store ref signal cell unchanged flags).run
      (store ref signal cell unchanged flags).run := by
  refine .perform .seen fun graph => .choose (.done ?_) (.fail _)
  exact .bind (modifyGraph_mirrors _) fun _ => .branch (announce_mirrors _) (.value ())

theorem intercepted_mirrors (ref : PropertyRef) (value : Native) :
    Mirrors (σ := σ) (intercepted ref value).run (intercepted ref value).run := by
  refine .perform .seen fun graph => .choose ?_ (.fail _)
  cases graph.interceptor? ref with
  | none => exact .succeed value
  | some id => exact .done (.foreign (.intercept id ref.object value) fun _ => rfl)

theorem requireFit_mirrors (property : Property) (value : Native) :
    Mirrors (σ := σ) (requireFit property value).run (requireFit property value).run :=
  .choose (.perform .seen fun _ => .fail _) (.succeed ())

theorem relieving_mirrors (ref : PropertyRef) {keep : Bool} {next : Attempt ε σ α}
    {traced : Attempt ε (σ × Trace σ) α} (rest : Mirrors next.run traced.run) :
    Mirrors (do
      if !keep then
        Attempt.perform (removeWriters ref)
      next).run (do
      if !keep then
        Attempt.perform (removeWriters ref)
      traced).run :=
  .choose (.perform (removeWriters_mirrors ref) fun _ => rest) rest

theorem storeNative_mirrors (ref : PropertyRef) (property : Property) (value : Native)
    (flags : WriteFlags) : Mirrors (σ := σ) (storeNative ref property value flags).run
      (storeNative ref property value flags).run := by
  refine .attempt (requireFit_mirrors property value) fun _ => relieving_mirrors ref ?_
  refine .choose (store_mirrors _ _ _ _ _) ?_
  refine .attempt (intercepted_mirrors ref value) fun final => ?_
  exact .attempt (requireFit_mirrors property final) fun _ => store_mirrors _ _ _ _ _

theorem storeVar_mirrors (ref : PropertyRef) (value : Value) (flags : WriteFlags) :
    Mirrors (σ := σ) (storeVar ref value flags).run (storeVar ref value flags).run := by
  refine .attempt .ask fun property => .choose ?_ (.perform .seen fun _ => .fail _)
  exact relieving_mirrors ref (store_mirrors _ _ _ _ _)

theorem writeVar_mirrors (ref : PropertyRef) (value : Value) (flags : WriteFlags) :
    Mirrors (σ := σ) (writeVar ref value flags).run (writeVar ref value flags).run :=
  .attempt .ask fun target => storeVar_mirrors target value flags

theorem write_mirrors (ref : PropertyRef) (value : Native) (flags : WriteFlags) :
    Mirrors (σ := σ) (write ref value flags).run (write ref value flags).run := by
  refine .attempt .ask fun target => .attempt .ask fun property => ?_
  refine .choose ?_ (storeNative_mirrors target property value flags)
  cases value with
  | script content => exact storeVar_mirrors target content flags
  | _ => exact .fail _

theorem reset_mirrors (ref : PropertyRef) (flags : WriteFlags) :
    Mirrors (σ := σ) (reset ref flags).run (reset ref flags).run := by
  refine .attempt .ask fun target => .attempt .ask fun property => ?_
  exact .choose (write_mirrors target property.default flags) (.fail _)

/-! ## Write-back -/

theorem typeName_mirrors (type : PropertyType) :
    Mirrors (σ := σ) (WriteBack.typeName type) (WriteBack.typeName type) :=
  .bind .seen fun _ => .value _

theorem writeUndefined_mirrors (strategy : WriteStrategy) (ref : PropertyRef) (property : Property)
    (flags : WriteFlags) :
    Mirrors (σ := σ) (WriteBack.writeUndefined strategy ref property flags).run
      (WriteBack.writeUndefined strategy ref property flags).run := by
  refine .choose (.adapt _ (reset_mirrors ref flags)) ?_
  cases strategy with
  | variant => exact .adapt _ (write_mirrors ref _ flags)
  | script => exact .adapt _ (write_mirrors ref _ flags)
  | varSlot => exact .adapt _ (writeVar_mirrors ref _ flags)
  | _ => exact .perform (typeName_mirrors _) fun _ => .fail _

theorem writeValue_mirrors (strategy : WriteStrategy) (ref : PropertyRef) (property : Property)
    (value : Value) (flags : WriteFlags) :
    Mirrors (σ := σ) (WriteBack.writeValue strategy ref property value flags).run
      (WriteBack.writeValue strategy ref property value flags).run := by
  have defined : Mirrors (σ := σ)
      (if strategy = .varSlot then
        WriteBack.access (Engine.writeVar ref value flags)
      else do
        let native ← WriteBack.convert fun graph =>
          strategy.native graph.context property.type value
        WriteBack.access (Engine.write ref native flags)).run
      (if strategy = .varSlot then
        WriteBack.access (Engine.writeVar ref value flags)
      else do
        let native ← WriteBack.convert fun graph =>
          strategy.native graph.context property.type value
        WriteBack.access (Engine.write ref native flags)).run := by
    refine .choose (.adapt _ (writeVar_mirrors ref value flags)) ?_
    exact .attempt (.adapt _ .ask) fun native => .adapt _ (write_mirrors ref native flags)
  unfold WriteBack.writeValue
  cases value with
  | undefined => exact writeUndefined_mirrors strategy ref property flags
  | function callee marked =>
      cases strategy.acceptsFunctions with
      | false => exact .fail _
      | true => exact defined
  | _ => exact defined

theorem writeProperty_mirrors (strategy : WriteStrategy) (ref : PropertyRef) (property : Property)
    (result : Boxed) (flags : WriteFlags) :
    Mirrors (σ := σ) (WriteBack.writeProperty strategy ref property result flags).run
      (WriteBack.writeProperty strategy ref property result flags).run := by
  cases result with
  | dynamic value => exact writeValue_mirrors strategy ref property value flags
  | native type value shared =>
      refine .choose (.adapt _ (write_mirrors ref value flags)) ?_
      exact .perform (place_mirrors _) fun placed =>
        writeValue_mirrors strategy ref property placed flags

theorem fieldNumber_mirrors (value : Value) :
    Mirrors (σ := σ) (WriteBack.fieldNumber value).run (WriteBack.fieldNumber value).run := by
  unfold WriteBack.fieldNumber
  split
  · exact .perform (typeName_mirrors _) fun _ => .fail _
  · exact .fail _
  · exact .succeed _
  · refine .attempt (.adapt _ .ask) fun native => ?_
    split
    · exact .succeed _
    · exact .perform .seen fun _ => .fail _

theorem writeField_mirrors (ref : PropertyRef) (property : Property) (field : Nat) (result : Boxed)
    (flags : WriteFlags) :
    Mirrors (σ := σ) (WriteBack.writeField ref property field result flags).run
      (WriteBack.writeField ref property field result flags).run := by
  refine .attempt (fieldNumber_mirrors _) fun number => .attempt (.adapt _ .ask) fun current => ?_
  split
  · split
    · exact .adapt _ (write_mirrors ref _ flags)
    · exact .fail _
  · exact .perform .seen fun _ => .fail _

theorem chooseStrategy_mirrors (adapter : AdapterId) (property : Property) :
    Mirrors (σ := σ) (WriteBack.chooseStrategy adapter property)
      (WriteBack.chooseStrategy adapter property) := by
  refine .bind (.look fun _ => .value _) fun chosen => ?_
  cases chosen with
  | some strategy => exact .value strategy
  | none => exact .bind (.change fun _ => rfl) fun _ => .value _

theorem writeBack_mirrors (adapter : AdapterId) (target : BindingTarget) (result : Boxed)
    (flags : WriteFlags) :
    Mirrors (σ := σ) (WriteBack.write adapter target result flags).run
      (WriteBack.write adapter target result flags).run := by
  refine .attempt (.adapt _ .ask) fun property => ?_
  cases target.field? with
  | some field => exact writeField_mirrors target.property property field result flags
  | none =>
      exact .perform (chooseStrategy_mirrors adapter property) fun strategy =>
        writeProperty_mirrors strategy target.property property result flags

theorem storeResult_mirrors (id : BindingId) (binding : Binding) (result : Boxed)
    (flags : WriteFlags) :
    Mirrors (σ := σ) (storeResult id binding result flags).run
      (storeResult id binding result flags).run := by
  refine .attempt (.adapt _ .ask) fun ref => ?_
  exact .perform (.found id) fun _ => writeBack_mirrors _ _ _ _

/-! ## Reports -/

theorem report_mirrors (id : DiagnosticsId) (failure : Failure) :
    Mirrors (σ := σ) (report id failure) (report id failure) := by
  have evidence : Mirrors (σ := σ) (onEvidence id (EvidenceLog.addLine failure.evidence)).run
      (onEvidence id (EvidenceLog.addLine failure.evidence)).run := by
    refine .look fun world => ?_
    simp only [World.untraced_diagnostics]
    split
    · exact .bind (.change fun _ => rfl) fun _ => .value _
    · exact .value _
  refine .bind (.change fun _ => rfl) fun _ => .bind ?_ fun _ => .look fun world => ?_
  · refine .bind evidence fun outcome => ?_
    split
    · exact .value ()
    · exact .change fun _ => rfl
  · simp only [World.untraced_diagnostics]
    split
    · next diagnostics _ =>
      refine .bind (.change fun _ => rfl) fun _ => ?_
      cases diagnostics.handler? with
      | none => exact .value ()
      | some handler => exact .foreign (.handle handler failure) fun _ => rfl
    · exact .value ()

theorem recordFailure_mirrors (id : BindingId) (failure : Failure) :
    Mirrors (σ := σ) (recordFailure id failure) (recordFailure id failure) := by
  refine .bind (.found id) fun found => ?_
  cases found with
  | none => exact .value ()
  | some binding =>
      refine .branch (.bind (modifyBinding_mirrors id _) fun _ => ?_)
        (.bind (modifyBinding_mirrors id _) fun _ => report_mirrors _ _)
      cases binding.unreported? with
      | none => exact .value ()
      | some earlier => exact report_mirrors _ _

theorem reportLoop_mirrors (binding : Binding) :
    Mirrors (σ := σ) (reportLoop binding) (reportLoop binding) :=
  .branch (.bind .seen fun _ => report_mirrors _ _) (.value ())

/-! ## Updates -/

theorem functionOf_mirrors (id : BindingId) (binding : Binding) :
    Mirrors (σ := σ) (functionOf id binding) (functionOf id binding) := by
  unfold functionOf
  split
  · exact .value _
  · exact .value _
  · refine .bind ?_ fun compiled => .bind (modifyBinding_mirrors id _) fun _ => .value compiled
    unfold Script.Evaluation.compile
    split
    · exact .perform freshIdentity_mirrors fun _ => .succeed _
    · exact .fail _

theorem locationOf_mirrors (id : BindingId) :
    Mirrors (σ := σ) (locationOf id) (locationOf id) :=
  .bind (.found id) fun _ => .value _

theorem evaluateBinding_mirrors (id : BindingId) (binding : Binding) :
    Mirrors (σ := σ) (evaluateBinding id binding) (evaluateBinding id binding) := by
  refine .bind (functionOf_mirrors id binding) fun found => ?_
  cases found with
  | error error => exact .value _
  | ok callee =>
      refine .bind (withCollector_mirrors _ (.foreign (.call callee _) fun _ => rfl)) fun outcome => ?_
      cases outcome with
      | ok value => exact .value _
      | error error => exact .bind (locationOf_mirrors id) fun _ => .value _

theorem writeFailure_mirrors (id : BindingId) (binding : Binding) (error : WriteError) :
    Mirrors (σ := σ) (writeFailure id binding error) (writeFailure id binding error) :=
  .bind (locationOf_mirrors id) fun _ => .bind .seen fun _ => .value _

theorem finishUpdate_mirrors (id : BindingId) (binding : Binding) (result : Except Failure Boxed)
    (flags : WriteFlags) : Mirrors (σ := σ) (finishUpdate id binding result flags)
      (finishUpdate id binding result flags) := by
  cases result with
  | error failure => exact recordFailure_mirrors id failure
  | ok value =>
      refine .bind (.found id) fun found => .branch (.value ()) ?_
      refine .bind (storeResult_mirrors id binding value flags) fun outcome => ?_
      split
      · exact modifyBinding_mirrors id _
      · exact .value ()
      · refine .bind .seen fun graph => .branch ?_ (.value ())
        exact .bind (writeFailure_mirrors id binding _) fun failure => recordFailure_mirrors id failure

theorem settle_mirrors (id : BindingId) : Mirrors (σ := σ) (settle id) (settle id) :=
  .look fun _ => .branch (clearReads_mirrors id) (.value ())

theorem settleAll_mirrors (ids : List BindingId) :
    Mirrors (σ := σ) (settleAll ids) (settleAll ids) := by
  induction ids with
  | nil => exact .value ()
  | cons id rest step => exact .bind (settle_mirrors id) fun _ => step

theorem releaseGraph_mirrors : Mirrors (σ := σ) releaseGraph releaseGraph := by
  refine .bind (.change fun _ => rfl) fun _ => .look fun world => .branch ?_ (.value ())
  exact .bind (.change fun _ => rfl) fun _ => .look fun _ => settleAll_mirrors _

theorem runUpdate_mirrors (id : BindingId) (binding : Binding) (flags : WriteFlags) :
    Mirrors (σ := σ) (runUpdate id binding flags) (runUpdate id binding flags) := by
  have last : Mirrors (σ := σ)
      (do
        modifyBinding id fun binding => { binding with updating := false }
        settle id)
      (do
        modifyBinding id fun binding => { binding with updating := false }
        settle id) := .bind (modifyBinding_mirrors id _) fun _ => settle_mirrors id
  refine .bind (modifyBinding_mirrors id _) fun _ => .bind (clearReads_mirrors id) fun _ => ?_
  refine .bind (evaluateBinding_mirrors id binding) fun result => ?_
  refine .bind (modifyBinding_mirrors id _) fun _ => .bind .seen fun graph => ?_
  exact .branch (.bind (finishUpdate_mirrors id binding result flags) fun _ => last) last

/-- An update does with a trace what it does without one. -/
theorem update_mirrors (id : BindingId) (flags : WriteFlags) :
    Mirrors (σ := σ) (update id flags) (update id flags) := by
  refine .bind (.found id) fun found => ?_
  cases found with
  | none => exact .value ()
  | some binding =>
      refine .look fun world => .branch (.value ()) (.bind .seen fun graph => ?_)
      refine .branch (.value ()) (.bind (.change fun _ => rfl) fun _ => ?_)
      refine .bind (.branch (reportLoop_mirrors binding) (runUpdate_mirrors id binding flags)) ?_
      exact fun _ => .bind releaseGraph_mirrors fun _ => .value ()

end Engine

end PropertyBinding

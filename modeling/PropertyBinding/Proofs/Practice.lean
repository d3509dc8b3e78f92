import PropertyBinding.Proofs.Chronicle
import PropertyBinding.Proofs.Conduct

namespace PropertyBinding

/-!
# Every run has a chronicle

As far as failures go, a run is made of few things: work that has nothing to do with them,
questions to foreign code, reports, and what bindings and diagnostics do with a failure.
`Practice` lists these.  Whatever the engine offers is made of them, handlers and updates
and diagnostics included, so foreign code that uses what is offered is made of them too.
A run of such code has a chronicle, however deep it nests.
-/

namespace World.Aloof

variable {σ : Type}

/-- A read concerns no failure, whoever is told of it. -/
theorem capture (world : World σ) (source : Source) : world.Aloof (world.capture source) := by
  unfold World.capture
  split
  · exact .of_same rfl rfl
  · unfold follow
    split
    · exact .of_same rfl rfl
    · split
      · exact .of_same rfl rfl
      · exact .of_modify _ rfl rfl fun binding => ⟨rfl, rfl⟩
  · exact .of_same rfl rfl

/-- Diagnostics may change in all but what they have kept. -/
theorem of_diagnostics {world later : World σ} (id : DiagnosticsId)
    {change : Diagnostics → Diagnostics} (bindings : later.bindings = world.bindings)
    (diagnostics : later.diagnostics = world.diagnostics.modify id change)
    (changed : ∀ old, world.diagnostics[id]? = some old → old.Alike (change old)) :
    world.Aloof later where
  bindings := bindings ▸ .refl (fun _ => ⟨rfl, rfl⟩) _
  diagnostics := diagnostics ▸ .modify .refl _ id changed

end World.Aloof

namespace Engine

variable {σ α β ε : Type} {host : Host σ}

namespace Uneventful

theorem value (result : α) : Uneventful (pure result : Engine σ α) :=
  fun world => ⟨result, world, fun _ => rfl, .of_same rfl rfl⟩

theorem get : Uneventful (get : Engine σ (World σ)) :=
  fun world => ⟨world, world, fun _ => rfl, .of_same rfl rfl⟩

theorem change {change : World σ → World σ}
    (aloof : ∀ world : World σ, world.Aloof (change world)) :
    Uneventful (modify change) :=
  fun world => ⟨(), change world, fun _ => rfl, aloof world⟩

theorem capture (source : Source) : Uneventful (capture source : Engine σ Unit) :=
  fun world => ⟨(), _, capture_steps world source, .capture world source⟩

/-- A read tells of its source at most. -/
theorem read (ref : PropertyRef) : Uneventful (read ref : Attempt PropertyError σ Native).run := by
  intro world
  refine ⟨_, _, read_steps world ref, ?_⟩
  split
  · exact .capture world _
  · exact .of_same rfl rfl

theorem clearReads (id : BindingId) : Uneventful (clearReads id : Engine σ Unit) :=
  fun world => ⟨(), _, clearReads_steps world id, .of_modify id rfl rfl fun _ => ⟨rfl, rfl⟩⟩

theorem retireBinding (id : BindingId) : Uneventful (retireBinding id : Engine σ Unit) :=
  fun world => ⟨(), _, retireBinding_steps world id, .of_modify id rfl rfl fun _ => ⟨rfl, rfl⟩⟩

/-- Diagnostics may be made that have not taken a report yet. -/
theorem createDiagnostics {diagnostics : Diagnostics} (fresh : diagnostics.Fresh) :
    Uneventful (createDiagnostics diagnostics : Engine σ DiagnosticsId) :=
  fun _ => ⟨_, _, fun _ => rfl, .refl (fun _ => ⟨rfl, rfl⟩) _, .append .refl _ fresh⟩

/-- Evidence that leaves the buffer has been taken before. -/
theorem flushEvidence (id : DiagnosticsId) :
    Uneventful (flushEvidence id : Attempt LogError σ Unit).run := by
  intro world
  cases found : (world.diagnostics[id]?).bind (·.log?) with
  | none =>
      refine ⟨.ok (), world, fun _ => ?_, .of_same rfl rfl⟩
      simp [Engine.flushEvidence, onEvidence, found]
  | some log =>
      let flushed := log.after EvidenceLog.flush
      refine ⟨flushed.1, { world with
        diagnostics := world.diagnostics.modify id fun diagnostics =>
          { diagnostics with log? := some flushed.2 } }, fun _ => ?_,
        .of_diagnostics id rfl rfl fun old present => ?_⟩
      · simp only [Engine.flushEvidence, onEvidence, ExceptT.run_mk, apply_bind, apply_get,
          Option.bind_some, found]
        rfl
      · rw [present, Option.bind_some] at found
        exact ⟨rfl, rfl, rfl, found ▸ .some log.alike_flush⟩

end Uneventful

/-- Code that is made of what a chronicle can tell or pass over. -/
inductive Practice : {α : Type} → Engine σ α → Prop
  | uneventful {α : Type} {operation : Engine σ α} (uneventful : Uneventful operation) :
      Practice operation
  | sequence {α β : Type} {operation : Engine σ α} {next : α → Engine σ β}
      (first : Practice operation) (second : ∀ result, Practice (next result)) :
      Practice (operation >>= next)
  | ask (query : Query) : Practice (foreign query.step)
  | report (id : DiagnosticsId) (failure : Failure) : Practice (report id failure)
  | takeFailures (id : DiagnosticsId) : Practice (takeFailures id)
  | resize (id : DiagnosticsId) (capacity : Nat) :
      Practice (modifyDiagnostics id fun diagnostics => diagnostics.setCapacity capacity)
  | recordFailure (id : BindingId) (failure : Failure) : Practice (recordFailure id failure)
  | succeed (id : BindingId) :
      Practice (modifyBinding id fun binding => { binding with pending? := none })
  | reportPending (id : BindingId) : Practice (reportPending id)

namespace Practice

theorem value (result : α) : Practice (pure result : Engine σ α) :=
  .uneventful (.value result)

theorem get : Practice (get : Engine σ (World σ)) :=
  .uneventful .get

theorem change {change : World σ → World σ}
    (aloof : ∀ world : World σ, world.Aloof (change world)) :
    Practice (modify change) :=
  .uneventful (.change aloof)

theorem settle (id : BindingId) : Practice (settle id : Engine σ Unit) :=
  .sequence .get fun _ => Sequential.branch (.uneventful (.clearReads id)) (.value ())

theorem callAll (subscribers : List Subscriber) :
    Practice (callAll subscribers : Engine σ Unit) := by
  induction subscribers with
  | nil => exact .value ()
  | cons subscriber rest step =>
      exact .sequence (.ask (.announce subscriber.callback)) fun _ => step

theorem announce (source : Source) : Practice (announce source : Engine σ Unit) := by
  refine .sequence .get fun world => .sequence (.change fun _ => .of_same rfl rfl) fun _ => ?_
  exact .sequence (callAll _) fun _ => .change fun _ => .of_same rfl rfl

/-- Operations that are made of these are so in turn. -/
theorem customary : Customary (σ := σ) Practice where
  value := .value
  bind := .sequence
  get := .get
  aside _ same := .change fun world => .of_same (same world).bindings (same world).diagnostics
  object _ _ := .change fun _ => .of_same rfl rfl
  tend id _ tended := .change fun _ =>
    .of_modify id rfl rfl fun binding => ⟨(tended binding).pending, (tended binding).context⟩
  append _ fresh := .change fun _ =>
    ⟨.append (fun _ => ⟨rfl, rfl⟩) _ fresh.pending, .refl .refl _⟩
  retireBinding id := .uneventful (.retireBinding id)
  settle := .settle
  read ref := .uneventful (.read ref)
  readNotifier _ := .sequence (.uneventful (.capture _)) fun _ => .sequence .get fun _ => .value _
  announce := .announce
  ask query _ := .ask query

theorem furnished : Furnished (σ := σ) Practice :=
  customary.furnished

/-! ## Scopes and the object graph -/

theorem withCollector (collector? : Option Collector) {operation : Engine σ α}
    (inner : Practice operation) : Practice (withCollector collector? operation) := by
  refine .sequence .get fun world => .sequence (.change fun _ => .of_same rfl rfl) fun _ => ?_
  refine .sequence inner fun result => .sequence (.change fun _ => .of_same rfl rfl) fun _ => ?_
  exact .value result

theorem settleAll (ids : List BindingId) : Practice (settleAll ids : Engine σ Unit) := by
  induction ids with
  | nil => exact .value ()
  | cons id rest step => exact .sequence (.settle id) fun _ => step

theorem releaseGraph : Practice (releaseGraph : Engine σ Unit) := by
  refine .sequence (.change fun _ => .of_same rfl rfl) fun _ => .sequence .get fun world => ?_
  refine Sequential.branch ?_ (.value ())
  exact .sequence (.change fun _ => .of_same rfl rfl) fun _ => .sequence .get fun _ => settleAll _

theorem keepingGraph {operation : Engine σ α} (inner : Practice operation) :
    Practice (keepingGraph operation) := by
  refine .sequence (.change fun _ => .of_same rfl rfl) fun _ => .sequence inner fun result => ?_
  exact .sequence releaseGraph fun _ => .value result

theorem create (classId : ClassId) (name? : Option String) :
    Practice (create classId name? : Engine σ ObjectId) :=
  .sequence furnished.seen fun _ => .sequence (.change fun _ => .of_same rfl rfl) fun _ => .value _

theorem destroy (id : ObjectId) : Practice (destroy id : Engine σ Bool) := by
  refine .sequence furnished.seen fun graph => ?_
  split
  · exact .value false
  · refine .sequence (.change fun _ => .of_same rfl rfl) fun _ => ?_
    refine .sequence (.change fun _ => .of_same rfl rfl) fun _ => ?_
    exact .sequence (customary.retireAll _) fun _ => .value true

theorem setAlias (ref target : PropertyRef) :
    Practice (setAlias ref target : Attempt PropertyError σ Unit).run :=
  furnished.attempt furnished.question fun _ =>
    furnished.done (.change fun _ => .of_same rfl rfl)

/-! ## Updates -/

/-- A binding may change in all but its failure and its context. -/
theorem tend (id : BindingId) {change : Binding → Binding}
    (same : ∀ binding : Binding, binding.SameFailure (change binding)) :
    Practice (modifyBinding id change : Engine σ Unit) :=
  .change fun _ => .of_modify id rfl rfl same

theorem evaluateBinding (id : BindingId) (binding : Binding) :
    Practice (evaluateBinding id binding : Engine σ (Except Failure Boxed)) := by
  refine .sequence (furnished.functionOf id binding) fun compiled => ?_
  cases compiled with
  | error error => exact .value _
  | ok callee =>
      refine .sequence (withCollector _ (.ask (.call callee _))) fun outcome => ?_
      cases outcome with
      | ok value => exact .value _
      | error error => exact .sequence (furnished.locationOf id) fun _ => .value _

theorem reportLoop (binding : Binding) : Practice (reportLoop binding : Engine σ Unit) :=
  Sequential.branch (.sequence furnished.seen fun _ => .report _ _) (.value ())

theorem finishUpdate (id : BindingId) (binding : Binding) (result : Except Failure Boxed)
    (flags : WriteFlags) : Practice (finishUpdate id binding result flags : Engine σ Unit) := by
  cases result with
  | error failure => exact .recordFailure id failure
  | ok value =>
      refine .sequence (furnished.found id) fun found => Sequential.branch (.value ()) ?_
      refine .sequence (furnished.storeResult id binding value flags) fun outcome => ?_
      split
      · exact .succeed id
      · exact .value ()
      · refine .sequence furnished.seen fun graph => Sequential.branch ?_ (.value ())
        exact .sequence (furnished.writeFailure id binding _) fun failure =>
          .recordFailure id failure

theorem runUpdate (id : BindingId) (binding : Binding) (flags : WriteFlags) :
    Practice (runUpdate id binding flags : Engine σ Unit) := by
  have ending : Practice (do
      modifyBinding id fun binding => { binding with updating := false }
      Engine.settle id : Engine σ Unit) :=
    .sequence (tend id fun _ => ⟨rfl, rfl⟩) fun _ => .settle id
  refine .sequence (tend id fun _ => ⟨rfl, rfl⟩) fun _ => ?_
  refine .sequence (.uneventful (.clearReads id)) fun _ => ?_
  refine .sequence (evaluateBinding id binding) fun result => ?_
  refine .sequence (tend id fun _ => ⟨rfl, rfl⟩) fun _ => .sequence furnished.seen fun graph => ?_
  exact Sequential.branch (.sequence (finishUpdate id binding result flags) fun _ => ending) ending

theorem update (id : BindingId) (flags : WriteFlags) :
    Practice (update id flags : Engine σ Unit) := by
  refine .sequence (furnished.found id) fun found => ?_
  cases found with
  | none => exact .value ()
  | some binding =>
      refine .sequence .get fun world => Sequential.branch (.value ()) ?_
      refine .sequence furnished.seen fun graph => Sequential.branch (.value ()) ?_
      exact keepingGraph (Sequential.branch (reportLoop binding) (runUpdate id binding flags))

theorem followChange (id : BindingId) : Practice (followChange id : Engine σ Unit) :=
  .sequence .get fun _ => Sequential.branch (update id .none) (.value ())

theorem setEnabled (id : BindingId) (enabled : Bool) (flags? : Option WriteFlags) :
    Practice (setEnabled id enabled flags? : Engine σ Unit) := by
  refine .sequence (furnished.found id) fun found => ?_
  cases found with
  | none => exact .value ()
  | some binding =>
      refine Sequential.branch (.value ()) (.sequence (tend id fun _ => ⟨rfl, rfl⟩) fun _ => ?_)
      refine .sequence (furnished.refreshFastPath id) fun _ => ?_
      cases flags? with
      | none => exact .value ()
      | some flags => exact Sequential.branch (update id flags) (.value ())

theorem obliging : Obliging (σ := σ) Practice where
  toFurnished := furnished
  visit := .ask
  create := create
  destroy := destroy
  setAlias := setAlias
  retainGraph := .change fun _ => .of_same rfl rfl
  releaseGraph := releaseGraph
  update := update
  setEnabled := setEnabled
  reportPending := .reportPending

end Practice

/-- What the engine offers is made of what a chronicle can tell or pass over. -/
theorem Offered.practice {operation : Engine σ α} (offered : Offered operation) :
    Practice operation :=
  Practice.obliging.offered offered

/-- What the engine offers to those who look after diagnostics. -/
inductive Administered : {α : Type} → Engine σ α → Prop
  | report (id : DiagnosticsId) (failure : Failure) : Administered (report id failure)
  | takeFailures (id : DiagnosticsId) : Administered (takeFailures id)
  | setCapacity (id : DiagnosticsId) (capacity : Nat) :
      Administered (modifyDiagnostics id fun diagnostics => diagnostics.setCapacity capacity)
  | setHandler (id : DiagnosticsId) (handler? : Option HostId) :
      Administered (modifyDiagnostics id fun diagnostics =>
        { diagnostics with handler? := handler? })
  | flushEvidence (id : DiagnosticsId) : Administered (flushEvidence id).run
  | createContext (config : Config) (scope : Script.Scope) :
      Administered (createContext config scope)
  | createContextWith (config : Config) (scope : Script.Scope) {diagnostics : Diagnostics}
      (fresh : diagnostics.Fresh) : Administered (createContextWith config scope diagnostics)

/-- The log that a configuration asks for has taken nothing yet. -/
theorem fresh_logFor (config : EvidenceConfig) (capacity : Nat) :
    (Diagnostics.setCapacity { log? := logFor config } capacity).Fresh where
  records := by simp [Diagnostics.setCapacity, Diagnostics.trim]
  capacity := Nat.le_max_right _ _
  evicted := by simp [Diagnostics.setCapacity, Diagnostics.trim]
  log log member := by
    simp only [Diagnostics.setCapacity, Diagnostics.trim, logFor] at member
    split at member <;> cases member
    exact ⟨rfl, rfl⟩

theorem Administered.practice {operation : Engine σ α} (administered : Administered operation) :
    Practice operation := by
  cases administered with
  | report id failure => exact .report id failure
  | takeFailures id => exact .takeFailures id
  | setCapacity id capacity => exact .resize id capacity
  | setHandler id handler? =>
      refine .change fun _ => .of_diagnostics id rfl rfl fun old _ => ?_
      exact ⟨rfl, rfl, rfl, (Diagnostics.Alike.refl old).log⟩
  | flushEvidence id => exact .uneventful (.flushEvidence id)
  | createContext config scope =>
      exact .sequence (.uneventful (.createDiagnostics (fresh_logFor _ _))) fun _ => .value _
  | createContextWith config scope fresh =>
      exact .sequence (.uneventful (.createDiagnostics fresh)) fun _ => .value _

/-! ## Chronicles of runs -/

/-- Whether each run of an operation has a chronicle. -/
def Recounted (host : Host σ) (bound : Nat) (operation : Engine σ α) : Prop :=
  ∀ world result after, operation (.within host bound) world = some (result, after) →
    ∃ tale, Chronicled host bound operation world tale result after

section Recounted

variable {bound : Nat} {operation : Engine σ α}

theorem recounted_value (result : α) : Recounted host bound (pure result : Engine σ α) := by
  intro world _ _ run
  cases run
  exact ⟨[], .value bound result world⟩

/-- A run that begins with a turn goes on as what is still to be done does. -/
theorem Turn.recounted {world middle after : World σ} {incidents : List Incident}
    {result final : α} {rest : Engine σ Unit}
    (turn : Turn operation world incidents result middle rest) (told : Recounted host bound rest)
    (run : operation (.within host bound) world = some (final, after)) :
    ∃ tale, Chronicled host bound operation world tale final after := by
  rw [turn.run] at run
  rcases Option.map_eq_some_iff.mp run with ⟨⟨_, _⟩, ended, same⟩
  cases same
  rcases told _ _ _ ended with ⟨tale, told⟩
  exact ⟨_, .turn turn told⟩

variable (visits : ∀ query : Query, Recounted host bound (foreign query.step))
include visits

theorem hand_recounted (handler? : Option HostId) (failure : Failure) :
    Recounted host bound (hand handler? failure) := by
  cases handler? with
  | none => exact recounted_value ()
  | some handler => exact visits (.handle handler failure)

theorem recordFailure_recounted (id : BindingId) (failure : Failure) :
    Recounted host bound (recordFailure id failure) := by
  intro world result after run
  cases found : world.bindings[id]? with
  | none => exact Turn.recounted (.still (.fail failure found)) (recounted_value ()) run
  | some binding =>
      cases deferred : binding.context.config.deferErrors with
      | false =>
          exact Turn.recounted (.failAtOnce failure found deferred) (hand_recounted visits _ _) run
      | true =>
          cases waits : binding.unreported? with
          | none =>
              exact Turn.recounted (.failLater failure found deferred waits) (recounted_value ())
                run
          | some earlier =>
              exact Turn.recounted (.failInstead failure found deferred waits)
                (hand_recounted visits _ _) run

theorem reportPending_recounted (id : BindingId) : Recounted host bound (reportPending id) := by
  intro world result after run
  cases waits : world.bindings[id]?.bind (·.unreported?) with
  | none => exact Turn.recounted (.still (.flush waits)) (recounted_value ()) run
  | some failure =>
      rcases Option.bind_eq_some_iff.mp waits with ⟨binding, found, waits⟩
      exact Turn.recounted (.flush found waits) (hand_recounted visits _ _) run

/-- Code that is made of what a chronicle can tell or pass over has a chronicle. -/
theorem Practice.recounted (practice : Practice operation) : Recounted host bound operation := by
  induction practice with
  | uneventful uneventful =>
      intro world result after run
      rcases uneventful world with ⟨_, _, steps, _⟩
      exact Turn.recounted (.work uneventful steps) (recounted_value ()) run
  | sequence _ _ first second =>
      intro world final after run
      rcases runs_of_bind run with ⟨result, middle, begun, rest⟩
      rcases first world result middle begun with ⟨tale, told⟩
      rcases second result middle final after rest with ⟨later, toldRest⟩
      exact ⟨_, .sequence told toldRest⟩
  | ask query => exact visits query
  | report id failure =>
      exact fun world _ _ run =>
        Turn.recounted (.report world id failure) (hand_recounted visits _ _) run
  | takeFailures id =>
      intro world result after run
      cases found : world.diagnostics[id]? with
      | none => exact Turn.recounted (.still (.take found)) (recounted_value ()) run
      | some diagnostics => exact Turn.recounted (.take found) (recounted_value ()) run
  | resize id capacity =>
      exact fun world _ _ run =>
        Turn.recounted (.resize world id capacity) (recounted_value ()) run
  | recordFailure id failure => exact recordFailure_recounted visits id failure
  | succeed id =>
      intro world result after run
      cases found : world.bindings[id]? with
      | none => exact Turn.recounted (.still (.succeed found)) (recounted_value ()) run
      | some binding => exact Turn.recounted (.succeed found) (recounted_value ()) run
  | reportPending id => exact reportPending_recounted visits id

end Recounted

/-- What foreign code answers is made of what its host is made of. -/
theorem answer_practice (obeys : host.Obeys Practice) (query : Query) :
    Practice (query.answer host) := by
  cases query with
  | call callee context =>
      exact Practice.furnished.callFunction obeys (fun _ _ => .ask (.call _ _)) callee context
  | intercept id object value => exact obeys.intercept id object value
  | announce callback =>
      cases callback with
      | binding id => exact .followChange id
      | host id => exact obeys.announce id
  | handle id failure => exact obeys.handle id failure
  | retire id => exact obeys.retire id

theorem visits_recounted (obeys : host.Obeys Practice) (bound : Nat) (query : Query) :
    Recounted host bound (foreign query.step) := by
  intro world result after run
  refine Query.within_induction (fun bound visits query world result after run => ?_)
    bound query world result after run
  rcases (answer_practice obeys query).recounted visits _ _ _ run with ⟨tale, told⟩
  exact ⟨tale, .visit told⟩

/-- Every run with foreign code that uses what the engine offers has a chronicle. -/
theorem Practice.chronicled (obeys : host.Obeys Practice) {operation : Engine σ α}
    (practice : Practice operation) {bound : Nat} {world after : World σ} {result : α}
    (run : runWithin bound host operation world = some (result, after)) :
    ∃ tale, Chronicled host bound operation world tale result after :=
  practice.recounted (visits_recounted obeys bound) world result after run

end Engine

end PropertyBinding

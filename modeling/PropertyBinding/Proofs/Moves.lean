import PropertyBinding.Proofs.Propagation
import PropertyBinding.Proofs.Tracing
import PropertyBinding.Proofs.Wiring

namespace PropertyBinding

/-!
# What an engine does in one move

A run of an engine with its foreign code goes in moves.  A move is a piece of work
that no foreign code can interrupt, or something begins or ends that foreign code
can interrupt: a visit to that code, the telling of reads to a collector, an
announcement, the update of a binding.  What has begun and not ended yet stands on
a stack.

`Move` says once what a move can do to the world.  A scene is a stack and a world,
and a moment is a scene with what happens next in it, so a list of moments is the
tale of a run.  Whatever holds of the first scene and is kept by each move holds at
every moment of every tale; an invariant of the engine takes one proof for each
kind of move, at whatever point between two moves foreign code looks.
-/

/-- A changed list of bindings has the changed binding in its place and the others in theirs. -/
theorem found_modify {bindings : List Binding} {id other : BindingId} {change : Binding → Binding}
    {binding : Binding} (found : (bindings.modify id change)[other]? = some binding) :
    ∃ former, bindings[other]? = some former ∧
      binding = if id = other then change former else former := by
  rw [List.getElem?_modify] at found
  rcases Option.map_eq_some_iff.mp found with ⟨former, present, rfl⟩
  refine ⟨former, present, ?_⟩
  split <;> rfl

/-- The failure that waits is the latest one. -/
theorem Binding.error?_of_unreported {binding : Binding} {failure : Failure}
    (waits : binding.unreported? = some failure) : binding.error? = some failure := by
  rcases Option.map_eq_some_iff.mp waits with ⟨pending, kept, rfl⟩
  rw [Option.filter_eq_some_iff] at kept
  rw [error?, kept.1]
  rfl

namespace World

variable {σ : Type} (world : World σ) (id : BindingId)

/-- What a binding follows. -/
def readsOf : ReadSet :=
  ((world.bindings[id]?).map (·.reads)).getD .empty

/-- Changes a binding, which lets go of all its edges. -/
def letGo (change : Binding → Binding) : World σ :=
  { world with
    bindings := world.bindings.modify id fun binding => { change binding with reads := .empty }
    channels := world.channels.releaseAll (world.readsOf id).subscriptions }

/-- Lets go of all edges of a binding. -/
def cleared : World σ :=
  world.letGo id fun binding => binding

/-- Begins the evaluation of a binding, which has no edges then. -/
def begun : World σ :=
  world.letGo id fun binding => { binding with updating := true }

/-- Ends a binding for good. -/
def ended : World σ :=
  world.letGo id fun binding => { binding with retired := true, enabled := false }

/-- Ends the evaluation of a binding. -/
def finished : World σ :=
  { world with
    bindings := world.bindings.modify id fun binding => { binding with updating := false } }

/-- Tells the evidence log of a failure, if there is a log. -/
def witnessed (id : DiagnosticsId) (failure : Failure) : World σ :=
  match (world.diagnostics[id]?).bind (·.log?) with
  | none => world
  | some log =>
      let outcome := (EvidenceLog.addLine failure.evidence).run.run log
      let logged : World σ :=
        { world with
          diagnostics := world.diagnostics.modify id fun diagnostics =>
            { diagnostics with log? := some outcome.2 } }
      match outcome.1 with
      | .ok _ => logged
      | .error error => { logged with warnings := logged.warnings ++ [.lostEvidence error] }

/-- Reports a failure to everyone but the handler. -/
def noted (id : DiagnosticsId) (failure : Failure) : World σ :=
  let watched : World σ := { world with warnings := world.warnings ++ [.failure failure] }
  let logged := watched.witnessed id failure
  { logged with
    diagnostics := logged.diagnostics.modify id fun diagnostics => diagnostics.record failure }

/-- A read changes nothing of a binding but what it follows. -/
theorem found_capture {world : World σ} {source : Source} {other : BindingId} {binding : Binding}
    (found : (world.capture source).bindings[other]? = some binding) :
    ∃ former, world.bindings[other]? = some former ∧
      binding = { former with reads := binding.reads } := by
  unfold capture follow at found
  split at found
  · exact ⟨binding, found, rfl⟩
  · split at found
    · exact ⟨binding, found, rfl⟩
    · split at found
      · exact ⟨binding, found, rfl⟩
      · rcases found_modify found with ⟨former, present, same⟩
        refine ⟨former, present, ?_⟩
        subst same
        split <;> rfl
  · exact ⟨binding, found, rfl⟩

/-- A failure is reported without a change of objects, channels, bindings or the collector. -/
theorem noted_frame (id : DiagnosticsId) (failure : Failure) :
    (world.noted id failure).graph = world.graph ∧
      (world.noted id failure).channels = world.channels ∧
      (world.noted id failure).bindings = world.bindings ∧
      (world.noted id failure).collector? = world.collector? := by
  unfold noted witnessed
  dsimp only
  split
  · exact ⟨rfl, rfl, rfl, rfl⟩
  · split <;> exact ⟨rfl, rfl, rfl, rfl⟩

/-- Whoever watches is told of the failure, and then perhaps of evidence that was lost. -/
theorem warnings_noted (id : DiagnosticsId) (failure : Failure) :
    ∃ lost : List LogError, (world.noted id failure).warnings =
      world.warnings ++ .failure failure :: lost.map .lostEvidence := by
  unfold noted witnessed
  dsimp only
  split
  · exact ⟨[], rfl⟩
  · split
    · exact ⟨[], rfl⟩
    · next error _ => exact ⟨[error], by simp⟩

/-- Whether a later world differs only in parts that no binding, channel or report depends on. -/
structure Beside (world later : World σ) : Prop where
  graph : later.graph = world.graph
  channels : later.channels = world.channels
  bindings : later.bindings = world.bindings
  collector : later.collector? = world.collector?
  warnings : later.warnings = world.warnings

end World

namespace Binding

/-- The failure that is reported when a binding re-enters its own update. -/
def loopFailure (binding : Binding) (graph : ObjectGraph) : Failure :=
  let path := binding.target.path graph
  { kind := .bindingLoop, location := binding.location, object? := some binding.target.object,
    message := s!"Binding loop detected for property \"{path}\"", path? := some path }

/--
What work on a binding may change outside of the beginnings and ends of its updates:
it is not enabled any more once it is retired, and it notes no loops.
-/
structure Tended (former binding : Binding) : Prop where
  notifies : binding.notifyOnChange = former.notifyOnChange
  reads : binding.reads = former.reads
  updating : binding.updating = former.updating
  retired : binding.retired = former.retired
  enabled : binding.enabled = true → former.enabled = true ∨ former.retired = false
  error : ∀ failure, binding.error? = some failure →
    former.error? = some failure ∨ failure.kind ≠ .bindingLoop

/-- Who is told of what the expression of a binding reads. -/
def listener? (binding : Binding) (id : BindingId) : Option Collector :=
  if binding.notifyOnChange then some (.binding id) else none

/-- How a binding is when it is made. -/
structure Pristine (binding : Binding) : Prop where
  reads : binding.reads = .empty
  updating : binding.updating = false
  retired : binding.retired = false
  enabled : binding.enabled = false
  pending : binding.pending? = none

end Binding

/-- What a move is about, as far as a tale has to tell. -/
inductive Event where
  /-- The collector is told of a source. -/
  | reads (source : Source)
  /-- An update of a binding has passed all checks. -/
  | begins (id : BindingId)
  /-- A binding is retired. -/
  | retires (id : BindingId)
  /-- A binding that nothing keeps lets go of its edges. -/
  | drops (id : BindingId)
  | destroys (id : ObjectId)
  /-- The object graph goes with all its objects. -/
  | vanishes
  /-- A binding is asked to update while it is updated, and is to report that. -/
  | refuses (id : BindingId)
  | other
deriving DecidableEq

/-- What has begun in a run and not ended yet. -/
inductive Frame where
  /-- Foreign code answers a query. -/
  | visit (query : Query)
  /-- Reads are told to a collector, or to nobody, while the one before waits. -/
  | scope (collector? outer? : Option Collector)
  /-- An announcement calls the subscribers whose subscriptions it holds. -/
  | emission (held : List SubscriptionId)
  /-- A binding is updated. -/
  | update (id : BindingId)

/-- Whether foreign code is asked to call a function. -/
def Query.isCall : Query → Bool
  | .call _ _ => true
  | _ => false

namespace World

variable {σ : Type}

/--
Whether something may go on at first hand in the update of a binding: the scope in
which the expression tells its reads to the binding, if that is to follow them, or
what calls no function.
-/
def Evaluates (world : World σ) (id : BindingId) : Frame → Prop
  | .visit query => query.isCall = false
  | .scope collector? _ =>
      ∃ binding, world.bindings[id]? = some binding ∧ collector? = binding.listener? id
  | .emission _ | .update _ => True

/-- Whether something may go on on a stack; a binding collects in its own update only. -/
structure Admits (world : World σ) (stack : List Frame) (frame : Frame) : Prop where
  evaluates : ∀ id, stack.head? = some (.update id) → world.Evaluates id frame
  own : ∀ id outer?, frame = .scope (some (.binding id)) outer? → stack.head? = some (.update id)

namespace Admits

variable {world : World σ} {stack : List Frame}

theorem emission (held : List SubscriptionId) : world.Admits stack (.emission held) where
  evaluates _ _ := trivial
  own _ _ impossible := by cases impossible

theorem update (id : BindingId) : world.Admits stack (.update id) where
  evaluates _ _ := trivial
  own _ _ impossible := by cases impossible

end Admits

end World

/-- A world and what is going on in it, the latest first. -/
structure Scene (σ : Type) where
  stack : List Frame
  world : World σ

/-- A scene and what happens next in it. -/
structure Moment (σ : Type) where
  scene : Scene σ
  event : Event

variable {σ : Type}

/-- The work that foreign code cannot interrupt. -/
inductive Act : World σ → Event → World σ → Prop
  | beside {world later : World σ} (same : world.Beside later) : Act world .other later
  | object (world : World σ) (id : ObjectId) (change : Object → Object) :
      Act world .other { world with graph := world.graph.update id change }
  | create (world : World σ) (classId : ClassId) (name? : Option String) :
      Act world .other { world with graph := (world.graph.create classId name?).2 }
  | destroy {world : World σ} {id : ObjectId} {object : Object} {graph : ObjectGraph}
      (removed : world.graph.remove? id = some (object, graph)) :
      Act world (.destroys id)
        { world with graph := graph, channels := world.channels.removeObject id }
  | vanish (world : World σ) :
      Act world .vanishes
        { world with
          graph := .empty world.graph.schema
          channels := world.channels.removeProperties }
  | tend {world : World σ} {id : BindingId} {change : Binding → Binding}
      (tended : ∀ binding, world.bindings[id]? = some binding → binding.Tended (change binding)) :
      Act world .other { world with bindings := world.bindings.modify id change }
  | append {world : World σ} {binding : Binding} (fresh : binding.Pristine) :
      Act world .other { world with bindings := world.bindings ++ [binding] }
  | read {world : World σ} {source : Source}
      (present : ∀ object signal, source = .property object signal → world.graph.isAlive object) :
      Act world (.reads source) (world.capture source)
  | retire (world : World σ) (id : BindingId) : Act world (.retires id) (world.ended id)
  | drop {world : World σ} {id : BindingId} (unkept : world.keepsBinding id = false) :
      Act world (.drops id) (world.cleared id)
  | subscribe (world : World σ) (source : Source) (host : HostId) :
      Act world .other
        { world with channels := (world.channels.subscribe source (.host host)).2 }
  | unsubscribe {world : World σ} {subscription : SubscriptionId}
      (foreign : subscription ∉ world.subscriptions) :
      Act world .other { world with channels := world.channels.release subscription }
  | note {failure : Failure} (plain : failure.kind ≠ .bindingLoop) (world : World σ)
      (id : DiagnosticsId) : Act world .other (world.noted id failure)
  | refuse {world : World σ} {id : BindingId} {binding : Binding}
      (found : world.bindings[id]? = some binding) (enabled : binding.enabled = true)
      (active : binding.retired = false)
      (alive : world.graph.isAlive binding.target.object = true)
      (updating : binding.updating = true)
      (told : binding.context.config.reportLoops = true) :
      Act world (.refuses id)
        (world.noted binding.context.diagnostics (binding.loopFailure world.graph))

/-- What an engine can do in one move. -/
inductive Move : Scene σ → Event → Scene σ → Prop
  | act {world later : World σ} {event : Event} (stack : List Frame)
      (act : Act world event later) : Move ⟨stack, world⟩ event ⟨stack, later⟩
  | enter {stack : List Frame} {world : World σ} {query : Query}
      (admitted : world.Admits stack (.visit query)) :
      Move ⟨stack, world⟩ .other ⟨.visit query :: stack, world⟩
  | leave (stack : List Frame) (world : World σ) (query : Query) :
      Move ⟨.visit query :: stack, world⟩ .other ⟨stack, world⟩
  | collect {stack : List Frame} {world : World σ} {collector? : Option Collector}
      (admitted : world.Admits stack (.scope collector? world.collector?)) :
      Move ⟨stack, world⟩ .other
        ⟨.scope collector? world.collector? :: stack, { world with collector? := collector? }⟩
  | resume (stack : List Frame) (world : World σ) (collector? outer? : Option Collector) :
      Move ⟨.scope collector? outer? :: stack, world⟩ .other
        ⟨stack, { world with collector? := outer? }⟩
  | announce (stack : List Frame) (world : World σ) (source : Source) :
      Move ⟨stack, world⟩ .other
        ⟨.emission ((world.channels.liveOf source).map (·.id)) :: stack,
          { world with channels := (world.channels.startAnnouncement source).2 }⟩
  | announced (stack : List Frame) (world : World σ) (held : List SubscriptionId) :
      Move ⟨.emission held :: stack, world⟩ .other
        ⟨stack, { world with channels := world.channels.releaseAll held }⟩
  | begin {world : World σ} {id : BindingId} (stack : List Frame)
      (opens : world.opens id = true) :
      Move ⟨stack, world⟩ (.begins id) ⟨.update id :: stack, world.begun id⟩
  | finish (stack : List Frame) (world : World σ) (id : BindingId) :
      Move ⟨.update id :: stack, world⟩ .other ⟨stack, world.finished id⟩

/-- Whether a tale leads from one scene to another, each moment by a move to the next. -/
inductive Moves : Scene σ → List (Moment σ) → Scene σ → Prop
  | stay (scene : Scene σ) : Moves scene [] scene
  | step {scene next last : Scene σ} {event : Event} {tale : List (Moment σ)}
      (move : Move scene event next) (rest : Moves next tale last) :
      Moves scene (⟨scene, event⟩ :: tale) last

/-- Whether a tale to a last scene comes by a scene after some of its moments. -/
def Passes (tale : List (Moment σ)) (last : Scene σ) (past : List (Moment σ)) (scene : Scene σ) :
    Prop :=
  (∃ event rest, tale = past ++ ⟨scene, event⟩ :: rest) ∨ tale = past ∧ last = scene

/-- A tale comes by the scene of each moment in its past. -/
theorem Passes.earlier {tale past : List (Moment σ)} {last scene : Scene σ} {moment : Moment σ}
    (passes : Passes tale last past scene) (member : moment ∈ past) :
    ∃ before, Passes tale last before moment.scene := by
  rcases List.append_of_mem member with ⟨before, since, rfl⟩
  refine ⟨before, .inl ⟨moment.event, ?_⟩⟩
  rcases passes with ⟨event, rest, rfl⟩ | ⟨rfl, _⟩
  · exact ⟨since ++ ⟨scene, event⟩ :: rest, by simp⟩
  · exact ⟨since, rfl⟩

namespace Moves

variable {scene middle last : Scene σ} {tale rest past : List (Moment σ)}

theorem one {event : Event} (move : Move scene event last) :
    Moves scene [⟨scene, event⟩] last :=
  .step move (.stay last)

theorem append (first : Moves scene tale middle) (second : Moves middle rest last) :
    Moves scene (tale ++ rest) last := by
  induction first with
  | stay => exact second
  | step move _ later => exact .step move (later second)

/-- What each move keeps holds at the end of every tale. -/
theorem keep {holds : List (Moment σ) → Scene σ → Prop}
    (kept : ∀ {past scene event next}, holds past scene → Move scene event next →
      holds (past ++ [⟨scene, event⟩]) next)
    (moves : Moves scene tale last) (first : holds past scene) : holds (past ++ tale) last := by
  induction moves generalizing past with
  | stay => rwa [List.append_nil]
  | step move _ later =>
      have next := later (kept first move)
      rwa [List.append_assoc] at next

/-- What each move keeps of a scene holds of the last scene. -/
theorem preserve {holds : Scene σ → Prop}
    (kept : ∀ {scene event next}, holds scene → Move scene event next → holds next)
    (moves : Moves scene tale last) (first : holds scene) : holds last := by
  induction moves with
  | stay => exact first
  | step move _ later => exact later (kept first move)

/-- The part of a tale before one of its moments leads to the scene of that moment. -/
theorem before {moment : Moment σ} {later : List (Moment σ)}
    (moves : Moves scene (past ++ moment :: later) last) : Moves scene past moment.scene := by
  induction past generalizing scene with
  | nil =>
      cases moves with
      | step => exact .stay _
  | cons earlier rest step =>
      cases moves with
      | step move next => exact .step move (step next)

/-- What each move keeps holds at every scene of a tale. -/
theorem keepAt {holds : List (Moment σ) → Scene σ → Prop}
    (kept : ∀ {past scene event next}, holds past scene → Move scene event next →
      holds (past ++ [⟨scene, event⟩]) next)
    (moves : Moves scene tale last) (passes : Passes tale last past middle)
    (first : holds [] scene) : holds past middle := by
  rcases passes with ⟨event, rest, rfl⟩ | ⟨rfl, rfl⟩
  · exact moves.before.keep kept first
  · exact moves.keep kept first

end Moves

end PropertyBinding

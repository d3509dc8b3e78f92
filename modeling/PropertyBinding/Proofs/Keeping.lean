import PropertyBinding.Proofs.Ensuring
import PropertyBinding.Proofs.Looking

namespace PropertyBinding

/-!
# Relations that operations keep

An operation keeps a relation between worlds when each of its runs leads from a
world to one that stands in the relation to it.  Relations of interest are
reflexive and transitive, and then a sequence of operations keeps what its parts
keep.

`Groundwork` lists what has to be shown of a relation, for the code outside and for
each kind of change that the engine makes without a change of objects; reads,
reports and evaluations are made of these.  `Upkeep` asks for writes, pointers and
interceptors too, of which write-backs are made, and `Chores` says what is enough
for those where it does not matter what objects hold.  `Staffing` says what it takes
to attach, detach and retire writers.  So an invariant of the engine, or a fact that
stays true once it is, takes one proof for each kind of change and none for each
operation.
-/

/-- An alias is pointed at a property that there is, and the graph differs in one cell then. -/
theorem ObjectGraph.parts_of_setAlias {graph changed : ObjectGraph} {ref target : PropertyRef}
    (pointed : graph.setAlias ref target = .ok changed) :
    (∃ property, graph.property ref = .ok property ∧ property.isAlias = true) ∧
      (∃ aimed, graph.property target = .ok aimed) ∧
        changed = graph.setCell ref (.alias (some target)) := by
  unfold ObjectGraph.setAlias at pointed
  cases described : graph.property ref with
  | error error =>
      rw [described] at pointed
      cases pointed
  | ok property =>
      rw [described] at pointed
      change (if property.isAlias then _ else _) = _ at pointed
      split at pointed
      · next pointer =>
        cases aimed : graph.property target with
        | error error =>
            rw [aimed] at pointed
            cases pointed
        | ok other =>
            rw [aimed] at pointed
            cases pointed
            exact ⟨⟨property, rfl, pointer⟩, ⟨other, rfl⟩, rfl⟩
      · cases pointed

theorem ObjectGraph.eq_of_setAlias {graph changed : ObjectGraph} {ref target : PropertyRef}
    (pointed : graph.setAlias ref target = .ok changed) :
    changed = graph.setCell ref (.alias (some target)) :=
  (parts_of_setAlias pointed).2.2

/--
What an operation may change of a binding that it neither updates nor retires.
A retired binding follows nothing new, and the latest failure stays, although it
may become a reported one.
-/
structure Binding.Slight (former binding : Binding) : Prop where
  target : binding.target = former.target
  context : binding.context = former.context
  enabled : binding.enabled = former.enabled
  updating : binding.updating = former.updating
  retired : binding.retired = former.retired
  error : binding.error? = former.error?
  evaluations : binding.evaluations = former.evaluations
  reads : former.retired = true → binding.reads = former.reads ∨ binding.reads = .empty

/--
What an operation may change of a binding so that nobody is told: what it has
compiled, and what it follows, which it may let go of.
-/
structure Binding.Unnoticed (former binding : Binding) : Prop where
  target : binding.target = former.target
  context : binding.context = former.context
  enabled : binding.enabled = former.enabled
  updating : binding.updating = former.updating
  retired : binding.retired = former.retired
  pending : binding.pending? = former.pending?
  evaluations : binding.evaluations = former.evaluations
  reads : binding.reads = former.reads ∨ binding.reads = .empty

theorem Binding.Unnoticed.slight {former binding : Binding} (unnoticed : former.Unnoticed binding) :
    former.Slight binding where
  target := unnoticed.target
  context := unnoticed.context
  enabled := unnoticed.enabled
  updating := unnoticed.updating
  retired := unnoticed.retired
  error := by rw [error?, unnoticed.pending, error?]
  evaluations := unnoticed.evaluations
  reads _ := unnoticed.reads

theorem Binding.Slight.unreported {binding : Binding} {failure : Failure}
    (waits : binding.unreported? = some failure) : binding.Slight (binding.withPending failure true) := by
  refine ⟨rfl, rfl, rfl, rfl, rfl, ?_, rfl, fun _ => .inl rfl⟩
  rcases Option.map_eq_some_iff.mp waits with ⟨pending, kept, rfl⟩
  rw [Option.filter_eq_some_iff] at kept
  simp [error?, withPending, kept.1]

namespace Engine

variable {σ α β ε : Type} {outside : Outside σ} {world : World σ}
  {relation : World σ → World σ → Prop}

/-- Whether every run of an operation leads to a world that stands in a relation to the one before. -/
def Keeps (outside : Outside σ) (relation : World σ → World σ → Prop) (operation : Engine σ α) :
    Prop :=
  ∀ world, Ensures outside operation world fun _ after => relation world after

theorem Keeps.weaken {weaker : World σ → World σ → Prop} {operation : Engine σ α}
    (keeps : Keeps outside relation operation)
    (weakens : ∀ world after, relation world after → weaker world after) :
    Keeps outside weaker operation :=
  fun world => (keeps world).weaken fun _ after => weakens world after

/-- Whether a relation holds over no operation and over a sequence if it does over each part. -/
structure Steady (relation : World σ → World σ → Prop) : Prop where
  refl : ∀ world, relation world world
  trans : ∀ {first second third}, relation first second → relation second third →
    relation first third

/-! ## Sequences -/

namespace Steady

variable (steady : Steady relation)
include steady

theorem value (result : α) : Keeps outside relation (pure result) :=
  fun world => .value (steady.refl world)

theorem bind {operation : Engine σ α} {next : α → Engine σ β}
    (first : Keeps outside relation operation) (second : ∀ result, Keeps outside relation (next result)) :
    Keeps outside relation (operation >>= next) := by
  intro world
  refine Ensures.bind _ (first world) fun result middle step => ?_
  exact (second result middle).weaken fun _ _ rest => steady.trans step rest

theorem get : Keeps outside relation (get : Engine σ (World σ)) :=
  fun world => .of_steps (fun _ => rfl) (steady.refl world)

theorem seen : Keeps outside relation (graph : Engine σ ObjectGraph) :=
  fun world => .of_steps (apply_graph · world) (steady.refl world)

theorem found (id : BindingId) : Keeps outside relation (binding? id : Engine σ (Option Binding)) :=
  fun world => .of_steps (apply_binding? · world id) (steady.refl world)

omit steady in
theorem change {change : World σ → World σ} (step : ∀ world, relation world (change world)) :
    Keeps outside relation (modify change) :=
  fun world => .of_steps (fun _ => rfl) (step world)

theorem map (change : α → β) {operation : Engine σ α} (first : Keeps outside relation operation) :
    Keeps outside relation (change <$> operation) :=
  steady.bind first fun result => steady.value (change result)

theorem attempt {operation : Attempt ε σ α} {next : α → Attempt ε σ β}
    (first : Keeps outside relation operation.run)
    (second : ∀ result, Keeps outside relation (next result).run) :
    Keeps outside relation (operation >>= next).run := by
  refine steady.bind first fun outcome => ?_
  cases outcome with
  | ok result => exact second result
  | error error => exact steady.value (Except.error error)

theorem perform {operation : Engine σ α} {next : α → Attempt ε σ β}
    (first : Keeps outside relation operation)
    (second : ∀ result, Keeps outside relation (next result).run) :
    Keeps outside relation (Attempt.perform operation >>= next).run :=
  steady.attempt (steady.map _ first) second

theorem done {operation : Engine σ α} (last : Keeps outside relation operation) :
    Keeps outside relation (Attempt.perform operation : Attempt ε σ α).run :=
  steady.map _ last

theorem ask {question : ObjectGraph → Except ε α} :
    Keeps outside relation (Attempt.ask question : Attempt ε σ α).run :=
  steady.bind steady.seen fun graph => steady.value (question graph)

theorem adapt {ε' : Type} {operation : Attempt ε σ α} (rename : ε → ε')
    (inner : Keeps outside relation operation.run) :
    Keeps outside relation (ExceptT.adapt rename operation).run :=
  steady.map _ inner

/-- Retirement of writers keeps what the retirement of each of them keeps. -/
theorem retireAll {writers : List Writer}
    (each : ∀ writer ∈ writers, Keeps outside relation (retire writer)) :
    Keeps outside relation (retireAll writers) := by
  induction writers with
  | nil => exact steady.value ()
  | cons writer rest step =>
      refine steady.bind (each writer List.mem_cons_self) fun _ => ?_
      exact step fun other listed => each other (List.mem_cons_of_mem _ listed)

theorem succeed (result : α) : Keeps outside relation (pure result : Attempt ε σ α).run :=
  steady.value (Except.ok result)

theorem fail (error : ε) : Keeps outside relation (throw error : Attempt ε σ α).run :=
  steady.value (Except.error error)

omit steady

theorem branch {condition : Prop} [Decidable condition] {yes no : Engine σ α}
    (left : Keeps outside relation yes) (right : Keeps outside relation no) :
    Keeps outside relation (if condition then yes else no) := by
  split
  · exact left
  · exact right

theorem choose {condition : Prop} [Decidable condition] {yes no : Attempt ε σ α}
    (left : Keeps outside relation yes.run) (right : Keeps outside relation no.run) :
    Keeps outside relation (if condition then yes else no).run := by
  split
  · exact left
  · exact right

end Steady

end Engine

open Engine in
/-- Whether all code outside of the engine keeps a relation. -/
structure Outside.Keeps {σ : Type} (outside : Outside σ) (relation : World σ → World σ → Prop) :
    Prop where
  call : ∀ callee context, Engine.Keeps outside relation (foreign fun code => code.call callee context)
  intercept : ∀ id object value,
    Engine.Keeps outside relation (foreign fun code => code.intercept id object value)
  announce : ∀ callback, Engine.Keeps outside relation (foreign fun code => code.announce callback)
  handle : ∀ id failure, Engine.Keeps outside relation (foreign fun code => code.handle id failure)
  retire : ∀ id, Engine.Keeps outside relation (foreign fun code => code.retire id)

theorem Outside.Keeps.weaken {σ : Type} {outside : Outside σ}
    {relation weaker : World σ → World σ → Prop} (code : outside.Keeps relation)
    (weakens : ∀ world after, relation world after → weaker world after) : outside.Keeps weaker where
  call callee context := (code.call callee context).weaken weakens
  intercept id object value := (code.intercept id object value).weaken weakens
  announce callback := (code.announce callback).weaken weakens
  handle id failure := (code.handle id failure).weaken weakens
  retire id := (code.retire id).weaken weakens

namespace Engine

variable {σ α β ε : Type} {outside : Outside σ} {world : World σ}
  {relation : World σ → World σ → Prop}

/-! ## Retirement -/

/-- The binding that a binding is once it is retired. -/
def retiredForm (binding : Binding) : Binding :=
  { binding with retired := true, enabled := false, reads := .empty }

/-- A binding that is retired loses its edges; nothing else of the world that counts changes. -/
theorem retireBinding_ends (id : BindingId) :
    Ensures outside (retireBinding id) world fun _ after =>
      after.bindings = world.bindings.modify id retiredForm ∧ after.graph = world.graph ∧
      after.graphHolders = world.graphHolders := by
  refine .change (.lookBinding ?_)
  cases found : world.bindings[id]? with
  | none =>
      have beyond := List.getElem?_eq_none_iff.mp found
      have same : ∀ change, world.bindings.modify id change = world.bindings :=
        fun change => List.modify_eq_self beyond
      simp only [same, found]
      exact .value ⟨rfl, rfl, rfl⟩
  | some binding =>
      simp only [List.getElem?_modify_eq, found, Option.map_eq_map, Option.map_some]
      refine .change (.of_steps (fun outside => apply_modifyChannels outside _ _) ⟨?_, rfl, rfl⟩)
      exact List.modify_modify_eq _ _ _ _

/-! ## What nobody is told of -/

/-- What has to be shown of a relation so that the operations that nobody is told of keep it. -/
structure Discreet (relation : World σ → World σ → Prop) : Prop extends Steady relation where
  /-- A change of strategies, identities and the collector. -/
  aside : ∀ {world later : World σ}, { later with
    adapters := world.adapters, identities := world.identities,
    collector? := world.collector? } = world → relation world later
  unnoticed : ∀ (world : World σ) (id : BindingId) change,
    (∀ binding : Binding, binding.Unnoticed (change binding)) →
    relation world { world with bindings := world.bindings.modify id change }
  /-- Subscriptions end. -/
  released : ∀ (world : World σ) subscriptions,
    relation world { world with channels := world.channels.releaseAll subscriptions }

namespace Discreet

variable (discreet : Discreet relation)
include discreet

theorem move {change : World σ → World σ}
    (same : ∀ world, { change world with
      adapters := world.adapters, identities := world.identities,
      collector? := world.collector? } = world) : Keeps outside relation (modify change) :=
  Steady.change fun world => discreet.aside (same world)

theorem modifyBinding (id : BindingId) {change : Binding → Binding}
    (unnoticed : ∀ binding : Binding, binding.Unnoticed (change binding)) :
    Keeps outside relation (modifyBinding id change) :=
  Steady.change fun world => discreet.unnoticed world id change unnoticed

theorem clearReads (id : BindingId) : Keeps outside relation (clearReads id) := by
  refine discreet.bind (discreet.found id) fun found => ?_
  cases found with
  | none => exact discreet.value ()
  | some binding =>
      refine discreet.bind (discreet.modifyBinding id fun _ => ?_) fun _ =>
        Steady.change fun world => discreet.released world _
      exact ⟨rfl, rfl, rfl, rfl, rfl, rfl, rfl, .inr rfl⟩

theorem settle (id : BindingId) : Keeps outside relation (settle id) :=
  discreet.bind discreet.get fun _ => Steady.branch (discreet.clearReads id) (discreet.value ())

theorem settleAll (ids : List BindingId) : Keeps outside relation (settleAll ids) := by
  induction ids with
  | nil => exact discreet.value ()
  | cons id rest step => exact discreet.bind (discreet.settle id) fun _ => step

/-- With the last holder the graph goes. -/
theorem releaseGraph
    (drops : ∀ world : World σ,
      relation world { world with graphHolders := world.graphHolders - 1 })
    (empties : ∀ world : World σ, world.hasGraph = false → relation world { world with
      graph := .empty world.graph.schema, channels := world.channels.removeProperties }) :
    Keeps outside relation releaseGraph := by
  intro world
  refine .change (.look ?_)
  split
  · next lost =>
    have emptied := discreet.trans (drops world) (empties _ (by simpa using lost))
    refine .change (.look ((discreet.settleAll _ _).weaken fun _ _ settled => ?_))
    exact discreet.trans emptied settled
  · exact .value (drops world)

theorem freshIdentity : Keeps outside relation freshIdentity :=
  discreet.bind discreet.get fun _ =>
    discreet.bind (discreet.move fun _ => rfl) fun _ => discreet.value _

theorem place (value : Value) : Keeps outside relation (place value) :=
  discreet.bind discreet.get fun _ =>
    discreet.bind (discreet.move fun _ => rfl) fun _ => discreet.value _

theorem functionOf (id : BindingId) (binding : Binding) :
    Keeps outside relation (functionOf id binding) := by
  unfold Engine.functionOf
  split
  · exact discreet.value _
  · exact discreet.value _
  · refine discreet.bind ?_ fun compiled => discreet.bind ?_ fun _ => discreet.value compiled
    · unfold Script.Evaluation.compile
      split
      · exact discreet.perform discreet.freshIdentity fun _ => discreet.succeed _
      · exact discreet.fail _
    · exact discreet.modifyBinding id fun _ => ⟨rfl, rfl, rfl, rfl, rfl, rfl, rfl, .inl rfl⟩

theorem locationOf (id : BindingId) : Keeps outside relation (locationOf id) :=
  discreet.bind (discreet.found id) fun _ => discreet.value _

theorem writeFailure (id : BindingId) (binding : Binding) (error : WriteError) :
    Keeps outside relation (writeFailure id binding error) :=
  discreet.bind (discreet.locationOf id) fun _ =>
    discreet.bind discreet.seen fun _ => discreet.value _

theorem requireFit (property : Property) (value : Native) :
    Keeps outside relation (requireFit property value).run :=
  Steady.choose (discreet.perform discreet.seen fun _ => discreet.fail _) (discreet.succeed _)

theorem typeName (type : PropertyType) : Keeps outside relation (WriteBack.typeName type) :=
  discreet.bind discreet.seen fun _ => discreet.value _

theorem fieldNumber (value : Value) :
    Keeps outside relation (WriteBack.fieldNumber value : WriteBack σ Float).run := by
  unfold WriteBack.fieldNumber
  split
  · exact discreet.perform (discreet.typeName _) fun _ => discreet.fail _
  · exact discreet.fail _
  · exact discreet.succeed _
  · refine discreet.attempt (discreet.adapt _ discreet.ask) fun native => ?_
    split
    · exact discreet.succeed _
    · exact discreet.perform discreet.seen fun _ => discreet.fail _

theorem chooseStrategy (adapter : AdapterId) (property : Property) :
    Keeps outside relation (WriteBack.chooseStrategy adapter property) := by
  refine discreet.bind (discreet.bind discreet.get fun _ => discreet.value _) fun chosen => ?_
  cases chosen with
  | some strategy => exact discreet.value strategy
  | none => exact discreet.bind (discreet.move fun _ => rfl) fun _ => discreet.value _

end Discreet

/-! ## Announcements and reports -/

/-- What has to be shown of a relation so that announcements and reports keep it. -/
structure Outspoken (outside : Outside σ) (relation : World σ → World σ → Prop) : Prop
    extends Steady relation where
  told : ∀ callback, Keeps outside relation (foreign fun code => code.announce callback)
  handled : ∀ id failure, Keeps outside relation (foreign fun code => code.handle id failure)
  /-- A change of channels, diagnostics and the like. -/
  apart : ∀ {world later : World σ}, later.host = world.host → later.graph = world.graph →
    later.graphHolders = world.graphHolders → later.bindings = world.bindings →
    relation world later

namespace Outspoken

variable (outspoken : Outspoken outside relation)
include outspoken

theorem rest {change : World σ → World σ}
    (same : ∀ world, (change world).host = world.host ∧ (change world).graph = world.graph ∧
      (change world).graphHolders = world.graphHolders ∧
      (change world).bindings = world.bindings) : Keeps outside relation (modify change) :=
  Steady.change fun world =>
    outspoken.apart (same world).1 (same world).2.1 (same world).2.2.1 (same world).2.2.2

theorem modifyChannels (change : Channels → Channels) :
    Keeps outside relation (modifyChannels change) :=
  outspoken.rest fun _ => ⟨rfl, rfl, rfl, rfl⟩

theorem callAll (subscribers : List Subscriber) : Keeps outside relation (callAll subscribers) := by
  induction subscribers with
  | nil => exact outspoken.value ()
  | cons subscriber rest step =>
      exact outspoken.bind (outspoken.told subscriber.callback) fun _ => step

theorem announce (source : Source) : Keeps outside relation (announce source) := by
  refine outspoken.bind outspoken.get fun _ => outspoken.bind (outspoken.modifyChannels _) fun _ => ?_
  exact outspoken.bind (outspoken.callAll _) fun _ => outspoken.modifyChannels _

theorem report (id : DiagnosticsId) (failure : Failure) :
    Keeps outside relation (report id failure) := by
  have evidence : Keeps outside relation
      (onEvidence id (EvidenceLog.addLine failure.evidence)).run := by
    refine outspoken.bind outspoken.get fun world => ?_
    split
    · exact outspoken.bind (outspoken.rest fun _ => ⟨rfl, rfl, rfl, rfl⟩) fun _ => outspoken.value _
    · exact outspoken.value _
  refine outspoken.bind (outspoken.rest fun _ => ⟨rfl, rfl, rfl, rfl⟩) fun _ =>
    outspoken.bind ?_ fun _ => outspoken.bind outspoken.get fun world => ?_
  · refine outspoken.bind evidence fun outcome => ?_
    split
    · exact outspoken.value ()
    · exact outspoken.rest fun _ => ⟨rfl, rfl, rfl, rfl⟩
  · split
    · refine outspoken.bind (outspoken.rest fun _ => ⟨rfl, rfl, rfl, rfl⟩) fun _ => ?_
      split
      · exact outspoken.handled _ _
      · exact outspoken.value ()
    · exact outspoken.value ()

theorem reportLoop (binding : Binding) : Keeps outside relation (reportLoop binding) :=
  Steady.branch (outspoken.bind outspoken.seen fun _ => outspoken.report _ _) (outspoken.value ())

end Outspoken

/-! ## Kinds of changes -/

/-- What has to be shown of a relation so that all keeps it that changes no object. -/
structure Groundwork (outside : Outside σ) (relation : World σ → World σ → Prop) : Prop
    extends Steady relation where
  code : outside.Keeps relation
  /-- A change of the rest of the world. -/
  elsewhere : ∀ {world later : World σ}, later.host = world.host → later.graph = world.graph →
    later.graphHolders = world.graphHolders → later.bindings = world.bindings →
    relation world later
  /-- A slight change of a binding. -/
  slight : ∀ (world : World σ) (id : BindingId) change,
    (∀ binding, world.bindings[id]? = some binding → binding.Slight (change binding)) →
    relation world { world with bindings := world.bindings.modify id change }

namespace Groundwork

variable (groundwork : Groundwork outside relation)
include groundwork

theorem rest {change : World σ → World σ}
    (same : ∀ world, (change world).host = world.host ∧ (change world).graph = world.graph ∧
      (change world).graphHolders = world.graphHolders ∧
      (change world).bindings = world.bindings) : Keeps outside relation (modify change) :=
  Steady.change fun world =>
    groundwork.elsewhere (same world).1 (same world).2.1 (same world).2.2.1 (same world).2.2.2

theorem modifyBinding (id : BindingId) {change : Binding → Binding}
    (slight : ∀ binding : Binding, binding.Slight (change binding)) :
    Keeps outside relation (modifyBinding id change) :=
  Steady.change fun world => groundwork.slight world id change fun binding _ => slight binding

theorem discreet : Discreet relation where
  toSteady := groundwork.toSteady
  aside same := groundwork.elsewhere (congrArg World.host same :) (congrArg World.graph same :)
    (congrArg World.graphHolders same :) (congrArg World.bindings same :)
  unnoticed world id change unnoticed :=
    groundwork.slight world id change fun binding _ => (unnoticed binding).slight
  released _ _ := groundwork.elsewhere rfl rfl rfl rfl

theorem outspoken : Outspoken outside relation where
  toSteady := groundwork.toSteady
  told := groundwork.code.announce
  handled := groundwork.code.handle
  apart := groundwork.elsewhere

/-! ## Collectors -/

theorem follow (id : BindingId) (source : Source) : Keeps outside relation (follow id source) := by
  intro world
  refine .lookBinding ?_
  cases found : world.bindings[id]? with
  | none => exact .value (groundwork.refl world)
  | some binding =>
      dsimp only
      split
      · exact .value (groundwork.refl world)
      · next active =>
        refine .bind (fun _ after => after.bindings = world.bindings ∧ relation world after)
          (.look (.change (.value ⟨rfl, groundwork.elsewhere rfl rfl rfl rfl⟩))) ?_
        rintro subscription after ⟨same, subscribed⟩
        refine .of_steps (fun outside => apply_modifyBinding outside after id _) ?_
        refine groundwork.trans subscribed (groundwork.slight after id _ fun current located => ?_)
        rw [same, found] at located
        cases located
        refine ⟨rfl, rfl, rfl, rfl, rfl, rfl, rfl, fun retired => ?_⟩
        simp [retired] at active

theorem capture (source : Source) : Keeps outside relation (capture source) := by
  refine groundwork.bind groundwork.get fun world => ?_
  cases world.collector? with
  | none => exact groundwork.value ()
  | some collector =>
      cases collector with
      | binding id => exact groundwork.follow id source
      | recorder reads => exact groundwork.rest fun _ => ⟨rfl, rfl, rfl, rfl⟩

theorem withCollector (collector? : Option Collector) {operation : Engine σ α}
    (inner : Keeps outside relation operation) :
    Keeps outside relation (withCollector collector? operation) := by
  refine groundwork.bind groundwork.get fun _ => groundwork.bind (groundwork.rest fun _ => ⟨rfl, rfl, rfl, rfl⟩) ?_
  refine fun _ => groundwork.bind inner fun _ => ?_
  exact groundwork.bind (groundwork.rest fun _ => ⟨rfl, rfl, rfl, rfl⟩) fun _ => groundwork.value _

/-! ## Reads -/

theorem read (ref : PropertyRef) : Keeps outside relation (read ref).run := by
  refine groundwork.attempt groundwork.ask fun target => groundwork.attempt groundwork.ask fun property => ?_
  exact groundwork.perform (groundwork.capture _) fun _ => groundwork.ask

theorem readNotifier (id : NotifierId) : Keeps outside relation (readNotifier id) :=
  groundwork.bind (groundwork.capture _) fun _ => groundwork.bind groundwork.get fun _ => groundwork.value _

omit groundwork in
theorem lawful (groundwork : Groundwork outside relation) :
    Lawful (σ := σ) fun operation => Keeps outside relation operation where
  value := groundwork.value
  bind := groundwork.bind
  look _ each := groundwork.bind groundwork.seen each
  freshIdentity := groundwork.discreet.freshIdentity
  place := groundwork.discreet.place
  readValue ref := groundwork.attempt (groundwork.read ref) fun _ => groundwork.done (groundwork.discreet.place _)
  readNotifier := groundwork.readNotifier

/-! ## Interceptors and notifiers -/

theorem hasInterceptor (ref : PropertyRef) : Keeps outside relation (hasInterceptor ref) := by
  refine groundwork.bind groundwork.seen fun graph => ?_
  split <;> exact groundwork.value _

theorem assignNotifier (id : NotifierId) (value : Value) :
    Keeps outside relation (assignNotifier id value) := by
  refine groundwork.bind groundwork.get fun world => ?_
  split
  · exact groundwork.value ()
  · exact groundwork.bind (groundwork.rest fun _ => ⟨rfl, rfl, rfl, rfl⟩) fun _ => groundwork.outspoken.announce _

/-! ## Reports -/

theorem reportPending (id : BindingId) : Keeps outside relation (reportPending id) := by
  intro world
  refine .lookBinding ?_
  cases found : world.bindings[id]? with
  | none => exact .value (groundwork.refl world)
  | some binding =>
      dsimp only
      split
      · exact .value (groundwork.refl world)
      · next failure waits =>
        refine .change (.bind _ (groundwork.outspoken.report _ _ _) fun _ _ reported => .value ?_)
        refine groundwork.trans (groundwork.slight world id _ fun same located => ?_) reported
        rw [found] at located
        cases located
        exact .unreported waits

/-! ## Evaluation -/

theorem evaluateBinding (id : BindingId) (binding : Binding) :
    Keeps outside relation (evaluateBinding id binding) := by
  refine groundwork.bind (groundwork.discreet.functionOf id binding) fun found => ?_
  cases found with
  | error error => exact groundwork.value _
  | ok callee =>
      refine groundwork.bind (groundwork.withCollector _ (groundwork.code.call callee _)) fun outcome => ?_
      cases outcome with
      | ok value => exact groundwork.value _
      | error error => exact groundwork.bind (groundwork.discreet.locationOf id) fun _ => groundwork.value _

theorem refreshFastPath (id : BindingId) : Keeps outside relation (refreshFastPath id) := by
  refine groundwork.bind (groundwork.found id) fun found => ?_
  cases found with
  | none => exact groundwork.value ()
  | some binding =>
      refine groundwork.bind (groundwork.hasInterceptor _) fun _ => groundwork.bind groundwork.get fun _ => ?_
      exact groundwork.modifyBinding id fun _ =>
        ⟨rfl, rfl, rfl, rfl, rfl, rfl, rfl, fun _ => .inl rfl⟩

/-! ## Names -/

theorem retain (id : BindingId) : Keeps outside relation (retain id) :=
  groundwork.modifyBinding id fun _ => ⟨rfl, rfl, rfl, rfl, rfl, rfl, rfl, fun _ => .inl rfl⟩

theorem release (id : BindingId) : Keeps outside relation (release id) := by
  refine groundwork.bind (groundwork.modifyBinding id fun _ => ?_) fun _ => groundwork.discreet.settle id
  exact ⟨rfl, rfl, rfl, rfl, rfl, rfl, rfl, fun _ => .inl rfl⟩

end Groundwork

/-! ## Changes of writers -/

/-- What has to be shown of a relation so that it is kept while writers come and go. -/
structure Staffing (outside : Outside σ) (relation : World σ → World σ → Prop) : Prop
    extends Steady relation where
  retired : ∀ writer, Keeps outside relation (retire writer)
  /-- An object gets other writers. -/
  rewired : ∀ (world : World σ) id change,
    (∀ object : Object, ∃ writers, change object = { object with writers := writers }) →
    relation world { world with graph := world.graph.update id change }

namespace Staffing

variable (staffing : Staffing outside relation)
include staffing

theorem rewire (id : ObjectId) {change : Object → Object}
    (writers : ∀ object : Object, ∃ writers, change object = { object with writers := writers }) :
    Keeps outside relation (modifyGraph fun graph => graph.update id change) :=
  Steady.change fun world => staffing.rewired world id change writers

theorem retireAll (writers : List Writer) : Keeps outside relation (retireAll writers) :=
  staffing.toSteady.retireAll fun writer _ => staffing.retired writer

theorem removeWriters (ref : PropertyRef) : Keeps outside relation (removeWriters ref) := by
  refine staffing.bind staffing.seen fun graph => ?_
  split
  · exact staffing.value ()
  · exact staffing.bind (staffing.rewire _ fun _ => ⟨_, rfl⟩) fun _ => staffing.retireAll _

theorem attach (id : ObjectId) (slot : WriterSlot) (writer : Writer) :
    Keeps outside relation (attach id slot writer).run := by
  refine staffing.perform staffing.seen fun graph => Steady.choose ?_ (staffing.fail _)
  exact staffing.done (staffing.bind (staffing.rewire id fun _ => ⟨_, rfl⟩) fun _ =>
    staffing.retireAll _)

theorem detach (id : ObjectId) (slot : WriterSlot) : Keeps outside relation (detach id slot) := by
  refine staffing.bind staffing.seen fun graph => ?_
  split
  · exact staffing.value false
  · next writer _ =>
    refine staffing.bind (staffing.rewire id fun _ => ⟨_, rfl⟩) fun _ => ?_
    exact staffing.bind (staffing.retired writer) fun _ => staffing.value true

theorem install (id : BindingId) : Keeps outside relation (install id).run := by
  refine staffing.perform (staffing.found id) fun found => ?_
  cases found with
  | none => exact staffing.succeed ()
  | some binding =>
      refine staffing.perform staffing.get fun world => Steady.choose (staffing.fail _) ?_
      exact Steady.choose (staffing.attach _ _ _) (staffing.succeed ())

/-- An object that is destroyed is taken out of the graph before its writers are told. -/
theorem destroy_ensures {start : World σ} (id : ObjectId)
    (absent : world.graph.remove? id = none → relation start world)
    (taken : ∀ object graph, world.graph.remove? id = some (object, graph) →
      relation start { world with
        graph := graph, channels := world.channels.removeObject id }) :
    Ensures outside (destroy id) world fun _ after => relation start after := by
  refine .lookGraph ?_
  cases removal : world.graph.remove? id with
  | none => exact .value (absent removal)
  | some removed =>
      rcases removed with ⟨object, graph⟩
      exact .change (.change (.bind _ (staffing.retireAll _ _) fun _ _ stays =>
        .value (staffing.trans (taken object graph removal) stays)))

theorem destroy (id : ObjectId)
    (taken : ∀ (world : World σ) object graph, world.graph.remove? id = some (object, graph) →
      relation world { world with
        graph := graph, channels := world.channels.removeObject id }) :
    Keeps outside relation (destroy id) :=
  fun world => staffing.destroy_ensures id (fun _ => staffing.refl world) (taken world)

end Staffing

/-! ## Assignments -/

/--
What has to be shown of a relation so that all operations of the engine but the
largest keep it: what it takes to follow reads, and the operations that change objects.
-/
structure Upkeep (outside : Outside σ) (relation : World σ → World σ → Prop) : Prop
    extends Groundwork outside relation where
  write : ∀ ref value flags, Keeps outside relation (write ref value flags).run
  writeVar : ∀ ref value flags, Keeps outside relation (writeVar ref value flags).run
  setAlias : ∀ ref target, Keeps outside relation (setAlias ref target).run
  installInterceptor : ∀ ref id, Keeps outside relation (installInterceptor ref id).run
  removeInterceptor : ∀ ref, Keeps outside relation (removeInterceptor ref)

namespace Upkeep

variable (upkeep : Upkeep outside relation)
include upkeep

theorem reset (ref : PropertyRef) (flags : WriteFlags) :
    Keeps outside relation (reset ref flags).run := by
  refine upkeep.attempt upkeep.ask fun target => upkeep.attempt upkeep.ask fun property => ?_
  exact Steady.choose (upkeep.write target property.default flags) (upkeep.fail _)

theorem assign (ref : PropertyRef) (value : Native) :
    Keeps outside relation (assign ref value).run := by
  refine upkeep.attempt upkeep.ask fun property =>
    Steady.choose ?_ (upkeep.write ref value .none)
  exact upkeep.perform (upkeep.discreet.place _) fun placed => upkeep.writeVar ref placed .none

theorem assignNamed (id : ObjectId) (name : String) (value : Native) :
    Keeps outside relation (assignNamed id name value).run :=
  upkeep.attempt upkeep.ask fun index => upkeep.assign ⟨id, index⟩ value

theorem assignMember (id : ObjectId) (name : String) (value : Value) :
    Keeps outside relation (Script.Evaluation.assignMember id name value).run := by
  refine upkeep.perform upkeep.seen fun graph => upkeep.attempt (upkeep.adapt _ upkeep.ask) ?_
  refine fun index => upkeep.attempt (upkeep.adapt _ upkeep.ask) fun property => ?_
  split
  · exact upkeep.adapt _ (upkeep.assign _ _)
  · exact upkeep.fail _

/-! ## Write-back -/

theorem writeUndefined (strategy : WriteStrategy) (ref : PropertyRef) (property : Property)
    (flags : WriteFlags) :
    Keeps outside relation (WriteBack.writeUndefined strategy ref property flags).run := by
  refine Steady.choose (upkeep.adapt _ (upkeep.reset ref flags)) ?_
  cases strategy with
  | variant => exact upkeep.adapt _ (upkeep.write ref _ flags)
  | script => exact upkeep.adapt _ (upkeep.write ref _ flags)
  | varSlot => exact upkeep.adapt _ (upkeep.writeVar ref _ flags)
  | _ => exact upkeep.perform (upkeep.bind upkeep.seen fun _ => upkeep.value _) fun _ =>
      upkeep.fail _

theorem writeValue (strategy : WriteStrategy) (ref : PropertyRef) (property : Property)
    (value : Value) (flags : WriteFlags) :
    Keeps outside relation (WriteBack.writeValue strategy ref property value flags).run := by
  have defined : Keeps outside relation (if strategy = .varSlot then
      WriteBack.access (Engine.writeVar ref value flags)
    else do
      let native ← WriteBack.convert fun graph =>
        strategy.native graph.context property.type value
      WriteBack.access (Engine.write ref native flags)).run := by
    refine Steady.choose (upkeep.adapt _ (upkeep.writeVar ref value flags)) ?_
    exact upkeep.attempt (upkeep.adapt _ upkeep.ask) fun native =>
      upkeep.adapt _ (upkeep.write ref native flags)
  unfold WriteBack.writeValue
  cases value with
  | undefined => exact upkeep.writeUndefined strategy ref property flags
  | function callee marked =>
      cases strategy.acceptsFunctions with
      | false => exact upkeep.fail _
      | true => exact defined
  | _ => exact defined

theorem writeProperty (strategy : WriteStrategy) (ref : PropertyRef) (property : Property)
    (result : Boxed) (flags : WriteFlags) :
    Keeps outside relation (WriteBack.writeProperty strategy ref property result flags).run := by
  cases result with
  | dynamic value => exact upkeep.writeValue strategy ref property value flags
  | native type value shared =>
      refine Steady.choose (upkeep.adapt _ (upkeep.write ref value flags)) ?_
      exact upkeep.perform (upkeep.discreet.place _) fun placed =>
        upkeep.writeValue strategy ref property placed flags

theorem writeField (ref : PropertyRef) (property : Property) (field : Nat) (result : Boxed)
    (flags : WriteFlags) :
    Keeps outside relation (WriteBack.writeField ref property field result flags).run := by
  refine upkeep.attempt (upkeep.discreet.fieldNumber _) fun number => ?_
  refine upkeep.attempt (upkeep.adapt _ upkeep.ask) fun current => ?_
  split
  · split
    · exact upkeep.adapt _ (upkeep.write ref _ flags)
    · exact upkeep.fail _
  · exact upkeep.perform upkeep.seen fun _ => upkeep.fail _

theorem writeBack (adapter : AdapterId) (target : BindingTarget) (result : Boxed)
    (flags : WriteFlags) :
    Keeps outside relation (WriteBack.write adapter target result flags).run := by
  refine upkeep.attempt (upkeep.adapt _ upkeep.ask) fun property => ?_
  cases target.field? with
  | some field => exact upkeep.writeField target.property property field result flags
  | none =>
      exact upkeep.perform (upkeep.discreet.chooseStrategy adapter property) fun strategy =>
        upkeep.writeProperty strategy target.property property result flags

theorem storeResult (id : BindingId) (binding : Binding) (result : Boxed) (flags : WriteFlags) :
    Keeps outside relation (storeResult id binding result flags).run := by
  refine upkeep.attempt (upkeep.adapt _ upkeep.ask) fun ref => ?_
  exact upkeep.perform (upkeep.found id) fun _ => upkeep.writeBack _ _ _ _

end Upkeep

/-! ## Changes of objects -/

/--
What has to be shown of a relation that does not look at what objects hold, so that
all operations that change objects keep it.
-/
structure Chores (outside : Outside σ) (relation : World σ → World σ → Prop) : Prop
    extends Groundwork outside relation where
  /-- A change of an object other than its writers. -/
  object : ∀ (world : World σ) id change,
    (∀ object : Object, (change object).writers = object.writers) →
    relation world { world with graph := world.graph.update id change }
  /-- What an explicit write does to the active writers. -/
  relieve : ∀ ref, Keeps outside relation (removeWriters ref)

namespace Chores

variable (chores : Chores outside relation)
include chores

theorem store (ref : PropertyRef) (signal : Nat) (cell : Cell) (unchanged : Cell → Bool)
    (flags : WriteFlags) : Keeps outside relation (store ref signal cell unchanged flags).run := by
  refine chores.perform chores.seen fun graph => Steady.choose ?_ (chores.fail _)
  refine chores.done (chores.bind (Steady.change fun world => ?_) fun _ => ?_)
  · exact chores.object world _ _ fun _ => rfl
  · exact Steady.branch (chores.outspoken.announce _) (chores.value ())

theorem intercepted (ref : PropertyRef) (value : Native) :
    Keeps outside relation (intercepted ref value).run := by
  refine chores.perform chores.seen fun graph => Steady.choose ?_ (chores.fail _)
  split
  · exact chores.succeed value
  · exact chores.done (chores.code.intercept _ _ _)

/-- What a write does when it does not keep the active writers, and otherwise leaves. -/
theorem relieving (ref : PropertyRef) {keep : Bool} {next : Attempt ε σ α}
    (rest : Keeps outside relation next.run) :
    Keeps outside relation (do
      if !keep then
        Attempt.perform (removeWriters ref)
      next).run :=
  Steady.choose (chores.perform (chores.relieve ref) fun _ => rest) rest

/-- What is done with a value that fits. -/
theorem storeFitting (ref : PropertyRef) (property : Property) (value : Native)
    (flags : WriteFlags) : Keeps outside relation (if flags.bypass then
      Engine.store ref property.signal (.native value) (fun cell => cell.holds value) flags
    else do
      let final ← Engine.intercepted ref value
      Engine.requireFit property final
      Engine.store ref property.signal (.native final) (fun cell => cell.holds final) flags).run := by
  refine Steady.choose (chores.store _ _ _ _ _) ?_
  refine chores.attempt (chores.intercepted ref value) fun final => ?_
  exact chores.attempt (chores.discreet.requireFit property final) fun _ => chores.store _ _ _ _ _

theorem storeNative (ref : PropertyRef) (property : Property) (value : Native)
    (flags : WriteFlags) : Keeps outside relation (storeNative ref property value flags).run :=
  chores.attempt (chores.discreet.requireFit property value) fun _ =>
    chores.relieving ref (chores.storeFitting ref property value flags)

theorem storeVar (ref : PropertyRef) (value : Value) (flags : WriteFlags) :
    Keeps outside relation (storeVar ref value flags).run := by
  refine chores.attempt chores.ask fun property => Steady.choose ?_ ?_
  · exact chores.relieving ref (chores.store _ _ _ _ _)
  · exact chores.perform chores.seen fun _ => chores.fail _

theorem writeVar (ref : PropertyRef) (value : Value) (flags : WriteFlags) :
    Keeps outside relation (writeVar ref value flags).run :=
  chores.attempt chores.ask fun target => chores.storeVar target value flags

theorem write (ref : PropertyRef) (value : Native) (flags : WriteFlags) :
    Keeps outside relation (write ref value flags).run := by
  refine chores.attempt chores.ask fun target => chores.attempt chores.ask fun property => ?_
  refine Steady.choose ?_ (chores.storeNative target property value flags)
  cases value with
  | script content => exact chores.storeVar target content flags
  | _ => exact chores.fail _

theorem setAlias (ref target : PropertyRef) : Keeps outside relation (setAlias ref target).run := by
  intro world
  refine .ask (fun changed pointed => ?_) fun _ _ => chores.refl world
  refine .done (.change (.value ?_))
  rw [ObjectGraph.eq_of_setAlias pointed]
  exact chores.object world _ _ fun _ => rfl

theorem installInterceptor (ref : PropertyRef) (id : HostId) :
    Keeps outside relation (installInterceptor ref id).run := by
  refine chores.attempt chores.ask fun target => chores.perform chores.seen fun graph => ?_
  refine Steady.choose (chores.done (Steady.change fun world => ?_)) (chores.fail _)
  exact chores.object world _ _ fun _ => rfl

theorem removeInterceptor (ref : PropertyRef) :
    Keeps outside relation (removeInterceptor ref) := by
  refine chores.bind chores.seen fun graph => ?_
  split
  · refine chores.bind (Steady.change fun world => ?_) fun _ => chores.value _
    exact chores.object world _ _ fun _ => rfl
  · exact chores.value false

theorem upkeep : Upkeep outside relation where
  toGroundwork := chores.toGroundwork
  write := chores.write
  writeVar := chores.writeVar
  setAlias := chores.setAlias
  installInterceptor := chores.installInterceptor
  removeInterceptor := chores.removeInterceptor

end Chores

end Engine

end PropertyBinding

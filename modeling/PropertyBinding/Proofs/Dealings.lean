import PropertyBinding.Proofs.Practice
import PropertyBinding.Proofs.Stretches

namespace PropertyBinding
namespace Engine

/-!
# Dealings with the engine

Foreign code deals with the engine: it uses what the engine offers, subscriptions and
the care of diagnostics included, it may look at everything and carry a state of its own
along, and it may have other foreign code run.  `Dealing` is all such code, and what comes
next in it may depend on every result before.

A law that is comprehensive is obeyed by all of it.  Among comprehensive laws are the
liberal ones, which do not look into bindings: only objects, channels and notifiers count,
so an update is to them the sum of what it does to these.
-/

variable {σ α β ε : Type}

/-- Whether a later world differs in nothing but diagnostics and warnings. -/
structure Filed (world later : World σ) : Prop where
  graph : later.graph = world.graph
  holders : later.graphHolders = world.graphHolders
  channels : later.channels = world.channels
  notifiers : later.notifiers = world.notifiers
  bindings : later.bindings = world.bindings
  collector : later.collector? = world.collector?

/-- Code that deals with the engine by what the engine offers. -/
inductive Dealing : {α : Type} → Engine σ α → Prop
  | value {α : Type} (result : α) : Dealing (pure result)
  | sequence {α β : Type} {operation : Engine σ α} {next : α → Engine σ β}
      (first : Dealing operation) (second : ∀ result, Dealing (next result)) :
      Dealing (operation >>= next)
  | get : Dealing get
  /-- The code changes its own state, or makes names for new values. -/
  | apart (change : World σ → World σ) (same : ∀ world : World σ, Apart world (change world)) :
      Dealing (modify change)
  | ask (query : Query) : Dealing (foreign query.step)
  | offered {α : Type} {operation : Engine σ α} (offered : Offered operation) : Dealing operation
  | administered {α : Type} {operation : Engine σ α} (administered : Administered operation) :
      Dealing operation
  | subscribe (source : Source) (host : HostId) : Dealing (subscribe source (.host host))
  | unsubscribe (id : SubscriptionId) : Dealing (unsubscribe id)
  | suspended {α : Type} {operation : Engine σ α} (inner : Dealing operation) :
      Dealing (withCollector none operation)
  | recorded {α : Type} {operation : Engine σ α} (inner : Dealing operation) :
      Dealing (recording operation)

/-! ## Comprehensive laws -/

/-- A law that is obeyed by everything of which dealings are made. -/
structure Comprehensive (law : {α : Type} → Engine σ α → Prop) : Prop extends Obliging law where
  file : ∀ change : World σ → World σ, (∀ world : World σ, Filed world (change world)) →
    law (modify change)
  /-- Only the engine itself has a binding told of reads. -/
  scope : ∀ {α : Type} (collector? : Option Collector) {operation : Engine σ α},
    (∀ id, collector? ≠ some (.binding id)) → law operation →
      law (withCollector collector? operation)
  subscribe : ∀ source host, law (subscribe source (.host host))
  unsubscribe : ∀ id, law (unsubscribe id)

namespace Sequential

variable {law : {α : Type} → Engine σ α → Prop}

section Filing

variable (sequential : Sequential law)
  (file : ∀ change : World σ → World σ, (∀ world : World σ, Filed world (change world)) →
    law (modify change))
include sequential file

theorem onEvidence (id : DiagnosticsId) (step : EvidenceLog.Step) :
    law (onEvidence id step : Attempt LogError σ Unit).run := by
  refine sequential.bind sequential.get fun world => ?_
  cases (world.diagnostics[id]?).bind (·.log?) with
  | none => exact sequential.value (Except.ok ())
  | some log =>
      exact sequential.bind (file _ fun _ => ⟨rfl, rfl, rfl, rfl, rfl, rfl⟩) fun _ =>
        sequential.value _

theorem report (visit : ∀ query : Query, law (foreign query.step)) (id : DiagnosticsId)
    (failure : Failure) : law (report id failure) := by
  refine sequential.bind (file _ fun _ => ⟨rfl, rfl, rfl, rfl, rfl, rfl⟩) fun _ =>
    sequential.bind ?_ fun _ => sequential.bind sequential.get fun world => ?_
  · refine sequential.bind (sequential.onEvidence file _ _) fun outcome => ?_
    cases outcome with
    | ok _ => exact sequential.value ()
    | error error => exact file _ fun _ => ⟨rfl, rfl, rfl, rfl, rfl, rfl⟩
  · cases world.diagnostics[id]? with
    | none => exact sequential.value ()
    | some diagnostics =>
        refine sequential.bind (file _ fun _ => ⟨rfl, rfl, rfl, rfl, rfl, rfl⟩) fun _ => ?_
        cases diagnostics.handler? with
        | none => exact sequential.value ()
        | some handler => exact visit (.handle handler failure)

end Filing

end Sequential

namespace Comprehensive

variable {law : {α : Type} → Engine σ α → Prop} (comprehensive : Comprehensive law)
include comprehensive

theorem administered {operation : Engine σ α} (administered : Administered operation) :
    law operation := by
  have createDiagnostics : ∀ diagnostics, law (createDiagnostics diagnostics) := fun _ =>
    comprehensive.bind comprehensive.get fun _ =>
      comprehensive.bind (comprehensive.file _ fun _ => ⟨rfl, rfl, rfl, rfl, rfl, rfl⟩) fun _ =>
        comprehensive.value _
  cases administered with
  | report id failure =>
      exact comprehensive.toSequential.report comprehensive.file comprehensive.visit id failure
  | takeFailures id =>
      refine comprehensive.bind comprehensive.get fun world => ?_
      cases world.diagnostics[id]? with
      | none => exact comprehensive.value []
      | some diagnostics =>
          exact comprehensive.bind (comprehensive.file _ fun _ => ⟨rfl, rfl, rfl, rfl, rfl, rfl⟩)
            fun _ => comprehensive.value _
  | setCapacity id capacity => exact comprehensive.file _ fun _ => ⟨rfl, rfl, rfl, rfl, rfl, rfl⟩
  | setHandler id handler? => exact comprehensive.file _ fun _ => ⟨rfl, rfl, rfl, rfl, rfl, rfl⟩
  | flushEvidence id => exact comprehensive.toSequential.onEvidence comprehensive.file _ _
  | createContext config scope =>
      exact comprehensive.bind (createDiagnostics _) fun _ => comprehensive.value _
  | createContextWith config scope fresh =>
      exact comprehensive.bind (createDiagnostics _) fun _ => comprehensive.value _

/-- All code that deals with the engine obeys a comprehensive law. -/
theorem dealing {operation : Engine σ α} (dealing : Dealing operation) : law operation := by
  induction dealing with
  | value result => exact comprehensive.value result
  | sequence _ _ first second => exact comprehensive.bind first second
  | get => exact comprehensive.get
  | apart change same => exact comprehensive.apart change same
  | ask query => exact comprehensive.visit query
  | offered offered => exact comprehensive.offered offered
  | administered administered => exact comprehensive.administered administered
  | subscribe source host => exact comprehensive.subscribe source host
  | unsubscribe id => exact comprehensive.unsubscribe id
  | suspended _ inner => exact comprehensive.scope none nofun inner
  | recorded _ inner =>
      refine comprehensive.scope _ nofun (comprehensive.bind inner fun result => ?_)
      refine comprehensive.bind comprehensive.get fun world => ?_
      split <;> exact comprehensive.value _

theorem followChange (id : BindingId) : law (followChange id : Engine σ Unit) :=
  comprehensive.bind comprehensive.get fun _ =>
    Sequential.branch (comprehensive.update id .none) (comprehensive.value ())

/-- The answers of a host obey a comprehensive law if its code deals with the engine. -/
theorem answer {host : Host σ} (obeys : host.Obeys Dealing) (query : Query) :
    law (query.answer host) := by
  cases query with
  | call callee context =>
      exact comprehensive.callFunction (obeys.weaken comprehensive.dealing)
        (fun _ _ => comprehensive.visit (.call _ _)) callee context
  | intercept id object value => exact comprehensive.dealing (obeys.intercept id object value)
  | announce callback =>
      cases callback with
      | binding id => exact comprehensive.followChange id
      | host id => exact comprehensive.dealing (obeys.announce id)
  | handle id failure => exact comprehensive.dealing (obeys.handle id failure)
  | retire id => exact comprehensive.dealing (obeys.retire id)

end Comprehensive

/-! ## Liberal laws -/

/-- Whether a later world has the same objects, channels and notifiers, and retires nobody. -/
structure Unmoved (world later : World σ) : Prop where
  graph : later.graph = world.graph
  channels : later.channels = world.channels
  notifiers : later.notifiers = world.notifiers
  retired : ∀ id, later.isRetired id = true → world.isRetired id = true

theorem isRetired_iff {world : World σ} {id : BindingId} :
    world.isRetired id = true ↔
      ∃ binding, world.bindings[id]? = some binding ∧ binding.retired = true := by
  unfold World.isRetired
  cases world.bindings[id]? <;> simp

namespace Unmoved

variable {world later : World σ}

theorem of_bindings (graph : later.graph = world.graph)
    (channels : later.channels = world.channels) (notifiers : later.notifiers = world.notifiers)
    (bindings : later.bindings = world.bindings) : Unmoved world later where
  graph := graph
  channels := channels
  notifiers := notifiers
  retired id gone := by rwa [World.isRetired, bindings] at gone

/-- A binding may change in all but whether it is retired. -/
theorem of_modify (world : World σ) (id : BindingId) {change : Binding → Binding}
    (kept : ∀ binding : Binding, (change binding).retired = binding.retired) :
    Unmoved world { world with bindings := world.bindings.modify id change } where
  graph := rfl
  channels := rfl
  notifiers := rfl
  retired other gone := by
    rcases isRetired_iff.mp gone with ⟨binding, found, marked⟩
    rcases found_modify found with ⟨former, present, rfl⟩
    refine isRetired_iff.mpr ⟨former, present, ?_⟩
    split at marked
    · exact (kept former).symm.trans marked
    · exact marked

theorem of_append (world : World σ) {binding : Binding} (fresh : binding.retired = false) :
    Unmoved world { world with bindings := world.bindings ++ [binding] } where
  graph := rfl
  channels := rfl
  notifiers := rfl
  retired id gone := by
    rcases isRetired_iff.mp gone with ⟨other, found, marked⟩
    rw [List.getElem?_append] at found
    split at found
    · exact isRetired_iff.mpr ⟨other, found, marked⟩
    · rw [List.mem_singleton.mp (List.mem_of_getElem? found), fresh] at marked
      cases marked

end Unmoved

/-- A law that is about objects, channels and notifiers alone. -/
structure Liberal (law : {α : Type} → Engine σ α → Prop) : Prop extends Sequential law where
  unmoved : ∀ change : World σ → World σ, (∀ world : World σ, Unmoved world (change world)) →
    law (modify change)
  visit : ∀ query : Query, law (foreign query.step)
  /-- An object changes in all but its writers. -/
  arrange : ∀ id change, (∀ object : Object, (change object).writers = object.writers) →
    law (modifyGraph fun graph => graph.update id change)
  create : ∀ classId name?, law (create classId name?)
  destroy : ∀ id, law (destroy id)
  /-- The object graph goes with all its objects. -/
  vanish : law (modify fun world : World σ =>
    { world with
      graph := .empty world.graph.schema
      channels := world.channels.removeProperties })
  setAlias : ∀ ref target, law (setAlias ref target : Attempt PropertyError σ Unit).run
  relieve : ∀ ref flags, law (relieve ref flags)
  attach : ∀ id slot writer, law (attach id slot writer : Attempt PropertyError σ Unit).run
  detach : ∀ id slot, law (detach id slot)
  subscribe : ∀ source callback, law (subscribe source callback)
  giveUp : ∀ ids, law (modifyChannels fun channels => channels.releaseAll ids)
  announce : ∀ source, law (announce source)
  createNotifier : ∀ label value, law (createNotifier label value)
  assignNotifier : ∀ id value, law (assignNotifier id value)

namespace Liberal

variable {law : {α : Type} → Engine σ α → Prop} (liberal : Liberal law)
include liberal

/-! ### Reads -/

theorem tend (id : BindingId) {change : Binding → Binding}
    (kept : ∀ binding : Binding, (change binding).retired = binding.retired) :
    law (modifyBinding id change) :=
  liberal.unmoved _ fun world => .of_modify world id kept

theorem capture (source : Source) : law (capture source) := by
  refine liberal.bind liberal.get fun world => ?_
  cases world.collector? with
  | none => exact liberal.value ()
  | some collector =>
      cases collector with
      | recorder reads => exact liberal.unmoved _ fun _ => .of_bindings rfl rfl rfl rfl
      | binding id =>
          refine liberal.bind (liberal.found id) fun found => ?_
          cases found with
          | none => exact liberal.value ()
          | some binding =>
              refine Sequential.branch (liberal.value ()) ?_
              exact liberal.bind (liberal.subscribe source _) fun _ => liberal.tend id fun _ => rfl

theorem read (ref : PropertyRef) : law (read ref : Attempt PropertyError σ Native).run := by
  refine liberal.attempt liberal.question fun target => ?_
  refine liberal.attempt liberal.question fun property => ?_
  exact liberal.perform (liberal.capture _) fun _ => liberal.question

theorem readNotifier (id : NotifierId) : law (readNotifier id) :=
  liberal.bind (liberal.capture _) fun _ => liberal.bind liberal.get fun _ => liberal.value _

theorem scope (collector? : Option Collector) {operation : Engine σ α} (inner : law operation) :
    law (withCollector collector? operation) := by
  refine liberal.bind liberal.get fun world => ?_
  refine liberal.bind (liberal.unmoved _ fun _ => .of_bindings rfl rfl rfl rfl) fun _ => ?_
  refine liberal.bind inner fun result => ?_
  exact liberal.bind (liberal.unmoved _ fun _ => .of_bindings rfl rfl rfl rfl) fun _ => liberal.value result

/-! ### Edges -/

theorem clearReads (id : BindingId) : law (clearReads id) := by
  refine liberal.bind (liberal.found id) fun found => ?_
  cases found with
  | none => exact liberal.value ()
  | some binding => exact liberal.bind (liberal.tend id fun _ => rfl) fun _ => liberal.giveUp _

theorem settle (id : BindingId) : law (settle id) :=
  liberal.bind liberal.get fun _ => Sequential.branch (liberal.clearReads id) (liberal.value ())

theorem unsubscribe (id : SubscriptionId) : law (unsubscribe id) :=
  liberal.bind liberal.get fun _ => Sequential.branch (liberal.giveUp [id]) (liberal.value ())

theorem store (ref : PropertyRef) (signal : Nat) (cell : Cell) (unchanged : Cell → Bool)
    (flags : WriteFlags) :
    law (store ref signal cell unchanged flags : Attempt PropertyError σ Unit).run := by
  refine liberal.perform liberal.seen fun graph => Sequential.choose ?_ (liberal.fail _)
  refine liberal.done (liberal.bind (liberal.arrange _ _ fun _ => rfl) fun _ => ?_)
  exact Sequential.branch (liberal.announce _) (liberal.value ())

/-- A liberal law is obeyed by everything that operations are made of. -/
theorem furnished : Furnished law where
  toSequential := liberal.toSequential
  apart change same := liberal.unmoved change fun world =>
    .of_bindings (same world).graph (same world).channels (same world).notifiers
      (same world).bindings
  dress id change dressed := liberal.arrange id change fun object => by
    rcases dressed object with ⟨_, same⟩
    rw [same]
  touch id change touched := liberal.tend id fun binding => by
    rcases touched binding with ⟨_, _, _, same⟩
    rw [same]
  append _ fresh := liberal.unmoved _ fun world => .of_append world fresh.retired
  relieve := liberal.relieve
  attach := liberal.attach
  detach := liberal.detach
  store := liberal.store
  settle := liberal.settle
  read := liberal.read
  readNotifier := liberal.readNotifier
  announce := liberal.announce
  createNotifier := liberal.createNotifier
  assignNotifier := liberal.assignNotifier
  ask query _ := liberal.visit query

/-! ### Updates -/

theorem file (change : World σ → World σ) (same : ∀ world : World σ, Filed world (change world)) :
    law (modify change) :=
  liberal.unmoved change fun world =>
    .of_bindings (same world).graph (same world).channels (same world).notifiers
      (same world).bindings

theorem report (id : DiagnosticsId) (failure : Failure) : law (report id failure) :=
  liberal.toSequential.report liberal.file liberal.visit id failure

theorem recordFailure (id : BindingId) (failure : Failure) : law (recordFailure id failure) :=
  liberal.furnished.recordFailure (fun _ _ => liberal.tend id fun _ => rfl) liberal.report failure

theorem reportPending (id : BindingId) : law (reportPending id) := by
  refine liberal.bind (liberal.found id) fun found => ?_
  cases found with
  | none => exact liberal.value false
  | some binding =>
      dsimp only
      cases binding.unreported? with
      | none => exact liberal.value false
      | some failure =>
          exact liberal.bind (liberal.tend id fun _ => rfl) fun _ =>
            liberal.bind (liberal.report _ _) fun _ => liberal.value true

theorem finishUpdate (id : BindingId) (binding : Binding) (result : Except Failure Boxed)
    (flags : WriteFlags) : law (finishUpdate id binding result flags : Engine σ Unit) :=
  liberal.furnished.finishUpdate (liberal.recordFailure id)
    (fun value => liberal.furnished.storeResult id binding value flags)
    (liberal.tend id fun _ => rfl) result

theorem runUpdate (id : BindingId) (binding : Binding) (flags : WriteFlags) :
    law (runUpdate id binding flags : Engine σ Unit) := by
  have ending : law (do
      modifyBinding id fun binding => { binding with updating := false }
      Engine.settle id) :=
    liberal.bind (liberal.tend id fun _ => rfl) fun _ => liberal.settle id
  refine liberal.bind (liberal.tend id fun _ => rfl) fun _ => liberal.bind (liberal.clearReads id) fun _ => ?_
  refine liberal.bind (liberal.furnished.evaluateBinding fun callee context =>
    liberal.scope _ (liberal.visit (.call callee context))) fun result => ?_
  refine liberal.bind (liberal.tend id fun _ => rfl) fun _ => liberal.bind liberal.seen fun graph => ?_
  exact Sequential.branch
    (liberal.bind (liberal.finishUpdate id binding result flags) fun _ => ending) ending

theorem settleAll (ids : List BindingId) : law (settleAll ids) := by
  induction ids with
  | nil => exact liberal.value ()
  | cons id rest step => exact liberal.bind (liberal.settle id) fun _ => step

theorem releaseGraph : law releaseGraph := by
  refine liberal.bind (liberal.unmoved _ fun _ => .of_bindings rfl rfl rfl rfl) fun _ => ?_
  refine liberal.bind liberal.get fun world => Sequential.branch ?_ (liberal.value ())
  exact liberal.bind liberal.vanish fun _ => liberal.bind liberal.get fun _ => liberal.settleAll _

theorem update (id : BindingId) (flags : WriteFlags) : law (update id flags : Engine σ Unit) := by
  refine liberal.bind (liberal.found id) fun found => ?_
  cases found with
  | none => exact liberal.value ()
  | some binding =>
      refine liberal.bind liberal.get fun world => Sequential.branch (liberal.value ()) ?_
      refine liberal.bind liberal.seen fun graph => Sequential.branch (liberal.value ()) ?_
      refine liberal.bind (liberal.unmoved _ fun _ => .of_bindings rfl rfl rfl rfl) fun _ => ?_
      refine liberal.bind (Sequential.branch ?_ (liberal.runUpdate id binding flags)) fun result =>
        liberal.bind liberal.releaseGraph fun _ => liberal.value result
      exact Sequential.branch (liberal.bind liberal.seen fun _ => liberal.report _ _)
        (liberal.value ())

theorem setEnabled (id : BindingId) (enabled : Bool) (flags? : Option WriteFlags) :
    law (setEnabled id enabled flags? : Engine σ Unit) := by
  refine liberal.bind (liberal.found id) fun found => ?_
  cases found with
  | none => exact liberal.value ()
  | some binding =>
      refine Sequential.branch (liberal.value ()) (liberal.bind (liberal.tend id fun _ => rfl) fun _ => ?_)
      refine liberal.bind (liberal.furnished.refreshFastPath id) fun _ => ?_
      cases flags? with
      | none => exact liberal.value ()
      | some flags => exact Sequential.branch (liberal.update id flags) (liberal.value ())

/-- A liberal law is comprehensive. -/
theorem comprehensive : Comprehensive law where
  toFurnished := liberal.furnished
  visit := liberal.visit
  file := liberal.file
  scope collector? _ _ inner := liberal.scope collector? inner
  subscribe source host := liberal.subscribe source (.host host)
  unsubscribe := liberal.unsubscribe
  create := liberal.create
  destroy := liberal.destroy
  setAlias := liberal.setAlias
  retainGraph := liberal.unmoved _ fun _ => .of_bindings rfl rfl rfl rfl
  releaseGraph := liberal.releaseGraph
  update := liberal.update
  setEnabled := liberal.setEnabled
  reportPending := liberal.reportPending

end Liberal

end Engine

end PropertyBinding

import PropertyBinding.Proofs.Kinship
import PropertyBinding.Proofs.Onward
import PropertyBinding.Proofs.Tracing

namespace PropertyBinding

/-!
# Stretches of an update

An update is at the mercy of foreign code at a few points only: when it calls the
function of its binding, when an interceptor is asked about the value that it is
about to store, and when subscribers and handlers are told.  Between two of these
points nobody else does anything.  So what an update itself does is what its
stretches do.

`Occasion.Account` says of the trace of an update as far as it has come what its
stretches may do.  It lasts over changes that nobody is told of, over visits to
foreign code, and over the one store that an update makes.
-/

/-- Whether a property is described and is no alias. -/
def ObjectGraph.IsDirect (graph : ObjectGraph) (ref : PropertyRef) : Prop :=
  ∃ property, graph.property ref = .ok property ∧ property.isAlias = false

/-- What is known of a binding, apart from its dependencies and the update that it may be in. -/
def Binding.standing (binding : Binding) : BindingTarget × Bool × Bool × Option PendingFailure :=
  (binding.target, binding.enabled, binding.retired, binding.pending?)

/-- A view of bindings that a change of one of them does not show in. -/
theorem Binding.map_modify {view : Type} {look : Binding → view} {change : Binding → Binding}
    (bindings : List Binding) (id other : BindingId)
    (same : ∀ binding, look (change binding) = look binding) :
    ((bindings.modify id change)[other]?).map look = (bindings[other]?).map look := by
  rw [List.getElem?_modify]
  cases bindings[other]? with
  | none => rfl
  | some binding =>
      show some (look (if id = other then change binding else binding)) = _
      split
      · exact congrArg some (same binding)
      · rfl

namespace World

variable {σ : Type} {world middle later : World σ}

/-- Whether a binding is retired. -/
def isRetired (world : World σ) (id : BindingId) : Bool :=
  ((world.bindings[id]?).map (·.retired)).getD false

/-- The latest failure of a binding. -/
def error? (world : World σ) (id : BindingId) : Option Failure :=
  (world.bindings[id]?).bind (·.error?)

/-- Whether all cells are in a later world what they were, unless the graph is gone there. -/
def Untouched (world later : World σ) : Prop :=
  later.graph = world.graph ∨
    later.hasGraph = false ∧ later.graph = .empty world.graph.schema

/-- Whether nothing is stored, announced or reported between two worlds. -/
structure Silent (world later : World σ) : Prop where
  untouched : world.Untouched later
  subscribers : (∀ source,
    later.channels.subscribersOf source = world.channels.subscribersOf source) ∨
      later.hasGraph = false
  notifiers : later.notifiers = world.notifiers
  diagnostics : later.diagnostics = world.diagnostics
  warnings : later.warnings = world.warnings
  standing : ∀ id : BindingId,
    (later.bindings[id]?).map Binding.standing = (world.bindings[id]?).map Binding.standing

/-- An object that is alive in an untouched world was alive before. -/
theorem Untouched.alive (untouched : world.Untouched later) {id : ObjectId}
    (alive : later.graph.isAlive id = true) : world.graph.isAlive id = true := by
  rcases untouched with same | ⟨_, gone⟩
  · rwa [same] at alive
  · rw [gone] at alive
    simp [ObjectGraph.isAlive, ObjectGraph.object?, ObjectGraph.empty] at alive

/-- A graph with a living object is not gone. -/
theorem Untouched.same (untouched : world.Untouched later) {id : ObjectId}
    (alive : later.graph.isAlive id = true) : later.graph = world.graph := by
  rcases untouched with same | ⟨_, gone⟩
  · exact same
  · rw [gone] at alive
    simp [ObjectGraph.isAlive, ObjectGraph.object?, ObjectGraph.empty] at alive

/-- Cells stay what they are from world to world, if a graph that is gone does not come back. -/
theorem Untouched.trans (first : world.Untouched middle) (second : middle.Untouched later)
    (gone : middle.hasGraph = false → later.hasGraph = false) : world.Untouched later := by
  rcases first with same | ⟨without, empty⟩
  · rw [Untouched, ← same]
    exact second
  · refine .inr ⟨gone without, ?_⟩
    rcases second with same | ⟨_, empty'⟩
    · exact same.trans empty
    · rw [empty', empty]
      rfl

namespace Silent

theorem refl (world : World σ) : world.Silent world :=
  ⟨.inl rfl, .inl fun _ => rfl, rfl, rfl, rfl, fun _ => rfl⟩

/-- A change of what is not known of bindings. -/
theorem ofBindings (graph : later.graph = world.graph) (channels : later.channels = world.channels)
    (notifiers : later.notifiers = world.notifiers)
    (diagnostics : later.diagnostics = world.diagnostics)
    (warnings : later.warnings = world.warnings)
    (standing : ∀ id : BindingId,
      (later.bindings[id]?).map Binding.standing = (world.bindings[id]?).map Binding.standing) :
    world.Silent later :=
  ⟨.inl graph, .inl fun _ => congrArg (Channels.subscribersOf · _) channels, notifiers,
    diagnostics, warnings, standing⟩

theorem isRetired (silent : world.Silent later) (id : BindingId) :
    later.isRetired id = world.isRetired id := by
  have same := congrArg (Option.map (·.2.2.1)) (silent.standing id)
  simp only [Option.map_map] at same
  exact congrArg (Option.getD · false) same

theorem error? (silent : world.Silent later) (id : BindingId) :
    later.error? id = world.error? id := by
  have same := congrArg (Option.bind · fun standing => standing.2.2.2.map (·.failure))
    (silent.standing id)
  simp only [Option.bind_map] at same
  exact same

theorem trans (first : world.Silent middle) (second : middle.Silent later)
    (gone : middle.hasGraph = false → later.hasGraph = false) : world.Silent later where
  untouched := first.untouched.trans second.untouched gone
  subscribers := by
    rcases first.subscribers with same | without
    · refine second.subscribers.imp_left fun same' source => ?_
      exact (same' source).trans (same source)
    · exact .inr (gone without)
  notifiers := second.notifiers.trans first.notifiers
  diagnostics := second.diagnostics.trans first.diagnostics
  warnings := second.warnings.trans first.warnings
  standing id := (second.standing id).trans (first.standing id)

end Silent

end World

/-! ## Traces that hang together -/

/-- Whether foreign code, asked in a world, can leave another behind. -/
def Outside.Answers {σ : Type} (outside : Outside σ) (world : World σ) (after : World σ) :
    Query → Prop
  | .call callee context => ∃ result, outside.call callee context world = some (result, after)
  | .intercept id object value => ∃ result, outside.intercept id object value world = some (result, after)
  | .announce callback => outside.announce callback world = some ((), after)
  | .handle id failure => outside.handle id failure world = some ((), after)
  | .retire id => outside.retire id world = some ((), after)

theorem Outside.Keeps.answers {σ : Type} {outside : Outside σ} {relation : World σ → World σ → Prop}
    (code : outside.Keeps relation) {query : Query} {world after : World σ}
    (answers : outside.Answers world after query) : relation world after := by
  cases query with
  | call callee context =>
      rcases answers with ⟨result, run⟩
      exact code.call callee context world result after run
  | intercept id object value =>
      rcases answers with ⟨result, run⟩
      exact code.intercept id object value world result after run
  | announce callback => exact code.announce callback world () after answers
  | handle id failure => exact code.handle id failure world () after answers
  | retire id => exact code.retire id world () after answers

/-- Whether a trace can have come about under some foreign code in a run from a world. -/
inductive Trace.Linked {σ : Type} (outside : Outside σ) (origin : World σ) : Trace σ → Prop
  | start : Linked outside origin (.empty origin)
  | visit {trace : Trace σ} {query : Query} {stop after : World σ}
      (earlier : Linked outside origin trace) (answers : outside.Answers stop after query) :
      Linked outside origin ⟨trace.stretches stop, some ⟨query, stop⟩, after⟩

/-! ## What stretches may do -/

namespace Stretch

variable {σ : Type}

/-- Whether a stretch leaves all cells as they are. -/
def Untouched (stretch : Stretch σ) : Prop :=
  stretch.start.Untouched stretch.stop

/--
Whether a stretch of an update may store in a property.  It may after the call, if
the binding is not retired by then, and after an interceptor, on the object that
the interceptor was asked about.
-/
def Admits (stretch : Stretch σ) (id : BindingId) (ref : PropertyRef) : Prop :=
  match stretch.visit?.map Visit.query with
  | some (.call _ _) => stretch.start.isRetired id = false
  | some (.intercept _ object _) => ref.object = object
  | _ => False

/-- Whether a stretch of an update does not retire the binding and stores only what it may. -/
structure Sound (stretch : Stretch σ) (id : BindingId) : Prop where
  retired : stretch.stop.isRetired id = stretch.start.isRetired id
  stores : stretch.Untouched ∨
    ∃ ref cell, stretch.Admits id ref ∧ stretch.stop.graph = stretch.start.graph.setCell ref cell

/-- A stretch that begins with the binding retired stores where an interceptor was asked, if at all. -/
theorem Sound.intercepted {stretch : Stretch σ} {id : BindingId} (sound : stretch.Sound id)
    (retired : stretch.start.isRetired id = true) :
    stretch.Untouched ∨ ∃ interceptor object value index cell,
      stretch.visit?.map Visit.query = some (.intercept interceptor object value) ∧
      stretch.stop.graph = stretch.start.graph.setCell ⟨object, index⟩ cell := by
  refine sound.stores.imp_right ?_
  rintro ⟨ref, cell, admits, stored⟩
  unfold Admits at admits
  split at admits
  · rw [retired] at admits
    cases admits
  · next interceptor object value visited =>
    subst admits
    exact ⟨interceptor, ref.object, value, ref.index, cell, visited, stored⟩
  · cases admits

end Stretch

/-- A retired binding stays retired. -/
theorem World.Onward.isRetired {σ : Type} {world later : World σ}
    (onward : world.Onward none later) {id : BindingId} (retired : world.isRetired id = true) :
    later.isRetired id = true := by
  unfold World.isRetired at retired
  cases found : world.bindings[id]? with
  | none => simp [found] at retired
  | some binding =>
      rcases onward.bindings id binding found with ⟨last, found', step⟩
      rw [found] at retired
      rw [World.isRetired, found']
      exact step.retired retired

/-- A binding that is retired when a stretch begins is retired when any later one does. -/
theorem Trace.Linked.retired {σ : Type} {outside : Outside σ} {origin : World σ} {trace : Trace σ}
    (linked : trace.Linked outside origin) (code : outside.Keeps (World.Onward none))
    {id : BindingId} (sound : ∀ stretch ∈ trace.past, stretch.Sound id) (stop : World σ) :
    (trace.stretches stop).Pairwise fun former latter =>
      former.start.isRetired id = true → latter.start.isRetired id = true := by
  induction linked generalizing stop with
  | start => exact List.pairwise_singleton _ _
  | @visit trace query middle after earlier answers step =>
      have before := step (fun stretch member => sound stretch (List.mem_append_left _ member)) middle
      have last := sound (trace.present middle) (List.mem_append_right _ (List.mem_singleton_self _))
      refine List.pairwise_append.mpr ⟨before, List.pairwise_singleton _ _, ?_⟩
      intro stretch member next same retired
      cases List.mem_singleton.mp same
      have begun : trace.start.isRetired id = true := by
        rcases Trace.mem_stretches.mp member with listed | rfl
        · exact (List.pairwise_append.mp before).2.2 stretch listed _ (List.mem_singleton_self _) retired
        · exact retired
      exact (code.answers answers).isRetired (last.retired.trans begun)

/-- Whether a visit decides on what is going to be stored in a target: the call, or the interceptor of the target. -/
def Visit.Concerns {σ : Type} (visit : Visit σ) (target : PropertyRef) : Prop :=
  match visit.query with
  | .call _ _ => True
  | .intercept _ _ _ => visit.world.graph.IsDirect target
  | _ => False

/-- Whether a visit that decides on what is going to be stored left the target dead. -/
def Stretch.Fatal {σ : Type} (stretch : Stretch σ) (target : BindingTarget) : Prop :=
  stretch.start.graph.isAlive target.object = false ∧
    ∃ visit, stretch.visit? = some visit ∧ visit.Concerns target.property

/-! ## Accounts -/

/-- An update: of which binding, from which world, and under which foreign code. -/
structure Occasion (σ : Type) where
  outside : Outside σ
  id : BindingId
  /-- The binding as the update finds it. -/
  former : Binding
  origin : World σ

namespace Occasion

variable {σ : Type}

/-- What the binding writes. -/
def target (occasion : Occasion σ) : BindingTarget :=
  occasion.former.target

/-- What the trace of an update looks like. -/
structure Record (occasion : Occasion σ) (world : World (σ × Trace σ)) : Prop where
  linked : world.trace.Linked occasion.outside occasion.origin
  sound : ∀ stretch ∈ world.trace.past, stretch.Sound occasion.id
  apart : world.trace.past.Pairwise fun former latter => former.Untouched ∨ latter.Untouched
  passed : ∀ stretch ∈ world.trace.past, ¬stretch.Fatal occasion.target
  present : world.present.Sound occasion.id
  single : ∀ stretch ∈ world.trace.past, stretch.Untouched ∨ world.present.Untouched
  silent : world.present.Fatal occasion.target →
    world.trace.start.Silent world.untraced ∧
      world.trace.start.error? occasion.id = occasion.former.error?

/-- What the trace of an update looks like while the update goes on. -/
structure Account (occasion : Occasion σ) (world : World (σ × Trace σ)) : Prop
    extends occasion.Record world where
  marked : ∃ binding, world.bindings[occasion.id]? = some binding ∧ binding.updating = true

/-- Whether an update goes on and has stored and noted nothing so far. -/
structure Fresh (occasion : Occasion σ) (world : World (σ × Trace σ)) : Prop
    extends occasion.Account world where
  before : ∀ stretch ∈ world.trace.past, stretch.Untouched
  still : world.present.Untouched
  failure : world.untraced.error? occasion.id = occasion.former.error?

variable {occasion : Occasion σ} {world later : World (σ × Trace σ)}

/-! ## Changes -/

/-- A change that stores nothing, and of which nobody is told after a fatal visit. -/
theorem Record.step (record : occasion.Record world) (host : later.host = world.host)
    (untouched : world.untraced.Untouched later.untraced)
    (gone : world.hasGraph = false → later.hasGraph = false)
    (retired : later.untraced.isRetired occasion.id = world.untraced.isRetired occasion.id)
    (silent : world.present.Fatal occasion.target → world.untraced.Silent later.untraced) :
    occasion.Record later := by
  have same : later.trace = world.trace := congrArg Prod.snd host
  have present : later.present = world.trace.present later.untraced := by
    unfold World.present
    rw [same]
  have kept : world.present.Untouched → (world.trace.present later.untraced).Untouched :=
    fun before => before.trans untouched gone
  constructor
  · rw [same]
    exact record.linked
  · rw [same]
    exact record.sound
  · rw [same]
    exact record.apart
  · rw [same]
    exact record.passed
  · rw [present]
    refine ⟨retired.trans record.present.retired, ?_⟩
    rcases record.present.stores with before | ⟨ref, cell, admits, stored⟩
    · exact .inl (kept before)
    · rcases untouched with still | ⟨without, empty⟩
      · exact .inr ⟨ref, cell, admits, still.trans stored⟩
      · refine .inl (.inr ⟨without, empty.trans ?_⟩)
        rw [show world.untraced.graph = _ from stored, ObjectGraph.schema_setCell]
        rfl
  · rw [same, present]
    exact fun stretch member => (record.single stretch member).imp_right kept
  · rw [same, present]
    intro fatal
    rcases record.silent fatal with ⟨before, failure⟩
    exact ⟨before.trans (silent fatal) gone, failure⟩

/-- A fatal visit leaves nothing to do. -/
theorem Record.dead (record : occasion.Record world)
    (fatal : world.present.Fatal occasion.target) :
    world.graph.isAlive occasion.target.object = false := by
  cases alive : world.graph.isAlive occasion.target.object with
  | false => rfl
  | true =>
      have before := (record.silent fatal).1.untouched.alive alive
      rw [show world.trace.start.graph.isAlive _ = false from fatal.1] at before
      cases before

/-- The one store of an update. -/
theorem Fresh.store (fresh : occasion.Fresh world) {ref : PropertyRef}
    (alive : world.graph.isAlive ref.object = true) (admits : world.present.Admits occasion.id ref)
    (spared : ¬world.present.Fatal occasion.target) (cell : Cell) :
    occasion.Account { world with graph := world.graph.setCell ref cell } where
  linked := fresh.linked
  sound := fresh.sound
  apart := fresh.apart
  passed := fresh.passed
  present := by
    refine ⟨fresh.present.retired, .inr ⟨ref, cell, admits, ?_⟩⟩
    exact congrArg (ObjectGraph.setCell · ref cell) (fresh.still.same alive)
  single stretch member := .inl (fresh.before stretch member)
  silent fatal := absurd fatal spared
  marked := fresh.marked

/-! ## Changes that nobody is told of -/

/-- Whether nobody is told of the difference between two worlds, the trace and the updates that go on included. -/
structure Hushed (world later : World (σ × Trace σ)) : Prop where
  host : later.host = world.host
  graph : later.graph = world.graph
  holders : later.graphHolders = world.graphHolders
  silent : world.untraced.Silent later.untraced
  updating : ∀ id : BindingId,
    (later.bindings[id]?).map (·.updating) = (world.bindings[id]?).map (·.updating)

/-- Strategies, identities and the collector are nobody's business. -/
theorem Hushed.aside (same : { later with
    adapters := world.adapters, identities := world.identities,
    collector? := world.collector? } = world) : Hushed world later := by
  have kept : ∀ {view : Type} (look : World (σ × Trace σ) → view), look { later with
      adapters := world.adapters, identities := world.identities,
      collector? := world.collector? } = look world := fun look => congrArg look same
  refine ⟨kept World.host, kept World.graph, kept World.graphHolders, .ofBindings
    (kept World.graph) (kept World.channels) (kept World.notifiers) (kept World.diagnostics)
    (kept World.warnings) fun id => ?_, fun id => ?_⟩
  · exact kept fun world => (world.bindings[id]?).map Binding.standing
  · exact kept fun world => (world.bindings[id]?).map Binding.updating

theorem Hushed.gone (hushed : Hushed world later) (without : world.hasGraph = false) :
    later.hasGraph = false := by
  rw [World.hasGraph, hushed.holders]
  exact without

theorem hushed_steady : Engine.Steady (Hushed (σ := σ)) where
  refl _ := ⟨rfl, rfl, rfl, .refl _, fun _ => rfl⟩
  trans first second :=
    ⟨second.host.trans first.host, second.graph.trans first.graph,
      second.holders.trans first.holders, first.silent.trans second.silent second.gone,
      fun id => (second.updating id).trans (first.updating id)⟩

theorem Hushed.trace (hushed : Hushed world later) : later.trace = world.trace :=
  congrArg Prod.snd hushed.host

/-- What nobody is told of does not undo a fatal visit, nor does it make one. -/
theorem Hushed.fatal (hushed : Hushed world later) {target : BindingTarget}
    (fatal : later.present.Fatal target) : world.present.Fatal target := by
  unfold World.present at fatal
  rw [hushed.trace] at fatal
  exact fatal

theorem Record.hushed (record : occasion.Record world) (hushed : Hushed world later) :
    occasion.Record later :=
  record.step hushed.host (.inl hushed.graph) hushed.gone (hushed.silent.isRetired _)
    fun _ => hushed.silent

theorem Account.hushed (account : occasion.Account world) (hushed : Hushed world later) :
    occasion.Account later := by
  refine ⟨account.toRecord.hushed hushed, ?_⟩
  rcases account.marked with ⟨binding, found, updating⟩
  have same := hushed.updating occasion.id
  rw [found, Option.map_some, updating] at same
  exact Option.map_eq_some_iff.mp same

theorem Fresh.hushed (fresh : occasion.Fresh world) (hushed : Hushed world later) :
    occasion.Fresh later := by
  refine ⟨fresh.toAccount.hushed hushed, ?_, ?_, (hushed.silent.error? _).trans fresh.failure⟩
  · rw [hushed.trace]
    exact fresh.before
  · unfold World.present
    rw [hushed.trace]
    exact fresh.still.trans (.inl hushed.graph) hushed.gone

/-! ## Visits -/

/-- A visit leaves the mark of the update and the latest failure of the binding. -/
theorem Account.answered (account : occasion.Account world)
    (code : occasion.outside.Keeps (World.Onward none)) {query : Query} {after : World σ}
    (answers : occasion.outside.Answers world.untraced after query) :
    (∃ binding, after.bindings[occasion.id]? = some binding ∧ binding.updating = true) ∧
      after.error? occasion.id = world.untraced.error? occasion.id := by
  rcases account.marked with ⟨binding, found, updating⟩
  rcases (code.answers answers).bindings _ binding found with ⟨later, found', step⟩
  rcases step.updating (by simp) updating with ⟨updating', error⟩
  refine ⟨⟨later, found', updating'⟩, ?_⟩
  show (after.bindings[occasion.id]?).bind _ = (world.bindings[occasion.id]?).bind _
  rw [found', found]
  exact error

/-- The stretch after a visit, as it begins. -/
theorem Account.visit (account : occasion.Account world)
    (code : occasion.outside.Keeps (World.Onward none))
    (spared : ¬world.present.Fatal occasion.target) {query : Query} {after : World σ}
    (answers : occasion.outside.Answers world.untraced after query)
    (failure : Visit.Concerns ⟨query, world.untraced⟩ occasion.target.property →
      world.untraced.error? occasion.id = occasion.former.error?) :
    occasion.Account (after.traced
      ⟨world.trace.stretches world.untraced, some ⟨query, world.untraced⟩, after⟩) := by
  rcases account.answered code answers with ⟨marked, error⟩
  refine ⟨⟨.visit account.linked answers, fun stretch member => ?_, ?_, fun stretch member => ?_,
    ⟨rfl, .inl (.inl rfl)⟩, fun _ _ => .inr (.inl rfl), ?_⟩, marked⟩
  · rcases Trace.mem_stretches.mp member with earlier | rfl
    · exact account.sound stretch earlier
    · exact account.present
  · refine List.pairwise_append.mpr ⟨account.apart, List.pairwise_singleton _ _, ?_⟩
    intro stretch member last same
    cases List.mem_singleton.mp same
    exact account.single stretch member
  · rcases Trace.mem_stretches.mp member with earlier | rfl
    · exact account.passed stretch earlier
    · exact spared
  · rintro ⟨_, visit, same, concerns⟩
    cases same
    exact ⟨.refl _, error.trans (failure concerns)⟩

/-- Nothing has been stored or noted when a visit ends, if nothing had been when it began. -/
theorem Fresh.visit (fresh : occasion.Fresh world)
    (code : occasion.outside.Keeps (World.Onward none))
    (spared : ¬world.present.Fatal occasion.target) {query : Query} {after : World σ}
    (answers : occasion.outside.Answers world.untraced after query) :
    occasion.Fresh (after.traced
      ⟨world.trace.stretches world.untraced, some ⟨query, world.untraced⟩, after⟩) := by
  refine ⟨fresh.toAccount.visit code spared answers fun _ => fresh.failure,
    fun stretch member => ?_, .inl rfl,
    (fresh.toAccount.answered code answers).2.trans fresh.failure⟩
  rcases Trace.mem_stretches.mp member with earlier | rfl
  · exact fresh.before stretch earlier
  · exact fresh.still

end Occasion

end PropertyBinding

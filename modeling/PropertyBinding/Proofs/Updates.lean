import PropertyBinding.Proofs.FastPath
import PropertyBinding.Proofs.Framing
import PropertyBinding.Proofs.Handovers
import PropertyBinding.Proofs.Storing

namespace PropertyBinding

/-!
# What updates do

A run can be told by what is done for bindings in it.  Code runs on nobody's behalf, or
in the update of a binding, and `Hand` says which: an update evaluates its binding, and
what it stores is stored for the binding.  Foreign code runs on nobody's behalf wherever
it is asked.

The result of a binding on one field of a record is put in place without a break.  The
record is looked up, gets its new field and is stored before anybody else has a chance to
act, unless an interceptor is to be asked.  `Enacted` tells that as one occurrence.  It
tells of a call that enables or disables a binding too, and of the update that such a call
attempts.
-/

/-- On whose behalf something is done. -/
inductive Hand where
  /-- On nobody's: foreign code, and what it has the engine do. -/
  | code
  /-- A binding with a target is updated. -/
  | update (id : BindingId) (target : BindingTarget)
  /-- The result of a binding is stored as a whole. -/
  | storage (id : BindingId)
  /-- An interceptor is asked about a record with a new field, before a property gets it. -/
  | yielding (id : BindingId) (ref : PropertyRef)

/-- What happens in a run, as far as bindings and what they store are concerned. -/
inductive Occurrence where
  /-- An update of a binding has passed all checks. -/
  | begins (id : BindingId)
  | ends (id : BindingId)
  /-- A binding is to be enabled or disabled, and perhaps to be updated if that enables it. -/
  | asks (id : BindingId) (enabled write : Bool)
  /-- The update of a binding is called because it has been enabled. -/
  | attempts (id : BindingId)
  | retires (id : BindingId)
  /-- A binding that nothing keeps lets go of its edges. -/
  | drops (id : BindingId)
  | destroys (id : ObjectId)
  /-- The object graph goes with all its objects. -/
  | vanishes
  /-- A property gets another cell, perhaps for a binding. -/
  | puts (author? : Option BindingId) (ref : PropertyRef)
  /-- A binding is about to ask the interceptor of a property. -/
  | consults (id : BindingId) (ref : PropertyRef)
  /-- A property gets what its interceptor has made of a record for a binding. -/
  | yields (id : BindingId) (ref : PropertyRef)
  /-- A binding puts a number in a field of the record that a property holds. -/
  | stores (id : BindingId) (ref : PropertyRef) (field : Nat) (number : Float)
  | other

/-- How it is told that a property gets another cell. -/
inductive Hand.Writes : Hand → PropertyRef → Occurrence → Prop
  | code (ref : PropertyRef) : Writes .code ref (.puts none ref)
  | storage (id : BindingId) (ref : PropertyRef) : Writes (.storage id) ref (.puts (some id) ref)
  | yielding (id : BindingId) (ref : PropertyRef) : Writes (.yielding id ref) ref (.yields id ref)

/-- Whether a binding differs in nothing that its updates, or calls that enable it, are about. -/
structure Binding.Unaltered (former binding : Binding) : Prop where
  target : binding.target = former.target
  evaluations : binding.evaluations = former.evaluations
  reads : binding.reads = former.reads
  pending : binding.pending? = former.pending?
  enabled : binding.enabled = former.enabled
  retired : binding.retired = former.retired
  updating : binding.updating = former.updating

/-- Whether work in the update of a binding leaves its target and its marks as they are. -/
structure Binding.Furthered (former binding : Binding) : Prop where
  target : binding.target = former.target
  enabled : binding.enabled = former.enabled
  retired : binding.retired = former.retired
  updating : binding.updating = former.updating

variable {σ : Type}

/-- Whether a later world has the same objects, and the same bindings or new ones beside them. -/
structure Unnoted (world later : World σ) : Prop where
  graph : later.graph = world.graph
  collector : later.collector? = world.collector?
  bindings : ∀ (id : BindingId) former, world.bindings[id]? = some former →
    ∃ binding, later.bindings[id]? = some binding ∧ former.Unaltered binding

namespace Unnoted

variable {world later : World σ}

theorem of_bindings (graph : later.graph = world.graph)
    (collector : later.collector? = world.collector?) (bindings : later.bindings = world.bindings) :
    Unnoted world later where
  graph := graph
  collector := collector
  bindings _ former found := ⟨former, bindings ▸ found, rfl, rfl, rfl, rfl, rfl, rfl, rfl⟩

theorem of_modify (world : World σ) (id : BindingId) {change : Binding → Binding}
    (same : ∀ binding : Binding, binding.Unaltered (change binding)) :
    Unnoted world { world with bindings := world.bindings.modify id change } where
  graph := rfl
  collector := rfl
  bindings other former found := by
    refine ⟨if id = other then change former else former, ?_, ?_⟩
    · rw [List.getElem?_modify, found]
      split <;> rfl
    · split
      · exact same former
      · exact ⟨rfl, rfl, rfl, rfl, rfl, rfl, rfl⟩

theorem of_append (world : World σ) (binding : Binding) :
    Unnoted world { world with bindings := world.bindings ++ [binding] } where
  graph := rfl
  collector := rfl
  bindings _ former found :=
    ⟨former, (List.getElem?_append_left (List.getElem?_eq_some_iff.mp found).1).trans found,
      rfl, rfl, rfl, rfl, rfl, rfl, rfl⟩

end Unnoted

/-- The world with another cell for a property. -/
def World.holding (world : World σ) (ref : PropertyRef) (cell : Cell) : World σ :=
  { world with graph := world.graph.setCell ref cell }

/-- A record that is looked up is held by the property that the chain of aliases leads to. -/
theorem ObjectGraph.parts_of_peek {graph : ObjectGraph} {ref : PropertyRef} {depth : Nat}
    {record : Record} (peeked : graph.peek ref depth = .ok (.record record)) :
    ∃ stored, graph.resolve ref depth = .ok stored ∧
      graph.cell? stored = some (.native (.record record)) := by
  cases resolved : graph.resolve ref depth with
  | error error =>
      rw [peek, resolved] at peeked
      cases peeked
  | ok stored =>
      refine ⟨stored, rfl, ?_⟩
      rw [peek, resolved] at peeked
      change graph.stored stored = _ at peeked
      unfold ObjectGraph.stored at peeked
      cases living : graph.object? stored.object with
      | none =>
          rw [living] at peeked
          cases peeked
      | some object =>
          simp only [living] at peeked
          rw [cell?, living, Option.bind_some]
          cases cell : object.cells[stored.index]? with
          | none =>
              rw [cell] at peeked
              cases peeked
          | some content =>
              rw [cell] at peeked
              cases content <;> cases peeked
              rfl

namespace Engine

variable {α β : Type} {host : Host σ} {bound : Nat}

/-- Announces a property, if it has changed and that is to be heard. -/
def announceChange (ref : PropertyRef) (signal : Nat) (changed : Bool) (flags : WriteFlags) :
    Engine σ Unit :=
  if changed && !flags.quiet then announce (.property ref.object signal) else return

/-- What an update does that has passed all checks, between its beginning and its end. -/
def evaluation (id : BindingId) (binding : Binding) (flags : WriteFlags) : Engine σ Unit := do
  let result ← evaluateBinding id binding
  modifyBinding id fun binding => { binding with evaluations := binding.evaluations + 1 }
  if (← graph).isAlive binding.target.object then
    finishUpdate id binding result flags

/--
Whether an operation is a call of the update of a binding, or one that enables it and calls
its update then, after some stages.
-/
inductive Prompts (id : BindingId) (flags : WriteFlags) :
    Engine σ Unit → World σ → List (Stage (World σ) Occurrence) → World σ → Prop
  | update (world : World σ) : Prompts id flags (update id flags) world [] world
  | enable {binding : Binding} {world : World σ} (found : world.bindings[id]? = some binding)
      (active : binding.retired = false) (disabled : binding.enabled = false) :
      Prompts id flags (setEnabled id true (some flags)) world
        [⟨world, .asks id true true⟩,
          ⟨switched world id true (maySkip world binding), .attempts id⟩]
        (switched world id true (maySkip world binding))

/--
Whether a run of an operation with the code of a host, on somebody's behalf, from a world
to another and with a result, goes through some stages.
-/
inductive Enacted (host : Host σ) : {α : Type} → Nat → Hand → Engine σ α → World σ →
    List (Stage (World σ) Occurrence) → α → World σ → Prop
  | value {α : Type} {bound : Nat} (hand : Hand) (result : α) (world : World σ) :
      Enacted host bound hand (pure result) world [] result world
  | get {bound : Nat} (hand : Hand) (world : World σ) :
      Enacted host bound hand get world [] world world
  | sequence {α β : Type} {bound : Nat} {hand : Hand} {operation : Engine σ α}
      {next : α → Engine σ β} {world middle after : World σ}
      {tale rest : List (Stage (World σ) Occurrence)} {result : α} {final : β}
      (first : Enacted host bound hand operation world tale result middle)
      (second : Enacted host bound hand (next result) middle rest final after) :
      Enacted host bound hand (operation >>= next) world (tale ++ rest) final after
  /-- Foreign code acts on nobody's behalf. -/
  | visit {bound : Nat} (hand : Hand) {query : Query} {world after : World σ}
      {tale : List (Stage (World σ) Occurrence)} {result : query.Result}
      (told : Enacted host bound .code (query.answer host) world tale result after) :
      Enacted host (bound + 1) hand (foreign query.step) world tale result after
  | change {bound : Nat} (hand : Hand) {change : World σ → World σ}
      (unnoted : ∀ world : World σ, Unnoted world (change world)) (world : World σ) :
      Enacted host bound hand (modify change) world [⟨world, .other⟩] () (change world)
  | arrange {bound : Nat} (hand : Hand) (id : ObjectId) {change : Object → Object}
      (kept : ∀ object : Object, (change object).cells = object.cells) (world : World σ) :
      Enacted host bound hand (modifyGraph fun graph => graph.update id change) world
        [⟨world, .other⟩] () { world with graph := world.graph.update id change }
  | create {bound : Nat} (hand : Hand) (classId : ClassId) (name? : Option String)
      (world : World σ) :
      Enacted host bound hand (create classId name?) world [⟨world, .other⟩]
        (world.graph.create classId name?).1
        { world with graph := (world.graph.create classId name?).2 }
  | destroy {bound : Nat} {hand : Hand} {id : ObjectId} {object : Object} {graph : ObjectGraph}
      {world after : World σ} {tale : List (Stage (World σ) Occurrence)}
      (removed : world.graph.remove? id = some (object, graph))
      (told : Enacted host bound hand (retireAll object.writers.values) (world.without id graph)
        tale () after) :
      Enacted host bound hand (destroy id) world (⟨world, .destroys id⟩ :: tale) true after
  | vanish {bound : Nat} (hand : Hand) (world : World σ) :
      Enacted host bound hand (modify World.vanished) world [⟨world, .vanishes⟩] () world.vanished
  | setAlias {bound : Nat} (hand : Hand) {ref target : PropertyRef} {changed : ObjectGraph}
      {world : World σ} (points : world.graph.setAlias ref target = .ok changed) :
      Enacted host bound hand (setAlias ref target : Attempt PropertyError σ Unit).run world
        [⟨world, .puts none ref⟩] (.ok ()) { world with graph := changed }
  | store {bound : Nat} {hand : Hand} {ref : PropertyRef} {occurrence : Occurrence}
      (writes : hand.Writes ref occurrence) {signal : Nat} {cell : Cell} {unchanged : Cell → Bool}
      {flags : WriteFlags} {world after : World σ} {tale : List (Stage (World σ) Occurrence)}
      (alive : world.graph.isAlive ref.object = true)
      (told : Enacted host bound .code (announceChange ref signal
        (!((world.graph.cell? ref).map unchanged).getD false) flags) (world.holding ref cell)
        tale () after) :
      Enacted host bound hand
        (store ref signal cell unchanged flags : Attempt PropertyError σ Unit).run world
        (⟨world, occurrence⟩ :: tale) (.ok ()) after
  | retire {bound : Nat} (hand : Hand) (id : BindingId) (world : World σ) :
      Enacted host bound hand (retireBinding id) world [⟨world, .retires id⟩] () (world.ended id)
  | drop {bound : Nat} (hand : Hand) {id : BindingId} {world : World σ}
      (unkept : world.keepsBinding id = false) :
      Enacted host bound hand (settle id) world [⟨world, .drops id⟩] () (world.cleared id)
  | capture {bound : Nat} (hand : Hand) (source : Source) (world : World σ) :
      Enacted host bound hand (capture source) world [⟨world, .other⟩] () (world.capture source)
  /-- A binding is told of reads in its own update only. -/
  | scope {α : Type} {bound : Nat} {hand : Hand} {collector? : Option Collector}
      (own : ∀ id, collector? = some (.binding id) → ∃ target, hand = .update id target)
      {operation : Engine σ α} {world after : World σ} {tale : List (Stage (World σ) Occurrence)}
      {result : α}
      (told : Enacted host bound hand operation { world with collector? := collector? } tale
        result after) :
      Enacted host bound hand (withCollector collector? operation) world
        (⟨world, .other⟩ :: tale ++ [⟨after, .other⟩]) result
        { after with collector? := world.collector? }
  /-- The failure that waits is reported, and it is the latest one still. -/
  | acknowledge {bound : Nat} (hand : Hand) {id : BindingId} {binding : Binding}
      {failure : Failure} {world : World σ} (found : world.bindings[id]? = some binding)
      (waits : binding.unreported? = some failure) :
      Enacted host bound hand
        (modifyBinding id fun binding => binding.withPending failure true) world
        [⟨world, .other⟩] () { world with
          bindings := world.bindings.modify id fun binding => binding.withPending failure true }
  /-- An update that passes all checks. -/
  | opened {bound : Nat} {id : BindingId} {flags : WriteFlags} {operation : Engine σ Unit}
      {binding : Binding} {world called middle after : World σ}
      {prelude tale rest : List (Stage (World σ) Occurrence)}
      (prompts : Prompts id flags operation world prelude called)
      (found : called.bindings[id]? = some binding) (opens : called.opens id = true)
      (told : Enacted host bound (.update id binding.target) (evaluation id binding flags)
        (called.retained.begun id) tale () middle)
      (ending : Enacted host bound .code (do settle id; releaseGraph) (middle.finished id) rest ()
        after) :
      Enacted host bound .code operation world
        (prelude ++ ⟨called, .begins id⟩ :: tale ++ ⟨middle, .ends id⟩ :: rest) () after
  | closed {bound : Nat} {id : BindingId} {flags : WriteFlags} {operation : Engine σ Unit}
      {world called : World σ} {prelude : List (Stage (World σ) Occurrence)}
      (prompts : Prompts id flags operation world prelude called)
      (closed : called.opens id = false) (steps : Steps (update id flags) called () called) :
      Enacted host bound .code operation world prelude () called
  /-- A binding that is being updated reports a loop at most. -/
  | refused {bound : Nat} {id : BindingId} {flags : WriteFlags} {operation : Engine σ Unit}
      {binding : Binding} {world called after : World σ}
      {prelude tale : List (Stage (World σ) Occurrence)}
      (prompts : Prompts id flags operation world prelude called)
      (closed : called.opens id = false)
      (refuses : ∀ outside, update id flags outside called =
        keepingGraph (reportLoop binding) outside called)
      (told : Enacted host bound .code (keepingGraph (reportLoop binding)) called tale () after) :
      Enacted host bound .code operation world (prelude ++ tale) () after
  /-- A retired binding stays disabled. -/
  | denied {bound : Nat} {id : BindingId} {flags? : Option WriteFlags} {binding : Binding}
      {world : World σ} (found : world.bindings[id]? = some binding)
      (retired : binding.retired = true) :
      Enacted host bound .code (setEnabled id true flags?) world
        [⟨world, .asks id true flags?.isSome⟩] () world
  | switch {bound : Nat} {id : BindingId} {enabled : Bool} {flags? : Option WriteFlags}
      {binding : Binding} {world : World σ} (found : world.bindings[id]? = some binding)
      (permitted : enabled = true → binding.retired = false)
      (unmoved : flags?.isSome = true → enabled = true → binding.enabled = true) :
      Enacted host bound .code (setEnabled id enabled flags?) world
        [⟨world, .asks id enabled flags?.isSome⟩] ()
        (switched world id enabled (maySkip world binding))
  /-- An update notes what becomes of its evaluation. -/
  | tend {bound : Nat} {id : BindingId} {target : BindingTarget} {change : Binding → Binding}
      (furthered : ∀ binding : Binding, binding.Furthered (change binding)) (world : World σ) :
      Enacted host bound (.update id target) (modifyBinding id change) world [⟨world, .other⟩] ()
        { world with bindings := world.bindings.modify id change }
  /-- A result is stored in a property as a whole. -/
  | whole {α : Type} {bound : Nat} {id : BindingId} {target : BindingTarget}
      {operation : Engine σ α} {world after : World σ} {tale : List (Stage (World σ) Occurrence)}
      {result : α} (plain : target.field? = none)
      (told : Enacted host bound (.storage id) operation world tale result after) :
      Enacted host bound (.update id target) operation world tale result after
  /-- An interceptor is to be asked about a record with a new field. -/
  | intercepted {bound : Nat} {id : BindingId} {target : BindingTarget} {ref stored : PropertyRef}
      {property : Property} {value : Native} {flags : WriteFlags} {world after : World σ}
      {tale : List (Stage (World σ) Occurrence)} {outcome : Except PropertyError Unit}
      (watched : world.graph.interceptor? stored ≠ none)
      (leads : ∀ outside, (write ref value flags).run outside world =
        (storeNative stored property value flags).run outside world)
      (told : Enacted host bound (.yielding id stored)
        (storeNative stored property value flags : Attempt PropertyError σ Unit).run world tale
        outcome after) :
      Enacted host bound (.update id target)
        (write ref value flags : Attempt PropertyError σ Unit).run world
        (⟨world, .consults id stored⟩ :: tale) outcome after
  /-- A write in the update of a binding comes to nothing. -/
  | declined {bound : Nat} {id : BindingId} {target : BindingTarget} {ref : PropertyRef}
      {value : Native} {flags : WriteFlags} {world : World σ} {error : PropertyError}
      (steps : Steps (write ref value flags : Attempt PropertyError σ Unit).run world
        (.error error) world) :
      Enacted host bound (.update id target)
        (write ref value flags : Attempt PropertyError σ Unit).run world [] (.error error) world
  /-- A record gets a new field and is stored without a break. -/
  | stores {bound : Nat} {id : BindingId} {target : BindingTarget} {ref stored : PropertyRef}
      {field signal : Nat} {number : Float} {current changed : Record}
      {unchanged : Cell → Bool} {flags : WriteFlags} {world after : World σ}
      {tale : List (Stage (World σ) Occurrence)} (aims : target.field? = some field)
      (holds : world.graph.cell? stored = some (.native (.record current)))
      (set : current.setField? field number = some changed)
      (alive : world.graph.isAlive stored.object = true)
      (unbroken : ∀ outside, (write ref (.record changed) flags).run outside world =
        (store stored signal (.native (.record changed)) unchanged flags).run outside world)
      (told : Enacted host bound .code (announceChange stored signal
        (!(unchanged (.native (.record current)))) flags)
        (world.holding stored (.native (.record changed))) tale () after) :
      Enacted host bound (.update id target)
        (write ref (.record changed) flags : Attempt PropertyError σ Unit).run world
        (⟨world, .stores id stored field number⟩ :: tale) (.ok ()) after

/-! ## Operations in parts -/

section Parts

variable (outside : Outside σ) {world : World σ} {id : BindingId} {binding : Binding}

theorem store_eq {ref : PropertyRef} {signal : Nat} {cell : Cell} {unchanged : Cell → Bool}
    {flags : WriteFlags} (alive : world.graph.isAlive ref.object = true) :
    (store ref signal cell unchanged flags : Attempt PropertyError σ Unit).run outside world =
      (announceChange ref signal (!((world.graph.cell? ref).map unchanged).getD false) flags
        outside (world.holding ref cell)).map fun out => (.ok (), out.2) := by
  show (if world.graph.isAlive ref.object = true then
      Attempt.perform (do
        modifyGraph fun graph => graph.setCell ref cell
        announceChange ref signal (!((world.graph.cell? ref).map unchanged).getD false) flags)
    else throw (.destroyed ref.object) : Attempt PropertyError σ Unit).run outside world = _
  rw [if_pos alive]
  exact Option.map_eq_bind.symm

/-- An update that passes all checks goes from its beginning to its end, and lets go then. -/
theorem update_opened {flags : WriteFlags} (found : world.bindings[id]? = some binding)
    (opens : world.opens id = true) :
    update id flags outside world =
      (evaluation id binding flags outside (world.retained.begun id)).bind fun out =>
        (do settle id; releaseGraph) outside (out.2.finished id) := by
  have checked : world.hasGraph = true ∧ binding.enabled = true ∧ binding.retired = false ∧
      world.graph.isAlive binding.target.object = true ∧ binding.updating = false := by
    simpa [World.opens, found, and_assoc] using opens
  rcases checked with ⟨present, enabled, active, alive, idle⟩
  have kept : update id flags outside world =
      (runUpdate id binding flags outside world.retained).bind fun out =>
        releaseGraph outside out.2 := by
    simp [update, found, present, enabled, active, alive, idle, keepingGraph, retainGraph,
      World.retained]
  have framed : runUpdate id binding flags = (do
      framing id (evaluation id binding flags)
      settle id : Engine σ Unit) := runUpdate_eq id binding flags
  have begins := begin_steps world.retained id outside
  simp only [apply_bind, apply_modifyBinding, Option.bind_some] at begins
  rw [kept, framed]
  simp only [framing, apply_bind, apply_modifyBinding, apply_pure, Option.bind_some, begins,
    Option.bind_assoc]
  rfl

/-- An update that fails a check comes to nothing, or to the report of a loop. -/
theorem update_closed (flags : WriteFlags) (closed : world.opens id = false) :
    Steps (update id flags) world () world ∨ ∃ binding, ∀ outside,
      update id flags outside world = keepingGraph (reportLoop binding) outside world := by
  cases found : world.bindings[id]? with
  | none => exact .inl fun _ => by simp [update, found]
  | some binding =>
      by_cases checked : world.hasGraph = true ∧ binding.enabled = true ∧
          binding.retired = false ∧ world.graph.isAlive binding.target.object = true
      · rcases checked with ⟨present, enabled, active, alive⟩
        have updating : binding.updating = true := by
          simpa [World.opens, found, present, enabled, active, alive] using closed
        exact .inr ⟨binding, fun _ => by
          simp [update, found, present, enabled, active, alive, updating]⟩
      · refine .inl fun _ => ?_
        simp only [update, apply_bind, apply_binding?, Option.bind_some, found, apply_get]
        split
        · rfl
        · next passes =>
          have dead : world.graph.isAlive binding.target.object = false := by
            simp_all
          simp [dead]

/-- A record is stored in the property that the chain of aliases leads to, or not at all. -/
theorem write_leads {ref stored : PropertyRef} {changed : Record} (flags : WriteFlags)
    (resolved : world.graph.resolve ref defaultAliasDepth = .ok stored) :
    (∃ error, Steps (write ref (.record changed) flags : Attempt PropertyError σ Unit).run world
        (.error error) world) ∨
      ∃ property, world.graph.property stored = .ok property ∧ ∀ outside,
        (write ref (.record changed) flags).run outside world =
          (storeNative stored property (.record changed) flags).run outside world := by
  cases described : world.graph.property stored with
  | error error =>
      refine .inl ⟨error, fun outside => ?_⟩
      rw [write, resolve, apply_ask, resolved]
      dsimp only
      rw [apply_ask, described]
  | ok property =>
      have reached : ∀ outside, (write ref (.record changed) flags).run outside world =
          (if property.isVar then throw (.typeMismatch property.name "var")
            else storeNative stored property (.record changed) flags :
              Attempt PropertyError σ Unit).run outside world := by
        intro outside
        rw [write, resolve, apply_ask, resolved]
        dsimp only
        rw [apply_ask, described]
      cases slot : property.isVar with
      | true =>
          refine .inl ⟨.typeMismatch property.name "var", fun outside => ?_⟩
          rw [reached, slot]
          rfl
      | false =>
          refine .inr ⟨property, rfl, fun outside => ?_⟩
          rw [reached, slot]
          rfl

/--
A value that nobody is to be asked about is stored without a break, or not at all, if the
writers stay.
-/
theorem storeNative_unbroken {ref : PropertyRef} {property : Property} (value : Native)
    {flags : WriteFlags} (described : world.graph.property ref = .ok property)
    (keeps : flags.keep = true)
    (unasked : flags.bypass = true ∨ world.graph.interceptor? ref = none) :
    (∃ error, Steps (storeNative ref property value flags : Attempt PropertyError σ Unit).run world
        (.error error) world) ∨
      ∀ outside, (storeNative ref property value flags).run outside world =
        (store ref property.signal (.native value) (fun cell => cell.holds value) flags).run
          outside world := by
  have fit : Steps (requireFit property value).run world _ world := requireFit_steps property value
  cases fits : value.fits property.type with
  | false =>
      rw [fits] at fit
      refine .inl ⟨.typeMismatch property.name (world.graph.schema.typeName property.type), ?_⟩
      intro outside
      show ((requireFit property value).run outside world).bind _ = _
      rw [fit outside]
      rfl
  | true =>
      rw [fits] at fit
      have fit : Steps (requireFit property value).run world (.ok ()) world := fit
      refine .inr fun outside => ?_
      rw [storeNative, apply_attempt _ (fit outside), keeps]
      simp only [Bool.not_true, Bool.false_eq_true, if_false]
      cases bypass : flags.bypass with
      | true => rfl
      | false =>
          have unwatched : world.graph.interceptor? ref = none :=
            unasked.resolve_left (by simp [bypass])
          have passed : (intercepted ref value).run outside world = some (.ok value, world) := by
            rw [intercepted, apply_perform]
            simp only [apply_graph, Option.bind_some,
              ObjectGraph.isAlive_of_property described, unwatched, if_true]
            rfl
          simp only [Bool.false_eq_true, if_false]
          rw [apply_attempt _ passed, apply_attempt _ (fit outside)]

/-- A binding that may be switched is, and is updated then if there are flags for that. -/
theorem setEnabled_eq {enabled : Bool} (flags? : Option WriteFlags)
    (found : world.bindings[id]? = some binding)
    (permitted : enabled = true → binding.retired = false) :
    setEnabled id enabled flags? outside world =
      (match flags? with
        | some flags => if enabled && !binding.enabled then update id flags else return
        | none => return : Engine σ Unit) outside
          (switched world id enabled (maySkip world binding)) := by
  have refused : (enabled && binding.retired) = false := by
    cases enabled
    · rfl
    · exact permitted rfl
  have present : (world.bindings.modify id fun binding =>
      { binding with enabled := enabled })[id]? = some { binding with enabled := enabled } := by
    rw [List.getElem?_modify_eq, found]
    rfl
  have refreshed : refreshFastPath id outside { world with
      bindings := world.bindings.modify id fun binding => { binding with enabled := enabled } } =
        _ := refreshFastPath_steps present outside
  simp only [setEnabled, apply_bind, apply_binding?, Option.bind_some, found, refused,
    Bool.false_eq_true, if_false, apply_modifyBinding, refreshed, List.modify_modify_eq]
  rfl

theorem setEnabled_denied {flags? : Option WriteFlags}
    (found : world.bindings[id]? = some binding) (retired : binding.retired = true) :
    Steps (setEnabled id true flags?) world () world := by
  intro outside
  simp [setEnabled, found, retired]

/-- What prompts an update goes on as the update does. -/
theorem Prompts.calls {flags : WriteFlags} {operation : Engine σ Unit} {called : World σ}
    {prelude : List (Stage (World σ) Occurrence)}
    (prompts : Prompts id flags operation world prelude called) :
    operation outside world = Engine.update id flags outside called := by
  cases prompts with
  | update => rfl
  | enable found active disabled =>
      rw [setEnabled_eq _ _ found fun _ => active]
      simp only [disabled]
      rfl

end Parts

/-- What is told of a run leads to where the run leads. -/
theorem Enacted.run {hand : Hand} {operation : Engine σ α} {world after : World σ}
    {tale : List (Stage (World σ) Occurrence)} {result : α}
    (told : Enacted host bound hand operation world tale result after) :
    operation (.within host bound) world = some (result, after) := by
  induction told with
  | value | get | change | arrange | create | vanish | acknowledge | tend => rfl
  | sequence _ _ first second =>
      rw [apply_bind, first]
      exact second
  | visit _ _ inner => exact (Query.step_within host _ _ _).trans inner
  | destroy removed _ inner => rw [destroy_eq _ removed, inner, Option.map_some]
  | setAlias _ points => exact setAlias_eq _ points
  | store _ alive _ inner => rw [store_eq _ alive, inner, Option.map_some]
  | retire _ id world => exact retireBinding_steps world id _
  | @drop bound _ id world unkept =>
      have cleared := clearReads_steps world id (.within host bound)
      simpa [settle, unkept] using cleared
  | capture _ source world => exact capture_steps world source _
  | scope _ _ inner =>
      simp only [withCollector, apply_bind, apply_get, apply_modify, apply_pure,
        Option.bind_some, inner]
  | whole _ _ inner => exact inner
  | intercepted _ leads _ inner => exact (leads _).trans inner
  | opened prompts found opens _ _ inner last =>
      rw [prompts.calls, update_opened _ found opens, inner, Option.bind_some]
      exact last
  | closed prompts _ steps => exact (prompts.calls _).trans (steps _)
  | declined steps => exact steps _
  | refused prompts _ refuses _ inner => exact (prompts.calls _).trans ((refuses _).trans inner)
  | denied found retired => exact setEnabled_denied found retired _
  | @switch _ id enabled flags? binding world found permitted unmoved =>
      rw [setEnabled_eq _ flags? found permitted]
      cases flags? with
      | none => rfl
      | some flags =>
          have quiet : (enabled && !binding.enabled) = false := by
            cases enabled
            · rfl
            · simp [unmoved rfl rfl]
          simp only [quiet]
          rfl
  | stores _ holds _ alive unbroken _ inner =>
      rw [unbroken, store_eq _ alive, holds, Option.map_some, Option.getD_some, inner]
      rfl

/-- An operation that answers with what another one does, by another name, does the same. -/
theorem Enacted.rename {hand : Hand} {operation : Engine σ α} {world after : World σ}
    {tale : List (Stage (World σ) Occurrence)} {result : α} (change : α → β)
    (told : Enacted host bound hand operation world tale result after) :
    Enacted host bound hand (change <$> operation) world tale (change result) after := by
  rw [← List.append_nil tale]
  show Enacted host bound hand (operation >>= fun result => pure (change result)) _ _ _ _
  exact .sequence told (.value hand _ after)

/-- A run of an attempt that succeeds goes on with what comes next. -/
theorem Enacted.succeeds {ε : Type} {hand : Hand} {operation : Attempt ε σ α}
    {next : α → Attempt ε σ β} {world middle after : World σ}
    {tale rest : List (Stage (World σ) Occurrence)} {result : α} {outcome : Except ε β}
    (first : Enacted host bound hand operation.run world tale (.ok result) middle)
    (second : Enacted host bound hand (next result).run middle rest outcome after) :
    Enacted host bound hand (operation >>= next).run world (tale ++ rest) outcome after :=
  .sequence first second

/-- There is nothing to tell of a question about the graph. -/
theorem Enacted.look (question : ObjectGraph → β) (hand : Hand) (world : World σ) :
    Enacted host bound hand (question <$> graph) world [] (question world.graph) world :=
  .rename question (.rename World.graph (.get hand world))

/-- There is nothing to tell of a look at a binding. -/
theorem Enacted.seek (id : BindingId) (hand : Hand) (world : World σ) :
    Enacted host bound hand (binding? id) world [] world.bindings[id]? world :=
  .rename (fun world => world.bindings[id]?) (.get hand world)

/-! ## What there is to tell -/

/-- Whether what each run of an operation does on somebody's behalf can be told. -/
def Enactable (host : Host σ) (bound : Nat) (hand : Hand) (operation : Engine σ α) : Prop :=
  ∀ world result after, operation (.within host bound) world = some (result, after) →
    ∃ tale, Enacted host bound hand operation world tale result after

/-- A run that is told leaves nothing else to tell. -/
theorem Enacted.any {hand : Hand} {operation : Engine σ α} {world last : World σ}
    {tale : List (Stage (World σ) Occurrence)} {outcome : α}
    (told : Enacted host bound hand operation world tale outcome last) {result : α}
    {after : World σ} (run : operation (.within host bound) world = some (result, after)) :
    ∃ tale, Enacted host bound hand operation world tale result after := by
  rw [told.run] at run
  cases run
  exact ⟨tale, told⟩

/-- A run that begins as it is told goes on from where that leads. -/
theorem Enacted.onward {hand : Hand} {operation : Engine σ α} {next : α → Engine σ β}
    {world middle after : World σ} {tale : List (Stage (World σ) Occurrence)} {result : α}
    {final : β} (begun : Enacted host bound hand operation world tale result middle)
    (run : (operation >>= next) (.within host bound) world = some (final, after))
    (rest : next result (.within host bound) middle = some (final, after) →
      ∃ tale, Enacted host bound hand (next result) middle tale final after) :
    ∃ tale, Enacted host bound hand (operation >>= next) world tale final after := by
  rw [apply_bind, begun.run, Option.bind_some] at run
  rcases rest run with ⟨later, told⟩
  exact ⟨_, .sequence begun told⟩

namespace Enactable

variable {hand : Hand}

theorem sequential : Sequential (σ := σ) (Enactable host bound hand) := by
  refine .of_runs (fun result world => ⟨_, .value hand result world⟩)
    (fun world => ⟨_, .get hand world⟩) ?_
  rintro _ _ _ _ _ _ _ _ _ ⟨tale, told⟩ ⟨later, toldRest⟩
  exact ⟨_, .sequence told toldRest⟩

theorem change (change : World σ → World σ)
    (unnoted : ∀ world : World σ, Unnoted world (change world)) :
    Enactable host bound hand (modify change) :=
  fun world _ _ run => (Enacted.change hand unnoted world).any run

theorem modest : Modest (σ := σ) (Enactable host bound hand) where
  toSequential := sequential
  apart change same := Enactable.change change fun world =>
    .of_bindings (same world).graph (same world).collector (same world).bindings
  touch id change touched := Enactable.change _ fun world => .of_modify world id fun binding => by
    rcases touched binding with ⟨_, _, _, same⟩
    rw [same]
    exact ⟨rfl, rfl, rfl, rfl, rfl, rfl, rfl⟩

theorem modifyChannels (change : Channels → Channels) :
    Enactable (σ := σ) host bound hand (modifyChannels change) :=
  Enactable.change _ fun _ => .of_bindings rfl rfl rfl

theorem file (change : World σ → World σ) (same : ∀ world : World σ, Filed world (change world)) :
    Enactable host bound hand (modify change) :=
  Enactable.change change fun world =>
    .of_bindings (same world).graph (same world).collector (same world).bindings

theorem arrange (id : ObjectId) (change : Object → Object)
    (kept : ∀ object : Object, (change object).cells = object.cells) :
    Enactable (σ := σ) host bound hand (modifyGraph fun graph => graph.update id change) :=
  fun world _ _ run => (Enacted.arrange hand id kept world).any run

theorem setAlias (ref target : PropertyRef) :
    Enactable host bound hand (setAlias ref target : Attempt PropertyError σ Unit).run := by
  intro world result after run
  cases points : world.graph.setAlias ref target with
  | ok changed => exact (Enacted.setAlias hand points).any run
  | error error =>
      have asked : Enacted host bound hand (Attempt.ask fun graph => graph.setAlias ref target :
          Attempt PropertyError σ ObjectGraph).run world [] (.error error) world :=
        points ▸ .look (fun graph => graph.setAlias ref target) hand world
      have told : Enacted host bound hand (Engine.setAlias ref target :
          Attempt PropertyError σ Unit).run world [] (.error error) world := by
        rw [Engine.setAlias, ExceptT.run_bind]
        exact .sequence asked (.value hand _ world)
      exact told.any run

theorem settle (id : BindingId) : Enactable (σ := σ) host bound hand (settle id) := by
  intro world result after run
  cases kept : world.keepsBinding id with
  | false => exact (Enacted.drop hand kept).any run
  | true =>
      have told : Enacted host bound hand (Engine.settle id) world [] () world := by
        refine .sequence (.get hand world) ?_
        rw [kept]
        exact .value hand _ world
      exact told.any run

theorem settleAll (ids : List BindingId) : Enactable (σ := σ) host bound hand (settleAll ids) := by
  induction ids with
  | nil => exact sequential.value ()
  | cons id rest step => exact sequential.bind (settle id) fun _ => step

theorem releaseGraph : Enactable (σ := σ) host bound hand releaseGraph := by
  refine sequential.bind (Enactable.change _ fun _ => .of_bindings rfl rfl rfl) fun _ => ?_
  refine sequential.bind sequential.get fun world => ?_
  split
  · refine sequential.bind (fun world _ _ run => (Enacted.vanish hand world).any run) fun _ => ?_
    exact sequential.bind sequential.get fun _ => settleAll _
  · exact sequential.value ()

theorem read (ref : PropertyRef) :
    Enactable host bound hand (read ref : Attempt PropertyError σ Native).run := by
  refine sequential.attempt sequential.question fun target => ?_
  refine sequential.attempt sequential.question fun property => ?_
  refine sequential.perform ?_ fun _ => sequential.question
  exact fun world _ _ run => (Enacted.capture hand _ world).any run

theorem readNotifier (id : NotifierId) : Enactable (σ := σ) host bound hand (readNotifier id) := by
  refine sequential.bind ?_ fun _ => sequential.bind sequential.get fun _ => sequential.value _
  exact fun world _ _ run => (Enacted.capture hand _ world).any run

theorem scope {collector? : Option Collector}
    (own : ∀ id, collector? = some (.binding id) → ∃ target, hand = .update id target)
    {operation : Engine σ α} (inner : Enactable host bound hand operation) :
    Enactable host bound hand (withCollector collector? operation) := by
  intro world result after run
  simp only [withCollector, apply_bind, apply_get, apply_modify, Option.bind_some] at run
  rcases Option.bind_eq_some_iff.mp run with ⟨⟨value, middle⟩, performed, ended⟩
  cases ended
  rcases inner _ _ _ performed with ⟨tale, told⟩
  exact ⟨_, .scope own told⟩

section Visits

variable (visits : ∀ hand (query : Query), Enactable host bound hand (foreign query.step))
include visits

theorem callAll (subscribers : List Subscriber) :
    Enactable host bound hand (callAll subscribers) := by
  induction subscribers with
  | nil => exact sequential.value ()
  | cons subscriber rest step => exact sequential.bind (visits hand (.announce _)) fun _ => step

theorem announce (source : Source) : Enactable host bound hand (announce source) :=
  sequential.bind sequential.get fun _ => sequential.bind (modifyChannels _) fun _ =>
    sequential.bind (callAll visits _) fun _ => modifyChannels _

theorem announceChange (ref : PropertyRef) (signal : Nat) (changed : Bool) (flags : WriteFlags) :
    Enactable host bound hand (announceChange ref signal changed flags) := by
  unfold Engine.announceChange
  split
  · exact announce visits _
  · exact sequential.value ()

theorem retire (writer : Writer) : Enactable host bound hand (retire writer) := by
  cases writer with
  | binding id => exact fun world _ _ run => (Enacted.retire hand id world).any run
  | host id => exact visits hand (.retire id)

theorem store {ref : PropertyRef} {occurrence : Occurrence}
    (writes : hand.Writes ref occurrence) (signal : Nat) (cell : Cell) (unchanged : Cell → Bool)
    (flags : WriteFlags) :
    Enactable host bound hand
      (store ref signal cell unchanged flags : Attempt PropertyError σ Unit).run := by
  intro world result after run
  cases alive : world.graph.isAlive ref.object with
  | true =>
      rw [store_eq _ alive] at run
      rcases Option.map_eq_some_iff.mp run with ⟨⟨_, last⟩, ran, same⟩
      cases same
      rcases announceChange visits _ _ _ _ _ _ _ ran with ⟨tale, told⟩
      exact ⟨_, .store writes alive told⟩
  | false =>
      have told : Enacted host bound hand (Engine.store ref signal cell unchanged flags :
          Attempt PropertyError σ Unit).run world [] (.error (.destroyed ref.object)) world := by
        rw [Engine.store, ExceptT.run_bind]
        refine .sequence (.look Except.ok hand world) ?_
        dsimp only
        rw [if_neg (by simp [alive])]
        exact .value hand _ world
      exact told.any run

/-- What is stored for somebody can be told of everything that operations are made of. -/
theorem furnished {told : PropertyRef → Occurrence} (writes : ∀ ref, hand.Writes ref (told ref)) :
    Furnished (σ := σ) (Enactable host bound hand) where
  toModest := modest
  dress id change dressed := arrange id change fun object => by
    rcases dressed object with ⟨_, same⟩
    rw [same]
  append binding _ := Enactable.change _ fun world => .of_append world binding
  relieve ref := sequential.relieve (sequential.removeWriters arrange (retire visits) ref)
  attach := sequential.attach arrange (retire visits)
  detach := sequential.detach arrange (retire visits)
  store ref := store visits (writes ref)
  settle := settle
  read := read
  readNotifier := readNotifier
  announce := announce visits
  createNotifier _ _ :=
    sequential.bind sequential.get fun _ =>
      sequential.bind (Enactable.change _ fun _ => .of_bindings rfl rfl rfl) fun _ =>
        sequential.value _
  assignNotifier id value := by
    refine sequential.bind sequential.get fun world => ?_
    split
    · exact sequential.value ()
    · exact sequential.bind (Enactable.change _ fun _ => .of_bindings rfl rfl rfl) fun _ =>
        announce visits _
  ask query _ := visits hand query

theorem report (id : DiagnosticsId) (failure : Failure) :
    Enactable host bound hand (report id failure) :=
  sequential.report file (visits hand) id failure

/-! ### Updates -/

omit visits in
theorem tend {id : BindingId} {target : BindingTarget} {change : Binding → Binding}
    (furthered : ∀ binding : Binding, binding.Furthered (change binding)) :
    Enactable (σ := σ) host bound (.update id target) (modifyBinding id change) :=
  fun world _ _ run => (Enacted.tend furthered world).any run

theorem recordFailure (id : BindingId) (target : BindingTarget) (failure : Failure) :
    Enactable host bound (.update id target) (recordFailure id failure) :=
  modest.recordFailure (fun _ _ => tend fun _ => ⟨rfl, rfl, rfl, rfl⟩) (report visits) failure

theorem evaluateBinding (id : BindingId) (target : BindingTarget) (binding : Binding) :
    Enactable host bound (.update id target) (evaluateBinding id binding) := by
  refine modest.evaluateBinding fun callee context =>
    scope (fun other own => ⟨target, ?_⟩) (visits _ (.call callee context))
  unfold Binding.listener? at own
  split at own
  · cases own
    rfl
  · cases own

/-- What an interceptor makes of a value is stored in its property only. -/
theorem yielded (id : BindingId) {ref : PropertyRef} {property : Property} {flags : WriteFlags}
    (keeps : flags.keep = true) (value : Native) :
    Enactable host bound (.yielding id ref)
      (storeNative ref property value flags : Attempt PropertyError σ Unit).run := by
  refine sequential.storeNative (fun _ _ _ => visits _ _) ?_ (fun _ _ => ?stored) value
  case stored => exact store visits (.yielding id ref) _ _ _ _
  rw [Engine.relieve, keeps]
  exact sequential.value ()

/-- The write of a record that has got its new field. -/
theorem writeRecord {id : BindingId} {target : BindingTarget} {field : Nat}
    (aims : target.field? = some field) {ref : PropertyRef} {current changed : Record}
    {number : Float} {flags : WriteFlags} (keeps : flags.keep = true)
    (set : current.setField? field number = some changed) {world after : World σ}
    (peeked : world.graph.peek ref defaultAliasDepth = .ok (.record current))
    {outcome : Except PropertyError Unit}
    (run : (write ref (.record changed) flags).run (.within host bound) world =
      some (outcome, after)) :
    ∃ tale, Enacted host bound (.update id target)
      (write ref (.record changed) flags : Attempt PropertyError σ Unit).run world tale outcome
        after := by
  rcases ObjectGraph.parts_of_peek peeked with ⟨stored, resolved, holds⟩
  rcases write_leads flags resolved with ⟨error, steps⟩ | ⟨property, described, leads⟩
  · exact (Enacted.declined steps).any run
  by_cases unasked : flags.bypass = true ∨ world.graph.interceptor? stored = none
  · rcases storeNative_unbroken (.record changed) described keeps unasked
      with ⟨error, steps⟩ | unbroken
    · exact (Enacted.declined fun outside => (leads outside).trans (steps outside)).any run
    · have alive := ObjectGraph.isAlive_of_property described
      have same := fun outside => (leads outside).trans (unbroken outside)
      rw [same, store_eq _ alive, holds, Option.map_some, Option.getD_some] at run
      rcases Option.map_eq_some_iff.mp run with ⟨⟨_, last⟩, ran, ended⟩
      cases ended
      rcases announceChange visits _ _ _ _ _ _ _ ran with ⟨tale, told⟩
      exact ⟨_, .stores aims holds set alive same told⟩
  · rw [leads] at run
    rcases yielded visits id keeps _ _ _ _ run with ⟨tale, told⟩
    exact ⟨_, .intercepted (not_or.mp unasked).2 leads told⟩

theorem writeField {id : BindingId} {target : BindingTarget} {field : Nat}
    (aims : target.field? = some field) (ref : PropertyRef) (property : Property) (result : Boxed)
    {flags : WriteFlags} (keeps : flags.keep = true) :
    Enactable host bound (.update id target)
      (WriteBack.writeField ref property field result flags : WriteBack σ Unit).run := by
  refine sequential.attempt (modest.fieldNumber _) fun number => ?_
  -- the record is looked up in the world in which it is stored
  intro world outcome after run
  have peeks : Enacted host bound (.update id target)
      (WriteBack.access (Engine.peek ref) : WriteBack σ Native).run world []
      ((world.graph.peek ref defaultAliasDepth).mapError .ofProperty) world :=
    .rename _ (.look (fun graph => graph.peek ref defaultAliasDepth) _ world)
  rw [ExceptT.run_bind] at run ⊢
  refine peeks.onward run fun run => ?_
  cases peeked : world.graph.peek ref defaultAliasDepth with
  | error error =>
      rw [peeked] at run
      exact sequential.value _ _ _ _ run
  | ok value =>
      rw [peeked] at run
      cases value with
      | record current =>
          cases set : current.setField? field number with
          | none =>
              simp only [Except.mapError, set] at run ⊢
              exact sequential.fail _ _ _ _ run
          | some changed =>
              simp only [Except.mapError, set] at run ⊢
              rcases Option.bind_eq_some_iff.mp run with ⟨⟨written, last⟩, wrote, ended⟩
              cases ended
              rcases writeRecord visits aims keeps set peeked wrote with ⟨tale, told⟩
              exact ⟨tale, .rename (Except.mapError WriteError.ofProperty) told⟩
      | _ => exact sequential.perform sequential.seen (fun _ => sequential.fail _) _ _ _ run

/-- The result of a binding on a field is put there, and that of another as it is stored. -/
theorem storeResult (id : BindingId) (binding : Binding) (value : Boxed) (flags : WriteFlags) :
    Enactable host bound (.update id binding.target)
      (storeResult id binding value flags : WriteBack σ Unit).run := by
  refine sequential.attempt (sequential.adapt _ sequential.question) fun ref => ?_
  refine sequential.perform (sequential.found id) fun found => ?_
  cases aims : binding.target.field? with
  | some field =>
      refine sequential.attempt (sequential.adapt _ sequential.question) fun property => ?_
      exact writeField visits aims ref property value rfl
  | none =>
      intro world outcome after run
      rcases (furnished visits (.storage id)).writeBack _ _ _ _ _ _ _ run with ⟨tale, told⟩
      exact ⟨tale, .whole aims told⟩

theorem evaluation (id : BindingId) (binding : Binding) (flags : WriteFlags) :
    Enactable host bound (.update id binding.target) (evaluation id binding flags) := by
  refine sequential.bind (evaluateBinding visits id _ binding) fun result => ?_
  refine sequential.bind (tend fun _ => ⟨rfl, rfl, rfl, rfl⟩) fun _ => ?_
  refine sequential.bind sequential.seen fun graph => ?_
  split
  · exact modest.finishUpdate (recordFailure visits id _)
      (fun value => storeResult visits id binding value flags)
      (tend fun _ => ⟨rfl, rfl, rfl, rfl⟩) result
  · exact sequential.value ()

/-- What prompts an update can be told of with all that the update does. -/
theorem prompted {id : BindingId} {flags : WriteFlags} {operation : Engine σ Unit}
    {world called after : World σ} {prelude : List (Stage (World σ) Occurrence)}
    (prompts : Prompts id flags operation world prelude called)
    (run : operation (.within host bound) world = some ((), after)) :
    ∃ tale, Enacted host bound .code operation world tale () after := by
  have goes := prompts.calls (.within host bound)
  cases opens : called.opens id with
  | true =>
      rcases World.found_of_opens opens with ⟨binding, found, _⟩
      rw [goes, update_opened _ found opens] at run
      rcases Option.bind_eq_some_iff.mp run with ⟨⟨_, middle⟩, evaluated, ended⟩
      rcases evaluation visits id binding flags _ _ _ evaluated with ⟨tale, told⟩
      have ending : Enactable (σ := σ) host bound .code
          (do Engine.settle id; Engine.releaseGraph) :=
        sequential.bind (settle id) fun _ => releaseGraph
      rcases ending _ _ _ ended with ⟨rest, toldRest⟩
      exact ⟨_, .opened prompts found opens told toldRest⟩
  | false =>
      rcases update_closed flags opens with steps | ⟨binding, refuses⟩
      · exact (Enacted.closed prompts opens steps).any run
      · rw [goes, refuses] at run
        have reports : Enactable (σ := σ) host bound .code (keepingGraph (reportLoop binding)) := by
          refine sequential.bind (Enactable.change _ fun _ => .of_bindings rfl rfl rfl) fun _ =>
            sequential.bind ?_ fun _ => sequential.bind releaseGraph fun _ => sequential.value _
          unfold reportLoop
          split
          · exact sequential.bind sequential.seen fun _ => report visits _ _
          · exact sequential.value ()
        rcases reports _ _ _ run with ⟨tale, told⟩
        exact ⟨_, .refused prompts opens refuses told⟩

theorem update (id : BindingId) (flags : WriteFlags) :
    Enactable host bound .code (update id flags) :=
  fun world _ _ run => prompted visits (.update world) run

theorem setEnabled (id : BindingId) (enabled : Bool) (flags? : Option WriteFlags) :
    Enactable host bound .code (setEnabled id enabled flags?) := by
  intro world result after run
  cases found : world.bindings[id]? with
  | none =>
      have told : Enacted host bound .code (Engine.setEnabled id enabled flags?) world [] ()
          world := by
        refine .sequence (.seek id .code world) ?_
        rw [found]
        exact .value .code _ world
      exact told.any run
  | some binding =>
      by_cases permitted : enabled = true → binding.retired = false
      · by_cases unmoved : flags?.isSome = true → enabled = true → binding.enabled = true
        · exact (Enacted.switch found permitted unmoved).any run
        · have turns : ∃ flags, flags? = some flags ∧ enabled = true ∧ binding.enabled = false := by
            cases flags? <;> simp_all
          rcases turns with ⟨flags, rfl, rfl, disabled⟩
          exact prompted visits (.enable found (permitted rfl) disabled) run
      · have denied : enabled = true ∧ binding.retired = true := by simpa using permitted
        rcases denied with ⟨rfl, retired⟩
        exact (Enacted.denied found retired).any run

theorem reportPending (id : BindingId) : Enactable host bound .code (reportPending id) := by
  intro world result after run
  refine (Enacted.seek id .code world).onward run fun run => ?_
  cases present : world.bindings[id]? with
  | none =>
      rw [present] at run
      exact sequential.value _ _ _ _ run
  | some binding =>
      rw [present] at run
      cases waits : binding.unreported? with
      | none =>
          simp only [waits] at run ⊢
          exact sequential.value _ _ _ _ run
      | some failure =>
          simp only [waits] at run ⊢
          refine (Enacted.acknowledge .code present waits).onward run fun run => ?_
          refine sequential.bind (report visits _ _) (fun _ => ?_) _ _ _ run
          exact sequential.value true

omit visits in
theorem create (classId : ClassId) (name? : Option String) :
    Enactable (σ := σ) host bound .code (create classId name?) :=
  fun world _ _ run => (Enacted.create .code classId name? world).any run

theorem destroy (id : ObjectId) : Enactable host bound .code (destroy id) := by
  intro world result after run
  cases removed : world.graph.remove? id with
  | some pair =>
      rw [destroy_eq _ removed] at run
      rcases Option.map_eq_some_iff.mp run with ⟨⟨_, ending⟩, ran, same⟩
      cases same
      rcases sequential.retireAll (retire visits) _ _ _ _ ran with ⟨tale, told⟩
      exact ⟨_, .destroy removed told⟩
  | none =>
      have told : Enacted host bound .code (Engine.destroy id) world [] false world := by
        refine .sequence (.look (fun graph => graph) .code world) ?_
        rw [removed]
        exact .value .code _ world
      exact told.any run

/-- What is done for bindings can be told of everything of which dealings are made. -/
theorem comprehensive : Comprehensive (σ := σ) (Enactable host bound .code) where
  toFurnished := furnished visits .code
  visit := visits .code
  create := create
  destroy := destroy visits
  setAlias := setAlias
  retainGraph := Enactable.change _ fun _ => .of_bindings rfl rfl rfl
  releaseGraph := releaseGraph
  update := update visits
  setEnabled := setEnabled visits
  reportPending := reportPending visits
  file := file
  scope _ _ other inner := scope (fun id own => absurd own (other id)) inner
  subscribe _ _ :=
    sequential.bind sequential.get fun _ =>
      sequential.bind (modifyChannels _) fun _ => sequential.value _
  unsubscribe id := by
    refine sequential.bind sequential.get fun world => ?_
    split
    · exact modifyChannels _
    · exact sequential.value ()

end Visits

/-- Foreign code can be told of at every depth, whoever asks it. -/
theorem visits (obeys : host.Obeys Dealing) (bound : Nat) (hand : Hand) (query : Query) :
    Enactable host bound hand (foreign query.step) := by
  intro world result after run
  refine Query.within_induction (fun bound visits query world result after run hand => ?_)
    bound query world result after run hand
  have asked : ∀ hand (query : Query), Enactable host bound hand (foreign query.step) :=
    fun hand query world result after run => visits query world result after run hand
  rcases (comprehensive asked).answer obeys query _ _ _ run with ⟨tale, told⟩
  exact ⟨tale, .visit hand told⟩

end Enactable

/-- Every run with foreign code that deals with the engine can be told by what is done in it. -/
theorem Dealing.enacted (obeys : host.Obeys Dealing) {operation : Engine σ α}
    (dealing : Dealing operation) {world after : World σ} {result : α}
    (run : runWithin bound host operation world = some (result, after)) :
    ∃ tale, Enacted host bound .code operation world tale result after :=
  (Enactable.comprehensive (Enactable.visits obeys bound)).dealing dealing _ _ _ run

end Engine

end PropertyBinding

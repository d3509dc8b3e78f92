import PropertyBinding.Proofs.Dealings
import PropertyBinding.Proofs.Depositing
import PropertyBinding.Proofs.Office
import PropertyBinding.Proofs.Trails

namespace PropertyBinding

/-!
# Who hands a place over

A run can be told by what becomes of writers in it.  A writer is attached to a place, and
one that was there before goes; writers are taken from their places by a detachment, a
write that is not to keep them, or the destruction of their object; and each that has gone
is retired.  A foreign writer may do anything when it is retired, attach itself again for
instance, while others are still waiting for that.  `Handed` follows the way operations are
put together, so all this stands between its retirement and that of the next one.

Nothing but these operations touches the writers of an object, and nothing else marks a
binding as retired; `Spares` says so of everything that goes untold.
-/

/-- Why writers are taken from their places. -/
inductive Cause where
  | detach (place : Place)
  | write (ref : PropertyRef)
  | destroy (id : ObjectId)

/-- What happens to a writer. -/
inductive Handover where
  /-- A writer is attached to a place, in the place of the one before it. -/
  | attaches (place : Place) (writer : Writer) (former? : Option Writer)
  /-- Some writers are taken from their places. -/
  | removes (cause : Cause) (taken : List (Place × Writer))
  | retires (writer : Writer)
  /-- The object graph goes with all its objects; no writer is told. -/
  | vanishes
  | other

namespace Object

/-- The writers of an object and their places, as far as a test of their slots allows. -/
def posts (object : Object) (id : ObjectId) (test : WriterSlot → Bool) :
    List (Place × Writer) :=
  (object.writers.keep test).toList.map fun entry => (⟨id, entry.1⟩, entry.2)

/-- The writers in some posts are those in their order. -/
theorem map_snd_posts (object : Object) (id : ObjectId) (test : WriterSlot → Bool) :
    (object.posts id test).map Prod.snd = (object.writers.keep test).values := by
  rw [posts, List.map_map]
  rfl

end Object

variable {σ : Type}

/-- Whether a later world has the same objects, and nobody is retired anew. -/
structure Untaken (world later : World σ) : Prop where
  graph : later.graph = world.graph
  retired : ∀ id, later.isRetired id = true → world.isRetired id = true

namespace World

/-- The writer of a place is taken from it. -/
def detached (world : World σ) (place : Place) : World σ :=
  { world with
    graph := world.graph.update place.object fun object =>
      { object with writers := object.writers.drop place.slot } }

/-- An object is gone, and the graph without it is left. -/
def without (world : World σ) (id : ObjectId) (graph : ObjectGraph) : World σ :=
  { world with graph := graph, channels := world.channels.removeObject id }

/-- All objects are gone. -/
def vanished (world : World σ) : World σ :=
  { world with
    graph := .empty world.graph.schema
    channels := world.channels.removeProperties }

end World

namespace Engine

variable {α β : Type} {host : Host σ} {bound : Nat}

/--
Whether a run of an operation with the code of a host, from a world to another and with a
result, goes through some stages.  The retirement of writers that have gone is told by that
of each in turn.
-/
inductive Handed (host : Host σ) : {α : Type} → Nat → Option (List Writer) → Engine σ α →
    World σ → List (Stage (World σ) Handover) → α → World σ → Prop
  | value {α : Type} {bound : Nat} (result : α) (world : World σ) :
      Handed host bound none (pure result) world [] result world
  | get {bound : Nat} (world : World σ) : Handed host bound none get world [] world world
  | change {bound : Nat} {change : World σ → World σ}
      (untaken : ∀ world : World σ, Untaken world (change world)) (world : World σ) :
      Handed host bound none (modify change) world [⟨world, .other⟩] () (change world)
  | arrange {bound : Nat} (id : ObjectId) {change : Object → Object}
      (kept : ∀ object : Object, (change object).writers = object.writers) (world : World σ) :
      Handed host bound none (modifyGraph fun graph => graph.update id change) world
        [⟨world, .other⟩] () { world with graph := world.graph.update id change }
  | create {bound : Nat} (classId : ClassId) (name? : Option String) (world : World σ) :
      Handed host bound none (create classId name?) world [⟨world, .other⟩]
        (world.graph.create classId name?).1
        { world with graph := (world.graph.create classId name?).2 }
  | setAlias {bound : Nat} {ref target : PropertyRef} {changed : ObjectGraph} {world : World σ}
      (points : world.graph.setAlias ref target = .ok changed) :
      Handed host bound none (setAlias ref target : Attempt PropertyError σ Unit).run world
        [⟨world, .other⟩] (.ok ()) { world with graph := changed }
  | vanish {bound : Nat} (world : World σ) :
      Handed host bound none (modify World.vanished) world [⟨world, .vanishes⟩] () world.vanished
  | sequence {α β : Type} {bound : Nat} {operation : Engine σ α} {next : α → Engine σ β}
      {world middle after : World σ} {tale rest : List (Stage (World σ) Handover)} {result : α}
      {final : β} (first : Handed host bound none operation world tale result middle)
      (second : Handed host bound none (next result) middle rest final after) :
      Handed host bound none (operation >>= next) world (tale ++ rest) final after
  /-- Foreign code is told by the code of the host one level below. -/
  | visit {bound : Nat} {query : Query} {world after : World σ}
      {tale : List (Stage (World σ) Handover)} {result : query.Result}
      (told : Handed host bound none (query.answer host) world tale result after) :
      Handed host (bound + 1) none (foreign query.step) world tale result after
  | done {bound : Nat} (world : World σ) :
      Handed host bound (some []) (retireAll []) world [] () world
  | retire {bound : Nat} {id : BindingId} {others : List Writer} {world after : World σ}
      {rest : List (Stage (World σ) Handover)}
      (later : Handed host bound (some others) (retireAll others) (world.ended id) rest ()
        after) :
      Handed host bound (some (.binding id :: others)) (retireAll (.binding id :: others)) world
        (⟨world, .retires (.binding id)⟩ :: rest) () after
  | retireForeign {bound : Nat} {id : HostId} {others : List Writer}
      {world middle after : World σ} {tale rest : List (Stage (World σ) Handover)}
      (told : Handed host bound none (foreign (Query.retire id).step) world tale () middle)
      (later : Handed host bound (some others) (retireAll others) middle rest () after) :
      Handed host bound (some (.host id :: others)) (retireAll (.host id :: others)) world
        (⟨world, .retires (.host id)⟩ :: tale ++ rest) () after
  | attach {bound : Nat} {id : ObjectId} {slot : WriterSlot} {writer : Writer}
      {world after : World σ} {tale : List (Stage (World σ) Handover)}
      (alive : world.graph.isAlive id = true)
      (told : Handed host bound (some (world.graph.writer? id slot).toList)
        (retireAll (world.graph.writer? id slot).toList) (seated world ⟨id, slot⟩ writer) tale ()
        after) :
      Handed host bound none (attach id slot writer : Attempt PropertyError σ Unit).run world
        (⟨world, .attaches ⟨id, slot⟩ writer (world.graph.writer? id slot)⟩ :: tale) (.ok ()) after
  | detach {bound : Nat} {id : ObjectId} {slot : WriterSlot} {writer : Writer}
      {world after : World σ} {tale : List (Stage (World σ) Handover)}
      (present : world.graph.writer? id slot = some writer)
      (told : Handed host bound (some [writer]) (retireAll [writer])
        (world.detached ⟨id, slot⟩) tale () after) :
      Handed host bound none (detach id slot) world
        (⟨world, .removes (.detach ⟨id, slot⟩) [(⟨id, slot⟩, writer)]⟩ :: tale) true after
  | relieve {bound : Nat} {ref : PropertyRef} {flags : WriteFlags} {object : Object}
      {world after : World σ} {tale : List (Stage (World σ) Handover)}
      (replaces : flags.keep = false) (living : world.graph.object? ref.object = some object)
      (told : Handed host bound (some (object.writersOf ref.index))
        (retireAll (object.writersOf ref.index)) (world.withoutWritersOf ref) tale () after) :
      Handed host bound none (relieve ref flags) world
        (⟨world, .removes (.write ref)
          (object.posts ref.object fun slot => slot.index = ref.index)⟩ :: tale) () after
  | destroy {bound : Nat} {id : ObjectId} {object : Object} {graph : ObjectGraph}
      {world after : World σ} {tale : List (Stage (World σ) Handover)}
      (removed : world.graph.remove? id = some (object, graph))
      (told : Handed host bound (some object.writers.values) (retireAll object.writers.values)
        (world.without id graph) tale () after) :
      Handed host bound none (destroy id) world
        (⟨world, .removes (.destroy id) (object.posts id fun _ => true)⟩ :: tale) true after

/-! ## Operations in parts -/

section Parts

variable (outside : Outside σ) {world : World σ}

theorem setAlias_eq {ref target : PropertyRef} {changed : ObjectGraph}
    (points : world.graph.setAlias ref target = .ok changed) :
    (setAlias ref target : Attempt PropertyError σ Unit).run outside world =
      some (.ok (), { world with graph := changed }) := by
  have asked : (Attempt.ask fun graph => graph.setAlias ref target :
      Attempt PropertyError σ ObjectGraph).run outside world = some (.ok changed, world) := by
    rw [← points]
    rfl
  rw [setAlias, ExceptT.run_bind, apply_bind, asked]
  rfl

theorem attach_eq {id : ObjectId} {slot : WriterSlot} {writer : Writer}
    (alive : world.graph.isAlive id = true) :
    (attach id slot writer : Attempt PropertyError σ Unit).run outside world =
      (retireAll (world.graph.writer? id slot).toList outside
        (seated world ⟨id, slot⟩ writer)).map fun out => (.ok (), out.2) := by
  show (if world.graph.isAlive id = true then
      Attempt.perform (do
        modifyGraph fun graph => graph.update id fun object =>
          { object with writers := object.writers.put slot writer }
        retireAll (world.graph.writer? id slot).toList)
    else throw (.destroyed id) : Attempt PropertyError σ Unit).run outside world = _
  rw [if_pos alive, Option.map_eq_bind]
  rfl

theorem detach_eq {id : ObjectId} {slot : WriterSlot} {writer : Writer}
    (present : world.graph.writer? id slot = some writer) :
    detach id slot outside world =
      (retireAll [writer] outside (world.detached ⟨id, slot⟩)).map fun out => (true, out.2) := by
  simp only [detach, apply_bind, apply_graph, Option.bind_some, present, apply_modifyGraph,
    retireAll, Option.map_eq_bind, Option.bind_assoc]
  rfl

theorem relieve_eq {ref : PropertyRef} {flags : WriteFlags} {object : Object}
    (replaces : flags.keep = false) (living : world.graph.object? ref.object = some object) :
    relieve ref flags outside world =
      retireAll (object.writersOf ref.index) outside (world.withoutWritersOf ref) := by
  rw [relieve, replaces]
  simp only [Bool.false_eq_true, if_false, removeWriters, apply_bind, apply_graph,
    Option.bind_some, living, apply_modifyGraph]
  rfl

theorem destroy_eq {id : ObjectId} {object : Object} {graph : ObjectGraph}
    (removed : world.graph.remove? id = some (object, graph)) :
    destroy id outside world =
      (retireAll object.writers.values outside (world.without id graph)).map
        fun out => (true, out.2) := by
  simp only [destroy, apply_bind, apply_graph, Option.bind_some, removed, apply_modifyGraph,
    apply_modifyChannels, Option.map_eq_bind]
  rfl

end Parts

/-- What is told of a run leads to where the run leads. -/
theorem Handed.run {doing : Option (List Writer)} {operation : Engine σ α}
    {world after : World σ} {tale : List (Stage (World σ) Handover)} {result : α}
    (told : Handed host bound doing operation world tale result after) :
    operation (.within host bound) world = some (result, after) := by
  induction told with
  | value | get | change | arrange | create | vanish | done => rfl
  | setAlias points => exact setAlias_eq _ points
  | sequence _ _ first second =>
      rw [apply_bind, first]
      exact second
  | visit _ inner => exact (Query.step_within host _ _ _).trans inner
  | @retire _ id others world after rest _ later =>
      rw [retireAll, apply_bind, Engine.retire, retireBinding_steps world id]
      exact later
  | retireForeign _ _ first later =>
      rw [retireAll, apply_bind]
      exact (congrArg (Option.bind · _) first).trans later
  | attach alive _ inner => rw [attach_eq _ alive, inner, Option.map_some]
  | detach present _ inner => rw [detach_eq _ present, inner, Option.map_some]
  | relieve replaces living _ inner => rw [relieve_eq _ replaces living, inner]
  | destroy removed _ inner => rw [destroy_eq _ removed, inner, Option.map_some]

/-- There is nothing to tell of a question about the graph. -/
theorem Handed.look (question : ObjectGraph → β) (bound : Nat) (world : World σ) :
    Handed host bound none (question <$> graph) world [] (question world.graph) world := by
  have sees : Handed host bound none graph world [] world.graph world := by
    show Handed host bound none (MonadState.get >>= fun world => pure world.graph) world
      ([] ++ []) _ _
    exact .sequence (.get world) (.value _ world)
  show Handed host bound none (graph >>= fun graph => pure (question graph)) world ([] ++ []) _ _
  exact .sequence sees (.value _ world)

/-! ## What there is to tell -/

/-- Whether what each run of an operation does can be told. -/
def Handable (host : Host σ) (bound : Nat) (operation : Engine σ α) : Prop :=
  ∀ world result after, operation (.within host bound) world = some (result, after) →
    ∃ tale, Handed host bound none operation world tale result after

namespace Handable

theorem sequential : Sequential (σ := σ) (Handable host bound) := by
  refine .of_runs (fun result world => ⟨_, .value result world⟩) (fun world => ⟨_, .get world⟩) ?_
  rintro _ _ _ _ _ _ _ _ _ ⟨tale, told⟩ ⟨later, toldRest⟩
  exact ⟨_, .sequence told toldRest⟩

theorem change {change : World σ → World σ}
    (untaken : ∀ world : World σ, Untaken world (change world)) :
    Handable host bound (modify change) := by
  intro world _ _ run
  cases run
  exact ⟨_, .change untaken world⟩

theorem unmoved (change : World σ → World σ)
    (same : ∀ world : World σ, Unmoved world (change world)) :
    Handable host bound (modify change) :=
  Handable.change fun world => ⟨(same world).graph, (same world).retired⟩

theorem modifyChannels (change : Channels → Channels) :
    Handable (σ := σ) host bound (modifyChannels change) :=
  Handable.change fun _ => ⟨rfl, fun _ kept => kept⟩

theorem setAlias (ref target : PropertyRef) :
    Handable host bound (setAlias ref target : Attempt PropertyError σ Unit).run := by
  intro world result after run
  cases points : world.graph.setAlias ref target with
  | ok changed =>
      rw [setAlias_eq _ points] at run
      cases run
      exact ⟨_, .setAlias points⟩
  | error error =>
      have asked : Handed host bound none (Attempt.ask fun graph => graph.setAlias ref target :
          Attempt PropertyError σ ObjectGraph).run world [] (.error error) world :=
        points ▸ .look (fun graph => graph.setAlias ref target) bound world
      have told : Handed host bound none (Engine.setAlias ref target :
          Attempt PropertyError σ Unit).run world [] (.error error) world := by
        rw [Engine.setAlias, ExceptT.run_bind]
        exact .sequence asked (.value _ world)
      rw [told.run] at run
      cases run
      exact ⟨_, told⟩

section Visits

variable (visits : ∀ query : Query, Handable host bound (foreign query.step))
include visits

theorem callAll (subscribers : List Subscriber) : Handable host bound (callAll subscribers) := by
  induction subscribers with
  | nil => exact sequential.value ()
  | cons subscriber rest step => exact sequential.bind (visits (.announce _)) fun _ => step

theorem announce (source : Source) : Handable host bound (announce source) :=
  sequential.bind sequential.get fun _ => sequential.bind (modifyChannels _) fun _ =>
    sequential.bind (callAll visits _) fun _ => modifyChannels _

theorem assignNotifier (id : NotifierId) (value : Value) :
    Handable host bound (assignNotifier id value) := by
  refine sequential.bind sequential.get fun world => ?_
  split
  · exact sequential.value ()
  · exact sequential.bind (Handable.change fun _ => ⟨rfl, fun _ kept => kept⟩) fun _ =>
      announce visits _

theorem retireAll (writers : List Writer) {world after : World σ}
    (run : retireAll writers (.within host bound) world = some ((), after)) :
    ∃ tale, Handed host bound (some writers) (retireAll writers) world tale () after := by
  induction writers generalizing world with
  | nil =>
      cases run
      exact ⟨[], .done _⟩
  | cons writer others ih =>
      rcases runs_of_bind run with ⟨_, middle, retired, rest⟩
      rcases ih rest with ⟨later, told⟩
      cases writer with
      | binding id =>
          rw [Engine.retire, retireBinding_steps] at retired
          cases retired
          exact ⟨_, .retire told⟩
      | host id =>
          rcases visits (.retire id) _ _ _ retired with ⟨tale, first⟩
          exact ⟨_, .retireForeign first told⟩

theorem attach (id : ObjectId) (slot : WriterSlot) (writer : Writer) :
    Handable host bound (attach id slot writer : Attempt PropertyError σ Unit).run := by
  intro world result after run
  cases alive : world.graph.isAlive id with
  | true =>
      rw [attach_eq _ alive] at run
      rcases Option.map_eq_some_iff.mp run with ⟨⟨_, ending⟩, ran, same⟩
      cases same
      rcases retireAll visits _ ran with ⟨tale, told⟩
      exact ⟨_, .attach alive told⟩
  | false =>
      have told : Handed host bound none (Engine.attach id slot writer :
          Attempt PropertyError σ Unit).run world [] (.error (.destroyed id)) world := by
        rw [Engine.attach, ExceptT.run_bind]
        refine .sequence (.look Except.ok bound world) ?_
        dsimp only
        rw [if_neg (by simp [alive])]
        exact .value _ world
      rw [told.run] at run
      cases run
      exact ⟨_, told⟩

theorem detach (id : ObjectId) (slot : WriterSlot) : Handable host bound (detach id slot) := by
  intro world result after run
  cases present : world.graph.writer? id slot with
  | some writer =>
      rw [detach_eq _ present] at run
      rcases Option.map_eq_some_iff.mp run with ⟨⟨_, ending⟩, ran, same⟩
      cases same
      rcases retireAll visits _ ran with ⟨tale, told⟩
      exact ⟨_, .detach present told⟩
  | none =>
      have told : Handed host bound none (Engine.detach id slot) world [] false world := by
        refine .sequence (.look (fun graph => graph) bound world) ?_
        rw [present]
        exact .value _ world
      rw [told.run] at run
      cases run
      exact ⟨_, told⟩

theorem relieve (ref : PropertyRef) (flags : WriteFlags) :
    Handable host bound (relieve ref flags) := by
  intro world result after run
  cases replaces : flags.keep with
  | true =>
      have told : Handed host bound none (Engine.relieve ref flags) world [] () world := by
        rw [Engine.relieve, if_pos replaces]
        exact .value _ world
      rw [told.run] at run
      cases run
      exact ⟨_, told⟩
  | false =>
      cases living : world.graph.object? ref.object with
      | some object =>
          rw [relieve_eq _ replaces living] at run
          rcases retireAll visits _ run with ⟨tale, told⟩
          exact ⟨_, .relieve replaces living told⟩
      | none =>
          have told : Handed host bound none (Engine.relieve ref flags) world [] () world := by
            rw [Engine.relieve, if_neg (by simp [replaces])]
            refine .sequence (.look (fun graph => graph) bound world) ?_
            rw [living]
            exact .value _ world
          rw [told.run] at run
          cases run
          exact ⟨_, told⟩

theorem destroy (id : ObjectId) : Handable host bound (destroy id) := by
  intro world result after run
  cases removed : world.graph.remove? id with
  | some pair =>
      rw [destroy_eq _ removed] at run
      rcases Option.map_eq_some_iff.mp run with ⟨⟨_, ending⟩, ran, same⟩
      cases same
      rcases retireAll visits _ ran with ⟨tale, told⟩
      exact ⟨_, .destroy removed told⟩
  | none =>
      have told : Handed host bound none (Engine.destroy id) world [] false world := by
        refine .sequence (.look (fun graph => graph) bound world) ?_
        rw [removed]
        exact .value _ world
      rw [told.run] at run
      cases run
      exact ⟨_, told⟩

/-- What writers go through can be told of whatever leaves them to these operations. -/
theorem liberal : Liberal (σ := σ) (Handable host bound) where
  toSequential := sequential
  unmoved := unmoved
  visit := visits
  arrange id _ kept := by
    intro world _ _ run
    cases run
    exact ⟨_, .arrange id kept world⟩
  create classId name? := by
    intro world _ _ run
    cases run
    exact ⟨_, .create classId name? world⟩
  destroy := destroy visits
  vanish := by
    intro world _ _ run
    cases run
    exact ⟨_, .vanish world⟩
  setAlias := setAlias
  relieve := relieve visits
  attach := attach visits
  detach := detach visits
  subscribe _ _ :=
    sequential.bind sequential.get fun _ =>
      sequential.bind (modifyChannels _) fun _ => sequential.value _
  giveUp _ := modifyChannels _
  announce := announce visits
  createNotifier _ _ :=
    sequential.bind sequential.get fun _ =>
      sequential.bind (Handable.change fun _ => ⟨rfl, fun _ kept => kept⟩) fun _ =>
        sequential.value _
  assignNotifier := assignNotifier visits

end Visits

/-- Foreign code can be told of at every depth. -/
theorem visits (obeys : host.Obeys Dealing) (bound : Nat) (query : Query) :
    Handable host bound (foreign query.step) := by
  intro world result after run
  refine Query.within_induction (fun bound visits query world result after run => ?_)
    bound query world result after run
  rcases (liberal visits).comprehensive.answer obeys query _ _ _ run with ⟨tale, told⟩
  exact ⟨tale, .visit told⟩

end Handable

/-- Every run with foreign code that deals with the engine can be told by its handovers. -/
theorem Dealing.handed (obeys : host.Obeys Dealing) {operation : Engine σ α}
    (dealing : Dealing operation) {world after : World σ} {result : α}
    (run : runWithin bound host operation world = some (result, after)) :
    ∃ tale, Handed host bound none operation world tale result after :=
  (Handable.liberal (Handable.visits obeys bound)).comprehensive.dealing dealing _ _ _ run

end Engine

end PropertyBinding

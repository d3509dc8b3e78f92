import PropertyBinding.Proofs.Dealings
import PropertyBinding.Proofs.Trails

namespace PropertyBinding

/-!
# Who is told of changes

A run can be told by what becomes of subscriptions and notifiers in it.  Somebody
subscribes, a subscription is given up, the channels of a dead object go, a notifier is
made or given a value, and an announcement calls its subscribers one after the other.
`Posted` follows the way operations are put together: the calls of an announcement stand
between its beginning and its end, everything that a subscriber does stands after its call,
and a notifier whose value changes announces that before the assignment returns.
-/

/-- What happens to a subscription, an announcement or a notifier. -/
inductive Notice where
  | subscribes (source : Source) (subscriber : Subscriber)
  /-- Somebody gives up one hold on each of some subscriptions. -/
  | drops (ids : List SubscriptionId)
  /-- The channels of the properties of an object go, or those of all properties. -/
  | closes (object? : Option ObjectId)
  | creates (id : NotifierId) (value : Value)
  /-- A notifier is given a value that equals the one it has. -/
  | keeps (id : NotifierId) (value : Value)
  /-- A notifier is given another value than the one it has. -/
  | sets (id : NotifierId) (value : Value)
  /-- The assignment that gave a notifier another value is over. -/
  | returns (id : NotifierId)
  /-- An announcement begins that is going to call some subscribers. -/
  | emits (source : Source) (called : List Subscriber)
  | calls (subscriber : Subscriber)
  /-- An announcement is over. -/
  | ends (called : List Subscriber)
  | other

namespace Channels

/-- Whether a channel goes with an object, or with all of them. -/
def goesWith : Option ObjectId → Source → Bool
  | some id => isPropertyOf id
  | none => isProperty

/-- Removes the channels that go with an object, or with all of them. -/
def closing (channels : Channels) : Option ObjectId → Channels
  | some id => channels.removeObject id
  | none => channels.removeProperties

end Channels

variable {σ : Type}

/-- What foreign code cannot interrupt, as far as channels and notifiers are concerned. -/
inductive Deed : World σ → Notice → World σ → Prop
  | other {world later : World σ} (channels : later.channels = world.channels)
      (notifiers : later.notifiers = world.notifiers) : Deed world .other later
  | subscribe {world later : World σ} (source : Source) (callback : Callback)
      (channels : later.channels = (world.channels.subscribe source callback).2)
      (notifiers : later.notifiers = world.notifiers) :
      Deed world (.subscribes source ⟨world.channels.next, callback⟩) later
  | drop {world later : World σ} (ids : List SubscriptionId)
      (channels : later.channels = world.channels.releaseAll ids)
      (notifiers : later.notifiers = world.notifiers) : Deed world (.drops ids) later
  | close {world later : World σ} (object? : Option ObjectId)
      (channels : later.channels = world.channels.closing object?)
      (notifiers : later.notifiers = world.notifiers) : Deed world (.closes object?) later
  | create {world later : World σ} (label : String) (value : Value)
      (channels : later.channels = world.channels)
      (notifiers : later.notifiers = world.notifiers ++ [⟨label, value, 0⟩]) :
      Deed world (.creates world.notifiers.length value) later
  | keep {world : World σ} {id : NotifierId} {value : Value}
      (same : (world.notifiers[id]?).bind (·.assign? value) = none) :
      Deed world (.keeps id value) world

namespace World

/-- A notifier has another value. -/
def reset (world : World σ) (id : NotifierId) (notifier : Notifier) : World σ :=
  { world with notifiers := world.notifiers.set id notifier }

/-- An announcement has begun. -/
def calling (world : World σ) (source : Source) : World σ :=
  { world with channels := (world.channels.startAnnouncement source).2 }

/-- An announcement is over. -/
def called (world : World σ) (subscribers : List Subscriber) : World σ :=
  { world with channels := world.channels.releaseAll (subscribers.map (·.id)) }

end World

namespace Engine

variable {α β : Type} {host : Host σ} {bound : Nat}

/--
Whether a run of an operation with the code of a host, from a world to another and with a
result, goes through some stages.  An operation that calls the subscribers of an
announcement is told by its calls.
-/
inductive Posted (host : Host σ) : {α : Type} → Nat → Option (List Subscriber) → Engine σ α →
    World σ → List (Stage (World σ) Notice) → α → World σ → Prop
  | still {α : Type} {bound : Nat} {operation : Engine σ α} {world : World σ} {result : α}
      (steps : Steps operation world result world) :
      Posted host bound none operation world [] result world
  | deed {α : Type} {bound : Nat} {operation : Engine σ α} {world after : World σ}
      {notice : Notice} {result : α} (steps : Steps operation world result after)
      (deed : Deed world notice after) :
      Posted host bound none operation world [⟨world, notice⟩] result after
  | sequence {α β : Type} {bound : Nat} {operation : Engine σ α} {next : α → Engine σ β}
      {world middle after : World σ} {tale rest : List (Stage (World σ) Notice)} {result : α}
      {final : β} (first : Posted host bound none operation world tale result middle)
      (second : Posted host bound none (next result) middle rest final after) :
      Posted host bound none (operation >>= next) world (tale ++ rest) final after
  /-- Foreign code is told by the code of the host one level below. -/
  | visit {bound : Nat} {query : Query} {world after : World σ}
      {tale : List (Stage (World σ) Notice)} {result : query.Result}
      (told : Posted host bound none (query.answer host) world tale result after) :
      Posted host (bound + 1) none (foreign query.step) world tale result after
  | emission {bound : Nat} {source : Source} {world after : World σ}
      {tale : List (Stage (World σ) Notice)}
      (told : Posted host bound (some (world.channels.liveOf source))
        (callAll (world.channels.liveOf source)) (world.calling source) tale () after) :
      Posted host bound none (announce source) world
        (⟨world, .emits source (world.channels.liveOf source)⟩ :: tale ++
          [⟨after, .ends (world.channels.liveOf source)⟩])
        () (after.called (world.channels.liveOf source))
  | done (bound : Nat) (world : World σ) :
      Posted host bound (some []) (callAll []) world [] () world
  | call {bound : Nat} {subscriber : Subscriber} {others : List Subscriber}
      {world middle after : World σ} {tale rest : List (Stage (World σ) Notice)}
      (told : Posted host bound none (foreign (Query.announce subscriber.callback).step) world
        tale () middle)
      (later : Posted host bound (some others) (callAll others) middle rest () after) :
      Posted host bound (some (subscriber :: others)) (callAll (subscriber :: others)) world
        (⟨world, .calls subscriber⟩ :: tale ++ rest) () after
  /-- The assignment of another value to a notifier returns after the announcement of that. -/
  | set {bound : Nat} {id : NotifierId} {value : Value} {changed : Notifier}
      {world after : World σ} {tale : List (Stage (World σ) Notice)}
      (changes : (world.notifiers[id]?).bind (·.assign? value) = some changed)
      (told : Posted host bound (some (world.channels.liveOf (.notifier id)))
        (callAll (world.channels.liveOf (.notifier id)))
        ((world.reset id changed).calling (.notifier id)) tale () after) :
      Posted host bound none (assignNotifier id value) world
        (⟨world, .sets id value⟩ ::
          ⟨world.reset id changed, .emits (.notifier id) (world.channels.liveOf (.notifier id))⟩ ::
          tale ++ [⟨after, .ends (world.channels.liveOf (.notifier id))⟩,
            ⟨after.called (world.channels.liveOf (.notifier id)), .returns id⟩])
        () (after.called (world.channels.liveOf (.notifier id)))

/-- An announcement calls those who are live when it starts. -/
theorem announce_eq (source : Source) (outside : Outside σ) (world : World σ) :
    announce source outside world =
      (callAll (world.channels.liveOf source) outside (world.calling source)).map
        fun out => ((), out.2.called (world.channels.liveOf source)) := by
  rw [← Channels.fst_startAnnouncement]
  simp only [announce, apply_bind, apply_get, apply_modifyChannels, Option.bind_some,
    Option.map_eq_bind]
  rfl

theorem assignNotifier_eq {id : NotifierId} {value : Value} {changed : Notifier}
    {world : World σ} (changes : (world.notifiers[id]?).bind (·.assign? value) = some changed)
    (outside : Outside σ) :
    assignNotifier id value outside world =
      announce (.notifier id) outside (world.reset id changed) := by
  simp only [assignNotifier, apply_bind, apply_get, Option.bind_some, changes, apply_modify]
  rfl

/-- What is told of a run leads to where the run leads. -/
theorem Posted.run {doing : Option (List Subscriber)} {operation : Engine σ α}
    {world after : World σ} {tale : List (Stage (World σ) Notice)} {result : α}
    (told : Posted host bound doing operation world tale result after) :
    operation (.within host bound) world = some (result, after) := by
  induction told with
  | still steps => exact steps _
  | deed steps _ => exact steps _
  | sequence _ _ first second =>
      rw [apply_bind, first]
      exact second
  | visit _ inner => exact (Query.step_within host _ _ _).trans inner
  | emission _ inner => rw [announce_eq, inner, Option.map_some]
  | done => rfl
  | call _ _ first later =>
      rw [callAll, apply_bind]
      exact (congrArg (Option.bind · _) first).trans later
  | set changes _ inner =>
      rw [assignNotifier_eq changes, announce_eq]
      exact congrArg (Option.map _) inner

/-- What can happen from one stage to the next. -/
inductive Stride : World σ → Notice → World σ → Prop
  | deed {world later : World σ} {notice : Notice} (deed : Deed world notice later) :
      Stride world notice later
  | sets {world : World σ} {id : NotifierId} {value : Value} {changed : Notifier}
      (changes : (world.notifiers[id]?).bind (·.assign? value) = some changed) :
      Stride world (.sets id value) (world.reset id changed)
  | returns (world : World σ) (id : NotifierId) : Stride world (.returns id) world
  | emits (world : World σ) (source : Source) :
      Stride world (.emits source (world.channels.liveOf source)) (world.calling source)
  | calls (world : World σ) (subscriber : Subscriber) : Stride world (.calls subscriber) world
  | ends (world : World σ) (called : List Subscriber) :
      Stride world (.ends called) (world.called called)

/-- What is told of a run goes from one stage to the next. -/
theorem Posted.trail {doing : Option (List Subscriber)} {operation : Engine σ α}
    {world after : World σ} {tale : List (Stage (World σ) Notice)} {result : α}
    (told : Posted host bound doing operation world tale result after) :
    Trail Stride world tale after := by
  induction told with
  | still | done => exact .stay _
  | deed _ deed => exact .one (.deed deed)
  | sequence _ _ first second => exact first.append second
  | visit _ inner => exact inner
  | emission _ inner => exact .step (.emits _ _) (inner.append (.one (.ends _ _)))
  | call _ _ first later => exact .step (.calls _ _) (first.append later)
  | set changes _ inner =>
      refine .step (.sets changes) (.step (.emits _ _) (inner.append ?_))
      exact .step (.ends _ _) (.one (.returns _ _))

/-! ## What there is to tell -/

/-- Whether what each run of an operation does can be told. -/
def Postable (host : Host σ) (bound : Nat) (operation : Engine σ α) : Prop :=
  ∀ world result after, operation (.within host bound) world = some (result, after) →
    ∃ tale, Posted host bound none operation world tale result after

namespace Postable

variable {operation : Engine σ α}

/-- Work without foreign code can be told if it is a deed. -/
theorem of_deed
    (works : ∀ world, ∃ result after notice, Steps operation world result after ∧
      Deed world notice after) : Postable host bound operation := by
  intro world result after run
  rcases works world with ⟨other, later, notice, steps, deed⟩
  rw [steps] at run
  cases run
  exact ⟨_, .deed steps deed⟩

theorem sequential : Sequential (σ := σ) (Postable host bound) := by
  refine .of_runs (fun _ _ => ⟨_, .still fun _ => rfl⟩) (fun _ => ⟨_, .still fun _ => rfl⟩) ?_
  rintro _ _ _ _ _ _ _ _ _ ⟨tale, told⟩ ⟨later, toldRest⟩
  exact ⟨_, .sequence told toldRest⟩

theorem modifyGraph (change : ObjectGraph → ObjectGraph) :
    Postable (σ := σ) host bound (modifyGraph change) :=
  of_deed fun _ => ⟨_, _, _, fun _ => rfl, .other rfl rfl⟩

theorem modifyBinding (id : BindingId) (change : Binding → Binding) :
    Postable (σ := σ) host bound (modifyBinding id change) :=
  of_deed fun _ => ⟨_, _, _, fun _ => rfl, .other rfl rfl⟩

theorem unmoved (change : World σ → World σ)
    (same : ∀ world : World σ, Unmoved world (change world)) :
    Postable host bound (modify change) :=
  of_deed fun world => ⟨_, _, _, fun _ => rfl, .other (same world).channels (same world).notifiers⟩

theorem releaseAll (ids : List SubscriptionId) :
    Postable (σ := σ) host bound (modifyChannels fun channels => channels.releaseAll ids) :=
  of_deed fun _ => ⟨_, _, _, fun _ => rfl, .drop ids rfl rfl⟩

section Visits

variable (visits : ∀ query : Query, Postable host bound (foreign query.step))
include visits

theorem callAll (called : List Subscriber) {world after : World σ}
    (run : callAll called (.within host bound) world = some ((), after)) :
    ∃ tale, Posted host bound (some called) (callAll called) world tale () after := by
  induction called generalizing world with
  | nil =>
      cases run
      exact ⟨[], .done bound _⟩
  | cons subscriber others ih =>
      rcases runs_of_bind run with ⟨_, middle, called, rest⟩
      rcases visits (.announce subscriber.callback) _ _ _ called with ⟨tale, told⟩
      rcases ih rest with ⟨later, toldRest⟩
      exact ⟨_, .call told toldRest⟩

theorem announce (source : Source) : Postable host bound (announce source) := by
  intro world result after run
  rw [announce_eq] at run
  rcases Option.map_eq_some_iff.mp run with ⟨⟨_, ending⟩, ran, same⟩
  cases same
  rcases callAll visits _ ran with ⟨tale, told⟩
  exact ⟨_, .emission told⟩

theorem assignNotifier (id : NotifierId) (value : Value) :
    Postable host bound (assignNotifier id value) := by
  intro world result after run
  cases changes : (world.notifiers[id]?).bind (·.assign? value) with
  | none =>
      have steps : Steps (Engine.assignNotifier id value) world () world := fun outside => by
        simp only [Engine.assignNotifier, apply_bind, apply_get, Option.bind_some, changes,
          apply_pure]
      rw [steps] at run
      cases run
      exact ⟨_, .deed steps (.keep changes)⟩
  | some changed =>
      rw [assignNotifier_eq changes, announce_eq] at run
      rcases Option.map_eq_some_iff.mp run with ⟨⟨_, ending⟩, ran, same⟩
      cases same
      rcases callAll visits _ ran with ⟨tale, told⟩
      exact ⟨_, .set changes told⟩

theorem retire (writer : Writer) : Postable host bound (retire writer) := by
  have sequential : Sequential (σ := σ) (Postable host bound) := sequential
  cases writer with
  | binding id =>
      refine sequential.bind (modifyBinding _ _) fun _ => ?_
      refine sequential.bind (sequential.found id) fun found => ?_
      cases found with
      | none => exact sequential.value ()
      | some binding => exact sequential.bind (modifyBinding _ _) fun _ => releaseAll _
  | host id => exact visits (.retire id)

theorem destroy (id : ObjectId) : Postable host bound (destroy id) := by
  have sequential : Sequential (σ := σ) (Postable host bound) := sequential
  refine sequential.bind sequential.seen fun graph => ?_
  split
  · exact sequential.value false
  · refine sequential.bind (modifyGraph _) fun _ => sequential.bind ?_ fun _ =>
      sequential.bind (sequential.retireAll (retire visits) _) fun _ => sequential.value true
    exact of_deed fun _ => ⟨_, _, _, fun _ => rfl, .close (some id) rfl rfl⟩

/-- What subscriptions and notifiers go through can be told of whatever leaves them to these. -/
theorem liberal : Liberal (σ := σ) (Postable host bound) := by
  have sequential : Sequential (σ := σ) (Postable host bound) := sequential
  have arrange : ∀ id change, (∀ object : Object, (change object).cells = object.cells) →
      Postable host bound (Engine.modifyGraph fun graph => graph.update id change) :=
    fun _ _ _ => modifyGraph _
  exact {
    toSequential := sequential
    unmoved := unmoved
    visit := visits
    arrange := fun _ _ _ => modifyGraph _
    create := fun _ _ =>
      sequential.bind sequential.seen fun _ =>
        sequential.bind (modifyGraph _) fun _ => sequential.value _
    destroy := destroy visits
    vanish := of_deed fun _ => ⟨_, _, _, fun _ => rfl, .close none rfl rfl⟩
    setAlias := fun _ _ =>
      sequential.attempt sequential.question fun _ => sequential.done (modifyGraph _)
    relieve := fun ref =>
      sequential.relieve (sequential.removeWriters arrange (retire visits) ref)
    attach := sequential.attach arrange (retire visits)
    detach := sequential.detach arrange (retire visits)
    subscribe := fun source callback =>
      of_deed fun _ => ⟨_, _, _, fun _ => rfl, .subscribe source callback rfl rfl⟩
    giveUp := releaseAll
    announce := announce visits
    createNotifier := fun label value =>
      of_deed fun _ => ⟨_, _, _, fun _ => rfl, .create label value rfl rfl⟩
    assignNotifier := assignNotifier visits }

end Visits

/-- Foreign code can be told of at every depth. -/
theorem visits (obeys : host.Obeys Dealing) (bound : Nat) (query : Query) :
    Postable host bound (foreign query.step) := by
  intro world result after run
  refine Query.within_induction (fun bound visits query world result after run => ?_)
    bound query world result after run
  rcases (liberal visits).comprehensive.answer obeys query _ _ _ run with ⟨tale, told⟩
  exact ⟨tale, .visit told⟩

end Postable

/-- Every run with foreign code that deals with the engine can be told by its notices. -/
theorem Dealing.posted (obeys : host.Obeys Dealing) {operation : Engine σ α}
    (dealing : Dealing operation) {world after : World σ} {result : α}
    (run : runWithin bound host operation world = some (result, after)) :
    ∃ tale, Posted host bound none operation world tale result after :=
  (Postable.liberal (Postable.visits obeys bound)).comprehensive.dealing dealing _ _ _ run

end Engine

end PropertyBinding

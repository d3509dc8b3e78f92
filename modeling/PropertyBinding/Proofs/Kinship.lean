import PropertyBinding.Proofs.Capture

namespace PropertyBinding

/-!
# Worlds without code from outside

A world is closed when nothing but its bindings reacts to anything: there are no
interceptors, no other subscribers or writers, and no handlers.  All that a
closed world goes through while an operation runs has the same objects, aliases
and bindings, and the same bindings in the middle of an update.  `Kin` says so
of two worlds, and `Within` says of an operation that it ends and stays among
the kin of a world.
-/

/-- How the expression of a binding is called. -/
def Binding.call (binding : Binding) : Script.CallContext :=
  ⟨binding.context.scope, binding.this?, binding.arguments⟩

/-- Whether a function is one that an update of a binding may evaluate. -/
def Binding.MayCall (binding : Binding) (callee : Function) : Prop :=
  match binding.expression, binding.compiled? with
  | .function known, _ => callee = known
  | .source _, some (.ok known) => callee = known
  | .source _, some (.error _) => False
  | .source source, none =>
      ∃ compiled identity, source.compile = .ok compiled ∧ callee = compiled.function identity

/-- Whether a binding evaluates what it evaluated before, and is as far in an update as before. -/
structure Binding.Continues (former binding : Binding) : Prop where
  updating : binding.updating = former.updating
  call : binding.call = former.call
  mayCall : ∀ callee, binding.MayCall callee → former.MayCall callee

theorem Binding.Continues.trans {first second third : Binding} (left : first.Continues second)
    (right : second.Continues third) : first.Continues third :=
  ⟨right.updating.trans left.updating, right.call.trans left.call,
    fun callee may => left.mayCall callee (right.mayCall callee may)⟩

namespace Channels

variable {channels : Channels} {source other : Source} {subscriber : Subscriber}

theorem mem_subscribersOf_of_mem_liveOf (member : subscriber ∈ channels.liveOf source) :
    subscriber ∈ channels.subscribersOf source :=
  (List.mem_filter.mp member).1

theorem subscribersOf_subscribe (channels : Channels) (source other : Source) (callback : Callback) :
    (channels.subscribe source callback).2.subscribersOf other =
      if source = other then channels.liveOf source ++ [⟨channels.next, callback⟩]
      else channels.subscribersOf other := by
  simp only [subscribe, subscribersOf, Entries.get?_put]
  split <;> rfl

theorem subscribersOf_startAnnouncement (channels : Channels) (source other : Source) :
    (channels.startAnnouncement source).2.subscribersOf other =
      if source = other then channels.liveOf source else channels.subscribersOf other := by
  unfold startAnnouncement
  split
  · next missing =>
    split
    · next same =>
      subst same
      simp [liveOf, subscribersOf, missing]
    · rfl
  · simp only [subscribersOf, Entries.get?_put]
    split <;> rfl

/-- Whoever subscribed to a source comes from before, or is the new one. -/
theorem mem_subscribe {callback : Callback}
    (member : subscriber ∈ (channels.subscribe source callback).2.subscribersOf other) :
    subscriber ∈ channels.subscribersOf other ∨
      other = source ∧ subscriber = ⟨channels.next, callback⟩ := by
  rw [subscribersOf_subscribe] at member
  split at member
  · next same =>
    subst same
    rcases List.mem_append.mp member with old | new
    · exact .inl (mem_subscribersOf_of_mem_liveOf old)
    · exact .inr ⟨rfl, List.mem_singleton.mp new⟩
  · exact .inl member

/-- Only those who are not live any more may leave when somebody subscribes. -/
theorem subscribe_of_live (live : subscriber ∈ channels.liveOf other) (source : Source)
    (callback : Callback) :
    subscriber ∈ (channels.subscribe source callback).2.subscribersOf other := by
  rw [subscribersOf_subscribe]
  split
  · next same => exact List.mem_append_left _ (same ▸ live)
  · exact mem_subscribersOf_of_mem_liveOf live

theorem subscribe_self (channels : Channels) (source : Source) (callback : Callback) :
    ⟨channels.next, callback⟩ ∈ (channels.subscribe source callback).2.subscribersOf source := by
  rw [subscribersOf_subscribe, if_pos rfl]
  exact List.mem_append_right _ List.mem_cons_self

theorem mem_startAnnouncement
    (member : subscriber ∈ (channels.startAnnouncement source).2.subscribersOf other) :
    subscriber ∈ channels.subscribersOf other := by
  rw [subscribersOf_startAnnouncement] at member
  split at member
  · next same => exact same ▸ mem_subscribersOf_of_mem_liveOf member
  · exact member

theorem fst_startAnnouncement (channels : Channels) (source : Source) :
    (channels.startAnnouncement source).1 = channels.liveOf source := by
  unfold startAnnouncement
  split
  · next missing => simp [liveOf, subscribersOf, missing]
  · rfl

@[simp] theorem subscribersOf_releaseAll (channels : Channels) (ids : List SubscriptionId)
    (source : Source) : (channels.releaseAll ids).subscribersOf source = channels.subscribersOf source := by
  induction ids generalizing channels with
  | nil => rfl
  | cons id rest step => exact step (channels.release id)

/-- Whether only bindings subscribe. -/
def Closed (channels : Channels) : Prop :=
  ∀ source, ∀ subscriber ∈ channels.subscribersOf source, ∃ id, subscriber.callback = .binding id

theorem Closed.subscribe (closed : channels.Closed) (source : Source) (id : BindingId) :
    (channels.subscribe source (.binding id)).2.Closed := by
  intro other subscriber member
  rcases mem_subscribe member with old | ⟨_, rfl⟩
  · exact closed other subscriber old
  · exact ⟨id, rfl⟩

theorem Closed.startAnnouncement (closed : channels.Closed) (source : Source) :
    (channels.startAnnouncement source).2.Closed :=
  fun other subscriber member => closed other subscriber (mem_startAnnouncement member)

theorem Closed.releaseAll (closed : channels.Closed) (ids : List SubscriptionId) :
    (channels.releaseAll ids).Closed := by
  intro source subscriber member
  rw [subscribersOf_releaseAll] at member
  exact closed source subscriber member

end Channels

/-- Whether nothing in a graph but bindings reacts to writes. -/
structure ObjectGraph.Closed (graph : ObjectGraph) : Prop where
  interceptors : ∀ ref, graph.interceptor? ref = none
  writers : ∀ id object, graph.object? id = some object →
    ∀ writer ∈ object.writers.values, ∃ binding, writer = .binding binding

/-- A change that installs no interceptor and attaches no writer keeps a graph closed. -/
theorem ObjectGraph.Closed.update {graph : ObjectGraph} (closed : graph.Closed) (id : ObjectId)
    {change : Object → Object}
    (interceptors : ∀ object, (change object).interceptors = object.interceptors)
    (writers : ∀ object, ∀ writer ∈ (change object).writers.values,
      writer ∈ object.writers.values ∨ ∃ binding, writer = .binding binding) :
    (graph.update id change).Closed := by
  constructor
  · intro ref
    have former := closed.interceptors ref
    unfold interceptor? at former ⊢
    rw [object?_update]
    split
    · next same =>
      subst same
      cases found : graph.object? ref.object with
      | none => rfl
      | some object => simpa [found, interceptors] using former
    · exact former
  · intro other object found writer member
    rw [object?_update] at found
    split at found
    · next same =>
      subst same
      rcases Option.map_eq_some_iff.mp found with ⟨former, old, rfl⟩
      rcases writers former writer member with kept | new
      · exact closed.writers _ former old writer kept
      · exact new
    · exact closed.writers _ object found writer member

theorem ObjectGraph.Closed.setCell {graph : ObjectGraph} (closed : graph.Closed)
    (ref : PropertyRef) (cell : Cell) : (graph.setCell ref cell).Closed :=
  closed.update _ (fun _ => rfl) fun _ _ member => .inl member

/-- Whether nothing in a world but its bindings reacts to anything. -/
structure World.Closed {σ : Type} (world : World σ) : Prop where
  graph : world.graph.Closed
  channels : world.channels.Closed
  handlers : ∀ diagnostics ∈ world.diagnostics, diagnostics.handler? = none

/-- What an operation on a closed world keeps of it. -/
structure Kin {σ : Type} (start world : World σ) : Prop where
  holders : world.graphHolders = start.graphHolders
  shape : start.graph.SameShape world.graph
  closed : world.Closed
  count : world.bindings.length = start.bindings.length
  bindings : ∀ (id : BindingId) binding, world.bindings[id]? = some binding →
    ∃ former, start.bindings[id]? = some former ∧ former.Continues binding

namespace Kin

variable {σ : Type} {start world : World σ}

theorem refl (closed : world.Closed) : Kin world world :=
  ⟨rfl, .refl _, closed, rfl, fun _ binding found => ⟨binding, found, rfl, rfl, fun _ may => may⟩⟩

/-- Only the graph, the channels, the bindings, the diagnostics and the holders count. -/
theorem congr {other : World σ} (kin : Kin start world) (holders : other.graphHolders = world.graphHolders)
    (graph : other.graph = world.graph) (channels : other.channels = world.channels)
    (diagnostics : other.diagnostics = world.diagnostics)
    (bindings : other.bindings = world.bindings) : Kin start other := by
  refine ⟨holders.trans kin.holders, graph ▸ kin.shape, ⟨?_, ?_, ?_⟩, ?_, ?_⟩
  · exact graph ▸ kin.closed.graph
  · exact channels ▸ kin.closed.channels
  · exact diagnostics ▸ kin.closed.handlers
  · exact bindings ▸ kin.count
  · exact bindings ▸ kin.bindings

theorem withGraph {graph : ObjectGraph} (kin : Kin start world)
    (shape : world.graph.SameShape graph) (closed : graph.Closed) :
    Kin start { world with graph := graph } :=
  ⟨kin.holders, kin.shape.trans shape, ⟨closed, kin.closed.channels, kin.closed.handlers⟩,
    kin.count, kin.bindings⟩

theorem withChannels {channels : Channels} (kin : Kin start world) (closed : channels.Closed) :
    Kin start { world with channels := channels } :=
  ⟨kin.holders, kin.shape, ⟨kin.closed.graph, closed, kin.closed.handlers⟩, kin.count,
    kin.bindings⟩

/-- A change of one binding that keeps what it may call, and whether it is being updated. -/
theorem modifyBinding (kin : Kin start world) (id : BindingId) {change : Binding → Binding}
    (continues : ∀ binding, world.bindings[id]? = some binding →
      binding.Continues (change binding)) :
    Kin start { world with bindings := world.bindings.modify id change } := by
  refine ⟨kin.holders, kin.shape, ⟨kin.closed.graph, kin.closed.channels, kin.closed.handlers⟩, ?_, ?_⟩
  · simpa using kin.count
  · intro other binding found
    simp only [List.getElem?_modify] at found
    rcases Option.map_eq_some_iff.mp found with ⟨old, present, rfl⟩
    rcases kin.bindings other old present with ⟨former, known, before⟩
    refine ⟨former, known, ?_⟩
    by_cases same : id = other
    · subst same
      simpa only [if_true] using before.trans (continues old present)
    · simpa only [same, if_false] using before

/-- A change of a binding's state leaves its expression alone. -/
theorem modifyState (kin : Kin start world) (id : BindingId) {change : Binding → Binding}
    (updating : ∀ binding, (change binding).updating = binding.updating)
    (context : ∀ binding, (change binding).context = binding.context)
    (this? : ∀ binding, (change binding).this? = binding.this?)
    (arguments : ∀ binding, (change binding).arguments = binding.arguments)
    (expression : ∀ binding, (change binding).expression = binding.expression)
    (compiled? : ∀ binding, (change binding).compiled? = binding.compiled?) :
    Kin start { world with bindings := world.bindings.modify id change } :=
  kin.modifyBinding id fun binding _ =>
    ⟨updating binding, by simp only [Binding.call, context, this?, arguments],
      fun callee may => by simpa only [Binding.MayCall, expression, compiled?] using may⟩

theorem follow (kin : Kin start world) (id : BindingId) (source : Source) :
    Kin start (world.follow id source) := by
  unfold World.follow
  split
  · exact kin
  · split
    · exact kin
    · have subscribed := kin.withChannels (kin.closed.channels.subscribe source id)
      exact subscribed.modifyState id (fun _ => rfl) (fun _ => rfl) (fun _ => rfl) (fun _ => rfl)
        (fun _ => rfl) (fun _ => rfl)

theorem capture (kin : Kin start world) (source : Source) : Kin start (world.capture source) := by
  unfold World.capture
  split
  · exact kin
  · exact kin.follow _ source
  · exact kin.congr rfl rfl rfl rfl rfl

theorem captureAll (kin : Kin start world) (sources : List Source) :
    Kin start (world.captureAll sources) := by
  induction sources generalizing world with
  | nil => exact kin
  | cons source rest step => exact step (kin.capture source)

end Kin

end PropertyBinding

import PropertyBinding.Proofs.Attention
import PropertyBinding.Proofs.Generations
import PropertyBinding.Proofs.Holding

namespace PropertyBinding

/-!
# Read-sets and subscriptions

A binding follows a source if and only if it is subscribed there, at every moment of a
run while nothing is announced; an announcement calls it then exactly once.  While
something is announced the announcement holds what it is going to call, so that dropped
subscriptions are still live; the frames of the announcements say which.  The channels
of an object go with the object, and a binding may still have edges to them.
-/

variable {σ : Type}

/-! ## What bindings follow -/

namespace World

variable {world : World σ} {id other : BindingId} {binding : Binding}

theorem readsOf_of_bindings {later : World σ} (same : later.bindings = world.bindings) :
    later.readsOf = world.readsOf := by
  funext id
  rw [readsOf, same, readsOf]

/-- A change of a binding other than its edges. -/
theorem readsOf_modify {change : Binding → Binding}
    (kept : ∀ binding, world.bindings[id]? = some binding →
      (change binding).reads = binding.reads) :
    World.readsOf { world with bindings := world.bindings.modify id change } other =
      world.readsOf other := by
  unfold readsOf
  rw [List.getElem?_modify]
  cases found : world.bindings[other]? with
  | none => rfl
  | some binding =>
      by_cases same : id = other
      · simp [same, kept binding (same ▸ found)]
      · simp [same]

/-- A binding that follows a new source, among others that do not. -/
theorem readsOf_insert {source : Source} {channels : Channels}
    (found : world.bindings[id]? = some binding)
    (new : binding.reads.contains source = false) {subscription : SubscriptionId} :
    World.readsOf { world with
      channels := channels
      bindings := world.bindings.modify id fun binding =>
        { binding with
          reads := (binding.reads.insert? ⟨source, subscription⟩).getD binding.reads } } other =
      if id = other then ⟨binding.reads.edges ++ [⟨source, subscription⟩]⟩
      else world.readsOf other := by
  unfold readsOf
  rw [List.getElem?_modify]
  by_cases same : id = other
  · subst same
    have inserted := ReadSet.insert?_new
      (show binding.reads.contains (Edge.mk source subscription).source = false from new)
    simp [found, inserted]
  · cases world.bindings[other]? <;> simp [same]

/-- A new binding follows nothing, as if it were not there. -/
theorem readsOf_append (fresh : binding.Pristine) :
    World.readsOf { world with bindings := world.bindings ++ [binding] } other =
      world.readsOf other := by
  unfold readsOf
  rw [List.getElem?_append]
  split
  · rfl
  · next beyond =>
    rw [List.getElem?_eq_none (Nat.le_of_not_lt beyond)]
    cases place : other - world.bindings.length with
    | zero => simp [fresh.reads]
    | succ place => simp

/-- The subscriptions of all edges are those of all bindings. -/
theorem mem_subscriptions {edge : Edge} (member : edge ∈ (world.readsOf id).edges) :
    edge.subscription ∈ world.subscriptions := by
  unfold readsOf at member
  cases found : world.bindings[id]? with
  | none =>
      rw [found] at member
      cases member
  | some binding =>
      rw [found] at member
      exact List.mem_flatMap.mpr
        ⟨binding, List.mem_of_getElem? found, List.mem_map_of_mem member⟩

end World

/-! ## Edges and subscriptions in a run -/

/-- The subscriptions that an announcement holds. -/
def Frame.held : Frame → List SubscriptionId
  | .emission held => held
  | _ => []

/-- The subscriptions that the announcements hold that are going on. -/
def Scene.holding (scene : Scene σ) : List SubscriptionId :=
  scene.stack.flatMap Frame.held

/-- Whether edges and subscriptions belong to each other, after a part of a tale. -/
structure Paired (past : List (Moment σ)) (scene : Scene σ) : Prop where
  vacant : scene.world.graph.Vacant
  /-- What is followed is there, or was. -/
  known : ∀ id, ∀ edge ∈ (scene.world.readsOf id).edges, ∀ object signal,
    edge.source = .property object signal →
      scene.world.graph.isAlive object = true ∨ Gone past object
  dual : Dual (Lasts past scene.world) scene.world.readsOf scene.holding scene.world.channels

namespace Paired

variable {past : List (Moment σ)} {scene next : Scene σ} {event : Event}

theorem initial (schema : Schema) (state : σ) : Paired [] ⟨[], .initial schema state⟩ where
  vacant := .empty schema
  known id edge member := by cases member
  dual := .empty _

/-- With a move, objects may be gone that were there. -/
theorem fade (paired : Paired past scene) (event : Event) (next : World σ) :
    Dual (Lasts (past ++ [⟨scene, event⟩]) next) scene.world.readsOf scene.holding
      scene.world.channels := by
  refine paired.dual.weaken fun id edge member lasts object signal same => ?_
  have stays : ¬Gone past object := fun gone => (lasts object signal same).2 (gone.later _)
  exact ⟨(paired.known id edge member object signal same).resolve_right stays, stays⟩

/--
A move keeps edges and subscriptions together if it keeps the objects that it does not
tell of as gone.
-/
theorem follow (paired : Paired past scene) (vacant : next.world.graph.Vacant)
    (stays : ∀ object, scene.world.graph.isAlive object = true →
      next.world.graph.isAlive object = true ∨ Gone (past ++ [⟨scene, event⟩]) object)
    (known : ∀ id, ∀ edge ∈ (next.world.readsOf id).edges,
      edge ∈ (scene.world.readsOf id).edges ∨ ∀ object signal,
        edge.source = .property object signal → scene.world.graph.isAlive object = true)
    (dual : Dual (Lasts (past ++ [⟨scene, event⟩]) next.world) next.world.readsOf next.holding
      next.world.channels) : Paired (past ++ [⟨scene, event⟩]) next := by
  refine ⟨vacant, fun id edge member object signal same => ?_, dual⟩
  rcases known id edge member with old | alive
  · rcases paired.known id edge old object signal same with alive | gone
    · exact stays object alive
    · exact .inr (gone.later _)
  · exact stays object (alive object signal same)

/-- A move that leaves objects, edges and channels as they are. -/
theorem still (paired : Paired past scene) (graph : next.world.graph = scene.world.graph)
    (reads : next.world.readsOf = scene.world.readsOf) (holding : next.holding = scene.holding)
    (channels : next.world.channels = scene.world.channels) :
    Paired (past ++ [⟨scene, event⟩]) next := by
  have faded := paired.fade event next.world
  refine paired.follow (graph ▸ paired.vacant) (fun object alive => .inl ?_) ?_ ?_
  · rw [graph]
    exact alive
  · rw [reads]
    exact fun id edge member => .inl member
  · rw [reads, holding, channels]
    exact faded

/-- A binding that lets go of its edges gives up their subscriptions. -/
theorem letGo {stack stack' : List Frame} {world : World σ} (paired : Paired past ⟨stack, world⟩)
    (id : BindingId) (change : Binding → Binding)
    (holding : Scene.holding ⟨stack', world.letGo id change⟩ = Scene.holding ⟨stack, world⟩) :
    Paired (past ++ [⟨⟨stack, world⟩, event⟩]) ⟨stack', world.letGo id change⟩ := by
  have reads : (world.letGo id change).readsOf =
      fun other => if id = other then .empty else world.readsOf other :=
    funext fun other => World.readsOf_letGo
  refine paired.follow paired.vacant (fun object alive => .inl alive) ?_ ?_
  · rw [reads]
    intro other edge member
    dsimp only at member
    split at member
    · cases member
    · exact .inl member
  · rw [reads, holding]
    exact (paired.fade event (world.letGo id change)).letGo id

/-- A binding that is told of a source follows it from then on, if it has a use for that. -/
theorem read {stack : List Frame} {world : World σ} {source : Source}
    (paired : Paired past ⟨stack, world⟩)
    (present : ∀ object signal, source = .property object signal →
      world.graph.isAlive object = true) :
    Paired (past ++ [⟨⟨stack, world⟩, .reads source⟩]) ⟨stack, world.capture source⟩ := by
  unfold World.capture
  split
  · exact paired.still rfl rfl rfl rfl
  · next id collects =>
    unfold World.follow
    split
    · exact paired.still rfl rfl rfl rfl
    · next binding found =>
      split
      · exact paired.still rfl rfl rfl rfl
      · next useful =>
        rw [Bool.or_eq_true, not_or, Bool.not_eq_true, Bool.not_eq_true] at useful
        have follows : world.readsOf id = binding.reads := by
          rw [World.readsOf, found]
          rfl
        refine paired.follow paired.vacant (fun object alive => .inl alive) ?_ ?_
        · intro other edge member
          rw [World.readsOf_insert found useful.2] at member
          split at member
          · next same =>
            rw [← same, follows]
            rcases List.mem_append.mp member with old | new
            · exact .inl old
            · rw [List.mem_singleton.mp new]
              exact .inr present
          · exact .inl member
        · refine (paired.fade _ _).subscribe source (.binding id) (fun other edge => ?_)
            fun other => ?_
          · rw [World.readsOf_insert found useful.2]
            by_cases same : id = other
            · subst same
              rw [if_pos rfl, follows]
              simp [Channels.subscribe]
            · simp [same]
          · rw [World.readsOf_insert found useful.2]
            have before := paired.dual.once
            split
            · have distinct : binding.reads.sources.Nodup := follows ▸ before id
              show (List.map Edge.source (binding.reads.edges ++ [_])).Nodup
              rw [List.map_append]
              refine List.nodup_append.mpr ⟨distinct, by simp, ?_⟩
              rintro listed member new isNew rfl
              rw [List.mem_singleton.mp isNew] at member
              have known : binding.reads.contains source = true := List.contains_iff_mem.mpr member
              exact Bool.noConfusion (known.symm.trans useful.2)
            · exact before other
  · exact paired.still rfl rfl rfl rfl

/-- Work that foreign code cannot interrupt keeps edges and subscriptions together. -/
theorem act {stack : List Frame} {world later : World σ} (paired : Paired past ⟨stack, world⟩)
    (act : Act world event later) :
    Paired (past ++ [⟨⟨stack, world⟩, event⟩]) ⟨stack, later⟩ := by
  cases act with
  | beside same =>
      exact paired.still same.graph (World.readsOf_of_bindings same.bindings) rfl same.channels
  | object _ id change =>
      refine paired.follow (paired.vacant.update id change) (fun object alive => .inl ?_)
        (fun id edge member => .inl member) (paired.fade _ _)
      exact (ObjectGraph.isAlive_update change).trans alive
  | create _ classId name? =>
      refine paired.follow (paired.vacant.create classId name?) (fun object alive => .inl ?_)
        (fun id edge member => .inl member) (paired.fade _ _)
      exact ObjectGraph.isAlive_create paired.vacant classId name? alive
  | @destroy _ id object graph removed =>
      refine paired.follow (paired.vacant.remove removed) (fun other alive => ?_)
        (fun id edge member => .inl member) ?_
      · rcases ObjectGraph.isAlive_remove removed alive with rfl | stays
        · exact .inr (.now (.inl rfl))
        · exact .inl stays
      · refine (paired.fade _ _).prune rfl rfl fun source => ?_
        rw [Channels.subscribersOf_removeObject]
        split
        · next owned =>
          refine .inr ⟨rfl, fun lasts => ?_⟩
          cases source with
          | notifier => cases owned
          | property object signal =>
              have same : object = id := of_decide_eq_true owned
              exact (lasts object signal rfl).2 (same ▸ .now (.inl rfl))
        · exact .inl rfl
  | vanish =>
      refine paired.follow (.empty _) (fun object alive => .inr (.now (.inr rfl)))
        (fun id edge member => .inl member) ?_
      refine (paired.fade _ _).prune rfl rfl fun source => ?_
      rw [Channels.subscribersOf_removeProperties]
      split
      · next owned =>
        refine .inr ⟨rfl, fun lasts => ?_⟩
        cases source with
        | notifier => cases owned
        | property object signal => exact (lasts object signal rfl).2 (.now (.inr rfl))
      · exact .inl rfl
  | @tend _ id change tended =>
      refine paired.still rfl ?_ rfl rfl
      exact funext fun other =>
        World.readsOf_modify fun binding found => (tended binding found).reads
  | append fresh =>
      exact paired.still rfl (funext fun id => World.readsOf_append fresh) rfl rfl
  | read present => exact paired.read present
  | retire _ id => exact paired.letGo id _ rfl
  | drop unkept => exact paired.letGo _ _ rfl
  | subscribe _ source host =>
      refine paired.follow paired.vacant (fun object alive => .inl alive)
        (fun id edge member => .inl member) ?_
      refine (paired.fade _ _).subscribe source (.host host) (fun id edge => ?_) paired.dual.once
      exact ⟨.inl, fun either => either.resolve_right fun new => by cases new.1⟩
  | @unsubscribe _ subscription foreign =>
      refine paired.follow paired.vacant (fun object alive => .inl alive)
        (fun id edge member => .inl member) ?_
      refine (paired.fade _ _).release fun id edge member same => foreign ?_
      exact same ▸ World.mem_subscriptions member
  | @note failure plain _ id =>
      rcases world.noted_frame id failure with ⟨graph, channels, bindings, _⟩
      exact paired.still graph (World.readsOf_of_bindings bindings) rfl channels
  | @refuse _ id binding =>
      rcases world.noted_frame binding.context.diagnostics (binding.loopFailure world.graph)
        with ⟨graph, channels, bindings, _⟩
      exact paired.still graph (World.readsOf_of_bindings bindings) rfl channels

/-- Each move keeps edges and subscriptions together. -/
theorem move (paired : Paired past scene) (move : Move scene event next) :
    Paired (past ++ [⟨scene, event⟩]) next := by
  cases move with
  | act stack act => exact paired.act act
  | enter => exact paired.still rfl rfl rfl rfl
  | leave => exact paired.still rfl rfl rfl rfl
  | collect => exact paired.still rfl rfl rfl rfl
  | resume => exact paired.still rfl rfl rfl rfl
  | begin stack opens => exact paired.letGo _ _ rfl
  | finish stack world id =>
      refine paired.still rfl ?_ rfl rfl
      exact funext fun other => World.readsOf_modify fun _ _ => rfl
  | announce stack world source =>
      refine paired.follow paired.vacant (fun object alive => .inl alive)
        (fun id edge member => .inl member) ?_
      exact (paired.fade _ _).startAnnouncement source
  | announced stack world held =>
      refine paired.follow paired.vacant (fun object alive => .inl alive)
        (fun id edge member => .inl member) ?_
      exact (paired.fade _ _).endAnnouncement

end Paired

/-! ## Who is called -/

/-- Whether a stretch of a run begins with the call of a binding. -/
def Stretch.calls (id : BindingId) (stretch : Stretch σ) : Bool :=
  match stretch.visit? with
  | some ⟨.announce callback, _⟩ => decide (callback = .binding id)
  | _ => false

/-- How often a binding was called in a run that has come to a world with its trace beside it. -/
def World.calls (world : World (σ × Trace σ)) (id : BindingId) : Nat :=
  (world.trace.stretches world.untraced).countP (Stretch.calls id)

namespace Engine

variable {outside : Outside σ} {id : BindingId}

variable {host : Host σ} {bound : Nat} {α : Type} {operation : Engine σ α} {state : σ}
  {schema : Schema} {result : α} {after : World σ}

end Engine

end PropertyBinding

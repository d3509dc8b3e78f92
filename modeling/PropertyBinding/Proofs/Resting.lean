import PropertyBinding.Proofs.Settling
import PropertyBinding.Proofs.WellFormed

namespace PropertyBinding

/-!
# Worlds at rest

A world is ready when bindings have been made on a graph without aliases and
interceptors, each for a property of its own, and nothing else has happened.
What a family of lawful bindings makes of it later is sound: it has the shape
of the start, and its edges, writers and marks are those that the bindings left.
It rests when all enabled bindings are settled, except for some that are stale.

A change that starts at some level shows above that level only: whatever ranks
no higher is the same before and after.
-/

/-- Whether a binding has been made for a property and no more. -/
structure Binding.Fresh {σ : Type} (start : World σ) (binding : Binding) : Prop where
  whole : binding.target.field? = none
  described : ∃ property, start.graph.property binding.target.property = .ok property
  chosen : ∃ strategy, start.adapters[binding.adapter]? = some (some strategy)
  notifies : binding.notifyOnChange = true
  disabled : binding.enabled = false
  idle : binding.updating = false
  active : binding.retired = false
  unread : binding.reads = .empty
  unfailed : binding.pending? = none
  named : 0 < binding.holders

/-- Whether a world has bindings on the properties of a plain graph and nothing has happened yet. -/
structure World.Ready {σ : Type} (start : World σ) : Prop where
  holders : 0 < start.graphHolders
  formed : start.graph.WellFormed
  direct : ∀ ref property, start.graph.property ref = .ok property → property.isAlias = false
  interceptors : ∀ ref, start.graph.interceptor? ref = none
  writers : ∀ id object, start.graph.object? id = some object → object.writers = .empty
  subscribers : ∀ source, start.channels.subscribersOf source = []
  handlers : ∀ diagnostics ∈ start.diagnostics, diagnostics.handler? = none
  bindings : ∀ (id : BindingId) binding, start.bindings[id]? = some binding → binding.Fresh start
  distinct : ∀ (first second : BindingId) binding other, start.bindings[first]? = some binding →
    start.bindings[second]? = some other → binding.target.property = other.target.property →
      first = second

/-- Whether a property is nobody's target. -/
def World.Free {σ : Type} (start : World σ) (ref : PropertyRef) : Prop :=
  ∀ (id : BindingId) binding, start.bindings[id]? = some binding → binding.target.property ≠ ref

open Engine in
/-- A binding that is made for a property of its own leaves a world ready. -/
theorem createBinding_ready {σ : Type} {foreign : Surroundings σ} {start : World σ} (ready : start.Ready)
    {ref : PropertyRef} {property : Property} (described : start.graph.property ref = .ok property)
    (free : start.Free ref) (context : BindingContext) (expression : BindingExpression)
    {options : BindingOptions} (notifies : options.notifyOnChange = true) :
    Leads foreign (createBinding context ⟨ref, none⟩ expression options).run start
      fun result after => result = .ok start.bindings.length ∧ after.Ready ∧
        ∃ binding, after.bindings = start.bindings ++ [binding] ∧
          binding.target = ⟨ref, none⟩ ∧ binding.expression = expression := by
  refine .ask (fun found there => ?_) fun error missing => ?_
  · rw [described] at there
    cases there
    have direct := ready.direct ref property described
    refine .of_steps (fun _ => rfl) ⟨rfl, ?_, _, rfl, rfl, rfl⟩
    -- a binding of the new world is an old one or the new one
    have places : ∀ {made : Binding} {id : BindingId} {binding : Binding},
        (start.bindings ++ [made])[id]? = some binding →
          start.bindings[id]? = some binding ∨ id = start.bindings.length ∧ binding = made := by
      intro made id binding present
      by_cases old : id < start.bindings.length
      · rw [List.getElem?_append_left old] at present
        exact .inl present
      · rw [List.getElem?_append_right (Nat.le_of_not_lt old)] at present
        rcases List.getElem?_eq_some_iff.mp present with ⟨inRange, same⟩
        have last : id - start.bindings.length = 0 := Nat.lt_one_iff.mp inRange
        have le : id ≤ start.bindings.length := Nat.le_of_sub_eq_zero last
        refine .inr ⟨Nat.le_antisymm le (Nat.le_of_not_lt old), ?_⟩
        simpa [last] using same.symm
    refine ⟨ready.holders, ready.formed, ready.direct, ready.interceptors, ready.writers,
      ready.subscribers, ready.handlers, ?_, ?_⟩
    · intro id binding present
      rcases places present with old | ⟨_, rfl⟩
      · have fresh := ready.bindings id binding old
        rcases fresh.chosen with ⟨strategy, known⟩
        have inRange := (List.getElem?_eq_some_iff.mp known).1
        exact { fresh with chosen := ⟨strategy, (List.getElem?_append_left inRange).trans known⟩ }
      · refine ⟨rfl, ⟨property, described⟩, ?_, notifies, rfl, rfl, rfl, rfl, rfl, Nat.one_pos⟩
        cases declared : options.declaredType? with
        | some type => exact ⟨.ofType type, by simp⟩
        | none => exact ⟨.ofType property.type, by simp [direct]⟩
    · intro first second binding other present present' same
      rcases places present with old | ⟨here, rfl⟩
      · rcases places present' with old' | ⟨_, rfl⟩
        · exact ready.distinct first second binding other old old' same
        · exact absurd same (free first binding old)
      · rcases places present' with old' | ⟨here', rfl⟩
        · exact absurd same.symm (free second other old')
        · exact here.trans here'.symm
  · rw [described] at missing
    cases missing

/-- Whether a binding still is the one that was made. -/
structure Binding.Persists (former binding : Binding) : Prop where
  target : binding.target = former.target
  call : binding.call = former.call
  adapter : binding.adapter = former.adapter
  notifies : binding.notifyOnChange = former.notifyOnChange
  retired : binding.retired = former.retired
  holders : binding.holders = former.holders
  mayFind : ∀ function, binding.MayFind function → former.MayFind function

theorem Binding.Persists.mayCall {former binding : Binding} (persists : former.Persists binding)
    (callee : Function) (may : binding.MayCall callee) : former.MayCall callee :=
  persists.mayFind (.ok callee) may

theorem Binding.Persists.refl (binding : Binding) : binding.Persists binding :=
  ⟨rfl, rfl, rfl, rfl, rfl, rfl, fun _ may => may⟩

theorem Binding.Persists.trans {first second third : Binding} (left : first.Persists second)
    (right : second.Persists third) : first.Persists third :=
  ⟨right.target.trans left.target, right.call.trans left.call, right.adapter.trans left.adapter,
    right.notifies.trans left.notifies, right.retired.trans left.retired,
    right.holders.trans left.holders, fun function may => left.mayFind function (right.mayFind function may)⟩

theorem Binding.Persists.level {former binding : Binding} (persists : former.Persists binding)
    (rank : PropertyRef → Nat) : binding.level rank = former.level rank := by
  rw [Binding.level, persists.target, Binding.level]

/-- Whether a graph is the one of the start with other values in its cells and some bindings attached. -/
structure ObjectGraph.Sound {σ : Type} (start : World σ) (graph : ObjectGraph) : Prop where
  shape : start.graph.SameShape graph
  interceptors : ∀ ref, graph.interceptor? ref = none
  cells : ∀ ref property, start.graph.property ref = .ok property →
    ∃ cell, graph.cell? ref = some cell
  writers : ∀ id object, graph.object? id = some object → ∀ entry ∈ object.writers.toList,
    ∃ (writer : BindingId) (binding : Binding), entry.2 = .binding writer ∧
      start.bindings[writer]? = some binding ∧ binding.target = ⟨⟨id, entry.1.index⟩, entry.1.field?⟩

/-- Whether a world is what updates of the bindings have made of the start. -/
structure Sound {σ : Type} (start : World σ) (rank : PropertyRef → Nat) (frames : List BindingId)
    (held : List SubscriptionId) (world : World σ) : Prop where
  holders : 0 < world.graphHolders
  graph : world.graph.Sound start
  adapters : world.adapters = start.adapters
  handlers : ∀ diagnostics ∈ world.diagnostics, diagnostics.handler? = none
  count : world.bindings.length = start.bindings.length
  persists : ∀ (id : BindingId) binding, world.bindings[id]? = some binding →
    ∃ former, start.bindings[id]? = some former ∧ former.Persists binding
  updating : ∀ (id : BindingId) binding, world.bindings[id]? = some binding →
    (binding.updating = true ↔ id ∈ frames)
  failures : ∀ (id : BindingId) binding, world.bindings[id]? = some binding →
    ∀ failure, binding.error? = some failure → failure.kind ≠ .bindingLoop
  warnings : ∀ failure, .failure failure ∈ world.warnings → failure.kind = .bindingLoop →
    .failure failure ∈ start.warnings
  wired : world.Wired rank held

/-- Whether a world is sound and all its enabled bindings are settled, but for some. -/
structure Resting {σ : Type} (host : Host σ) (start : World σ) (rank : PropertyRef → Nat)
    (frames : List BindingId) (held : List SubscriptionId) (stale : BindingId → Prop)
    (world : World σ) : Prop where
  sound : Sound start rank frames held world
  settled : ∀ (id : BindingId) binding, world.bindings[id]? = some binding →
    binding.enabled = true → ¬stale id → Settled host world binding

/-- Whether all expressions of a family of bindings are lawful. -/
def LawfulFamily {σ : Type} (host : Host σ) (start : World σ) (rank : PropertyRef → Nat) : Prop :=
  ∀ (id : BindingId) binding, start.bindings[id]? = some binding →
    ∀ callee, binding.MayCall callee → LawfulFunction host start rank binding callee

/-- What a binding may call is as lawful as it was when the binding was made. -/
theorem LawfulFamily.persists {σ : Type} {host : Host σ} {start : World σ}
    {rank : PropertyRef → Nat} (lawful : LawfulFamily host start rank) {id : BindingId}
    {former binding : Binding} (known : start.bindings[id]? = some former)
    (persists : former.Persists binding) (callee : Function) (may : binding.MayCall callee) :
    LawfulFunction host start rank former callee :=
  lawful id former known callee (persists.mayCall callee may)

/-- Whether two worlds differ only in what ranks above a level. -/
structure ChangesAbove {σ : Type} (rank : PropertyRef → Nat) (level : Nat) (world after : World σ) :
    Prop where
  holders : after.graphHolders = world.graphHolders
  notifiers : after.notifiers = world.notifiers
  cells : ∀ ref, rank ref < level → after.graph.cell? ref = world.graph.cell? ref
  bindings : ∀ (id : BindingId) binding, world.bindings[id]? = some binding →
    binding.level rank ≤ level → after.bindings[id]? = some binding
  enabled : ∀ (id : BindingId) binding, world.bindings[id]? = some binding →
    ∃ changed, after.bindings[id]? = some changed ∧ changed.target = binding.target ∧
      changed.enabled = binding.enabled

namespace ChangesAbove

variable {σ : Type} {rank : PropertyRef → Nat} {level : Nat} {world middle after : World σ}

theorem of_same (holders : after.graphHolders = world.graphHolders)
    (notifiers : after.notifiers = world.notifiers) (graph : after.graph = world.graph)
    (bindings : after.bindings = world.bindings) : ChangesAbove rank level world after :=
  ⟨holders, notifiers, fun _ _ => by rw [graph], fun _ _ found _ => bindings ▸ found,
    fun _ binding found => ⟨binding, bindings ▸ found, rfl, rfl⟩⟩

theorem refl (rank : PropertyRef → Nat) (level : Nat) (world : World σ) :
    ChangesAbove rank level world world :=
  .of_same rfl rfl rfl rfl

/-- A change of one binding shows where that binding ranks. -/
theorem of_modify {id : BindingId} {binding : Binding} {change : Binding → Binding}
    (found : world.bindings[id]? = some binding) (high : level < binding.level rank)
    (target : (change binding).target = binding.target)
    (enabled : (change binding).enabled = binding.enabled)
    (holders : after.graphHolders = world.graphHolders)
    (notifiers : after.notifiers = world.notifiers) (graph : after.graph = world.graph)
    (bindings : after.bindings = world.bindings.modify id change) :
    ChangesAbove rank level world after := by
  refine ⟨holders, notifiers, fun _ _ => by rw [graph], ?_, ?_⟩
  · intro other former present low
    have different : id ≠ other := by
      rintro rfl
      rw [found] at present
      cases present
      omega
    rw [bindings]
    simpa [List.getElem?_modify, different] using present
  · intro other former present
    rw [bindings, List.getElem?_modify, present]
    by_cases same : id = other
    · subst same
      rw [found] at present
      cases present
      exact ⟨change binding, by simp, target, enabled⟩
    · exact ⟨former, by simp [same], rfl, rfl⟩

/-- A stored cell shows where its property ranks. -/
theorem of_setCell {ref : PropertyRef} (high : level ≤ rank ref) (cell : Cell) :
    ChangesAbove rank level world { world with graph := world.graph.setCell ref cell } := by
  refine ⟨rfl, rfl, ?_, fun _ _ found _ => found, fun _ binding found => ⟨binding, found, rfl, rfl⟩⟩
  intro other low
  have different : ref ≠ other := by
    rintro rfl
    omega
  rw [ObjectGraph.cell?_setCell_ne _ different]

theorem trans (first : ChangesAbove rank level world middle)
    (second : ChangesAbove rank level middle after) : ChangesAbove rank level world after := by
  refine ⟨second.holders.trans first.holders, second.notifiers.trans first.notifiers, ?_, ?_, ?_⟩
  · exact fun ref low => (second.cells ref low).trans (first.cells ref low)
  · exact fun id binding found low => second.bindings id binding (first.bindings id binding found low) low
  · intro id binding found
    rcases first.enabled id binding found with ⟨changed, present, target, same⟩
    rcases second.enabled id changed present with ⟨changed', present', target', same'⟩
    exact ⟨changed', present', target'.trans target, same'.trans same⟩

theorem lower {low : Nat} (above : ChangesAbove rank level world after) (le : low ≤ level) :
    ChangesAbove rank low world after :=
  ⟨above.holders, above.notifiers, fun ref below => above.cells ref (Nat.lt_of_lt_of_le below le),
    fun id binding found below => above.bindings id binding found (Nat.le_trans below le),
    above.enabled⟩

/-- What ranks no higher has the value that it had. -/
theorem valueOf? (above : ChangesAbove rank level world after) {source : Source}
    (low : source.level rank ≤ level) : after.valueOf? source = world.valueOf? source := by
  cases source with
  | property object signal =>
      have same := above.cells ⟨object, signal⟩ (by simp only [Source.level] at low; omega)
      rw [World.valueOf?, World.valueOf?, same]
  | notifier id => rw [World.valueOf?, World.valueOf?, above.notifiers]

end ChangesAbove

/-! ## What keeps a graph sound -/

namespace ObjectGraph.Sound

variable {σ : Type} {start : World σ} {graph : ObjectGraph}

theorem property (sound : graph.Sound start) (ref : PropertyRef) :
    graph.property ref = start.graph.property ref :=
  (sound.shape.property ref).symm

/-- A change of an object that keeps its class, its cells and its interceptors, and attaches rightly. -/
theorem update (sound : graph.Sound start) (id : ObjectId) {change : Object → Object}
    (shape : graph.SameShape (graph.update id change))
    (interceptors : ∀ object, (change object).interceptors = object.interceptors)
    (cells : ∀ ref cell, graph.cell? ref = some cell →
      ∃ cell', (graph.update id change).cell? ref = some cell')
    (writers : ∀ object, ∀ entry ∈ (change object).writers.toList, entry ∈ object.writers.toList ∨
      ∃ (writer : BindingId) (binding : Binding), entry.2 = .binding writer ∧
        start.bindings[writer]? = some binding ∧
          binding.target = ⟨⟨id, entry.1.index⟩, entry.1.field?⟩) :
    (graph.update id change).Sound start := by
  refine ⟨sound.shape.trans shape, ?_, ?_, ?_⟩
  · intro ref
    have former := sound.interceptors ref
    unfold ObjectGraph.interceptor? at former ⊢
    rw [object?_update]
    split
    · next same =>
      subst same
      cases found : graph.object? ref.object with
      | none => rfl
      | some object => simpa [found, interceptors] using former
    · exact former
  · intro ref property described
    rcases sound.cells ref property described with ⟨cell, found⟩
    exact cells ref cell found
  · intro other object found entry member
    rw [object?_update] at found
    split at found
    · next same =>
      subst same
      rcases Option.map_eq_some_iff.mp found with ⟨former, old, rfl⟩
      rcases writers former entry member with kept | new
      · exact sound.writers _ former old entry kept
      · exact new
    · exact sound.writers _ object found entry member

theorem setCell (ready : start.Ready) (sound : graph.Sound start) {ref : PropertyRef}
    {property : Property} (described : start.graph.property ref = .ok property) (cell : Cell) :
    (graph.setCell ref cell).Sound start := by
  have direct := ready.direct ref property described
  refine sound.update ref.object (.setCell ((sound.property ref).trans described) direct cell)
    (fun _ => rfl) ?_ fun _ _ member => .inl member
  intro other former found
  have stored := cell?_setCell graph ref other cell
  by_cases same : ref = other
  · subst same
    rw [if_pos rfl, found] at stored
    exact ⟨cell, stored⟩
  · rw [if_neg same, found] at stored
    exact ⟨former, stored⟩

/-- A property takes what is written to it, if writers stay or none is at the property. -/
theorem takes (ready : start.Ready) (sound : graph.Sound start) {ref : PropertyRef}
    {property : Property} {flags : WriteFlags}
    (described : start.graph.property ref = .ok property)
    (free : flags.keep = true ∨ start.Free ref) : graph.Takes ref property flags := by
  refine ⟨(sound.property ref).trans described, ready.direct ref property described,
    sound.interceptors ref, ?_⟩
  intro removes object found
  rcases free with keeps | free
  · rw [removes] at keeps
    cases keeps
  · cases listed : object.writersOf ref.index with
    | nil => rfl
    | cons writer rest =>
        have member : writer ∈ object.writersOf ref.index := listed ▸ List.mem_cons_self
        rcases List.mem_map.mp member with ⟨entry, kept, rfl⟩
        rcases List.mem_filter.mp kept with ⟨present, place⟩
        rcases sound.writers _ object found entry present with ⟨id, binding, _, known, target⟩
        have index : entry.1.index = ref.index := by simpa using place
        refine absurd ?_ (free id binding known)
        rw [target, index]

end ObjectGraph.Sound

/-! ## What keeps a world sound -/

namespace Sound

variable {σ : Type} {start world : World σ} {rank : PropertyRef → Nat} {frames : List BindingId}
  {held : List SubscriptionId} {id : BindingId} {binding : Binding}

/-- Neither the host nor the identities nor the collector nor the notifiers count. -/
theorem congr {other : World σ} (sound : Sound start rank frames held world)
    (holders : 0 < other.graphHolders) (graph : other.graph = world.graph)
    (adapters : other.adapters = world.adapters) (diagnostics : other.diagnostics = world.diagnostics)
    (bindings : other.bindings = world.bindings) (warnings : other.warnings = world.warnings)
    (channels : other.channels = world.channels) : Sound start rank frames held other where
  holders := holders
  graph := graph ▸ sound.graph
  adapters := adapters.trans sound.adapters
  handlers := diagnostics ▸ sound.handlers
  count := bindings ▸ sound.count
  persists := bindings ▸ sound.persists
  updating := bindings ▸ sound.updating
  failures := bindings ▸ sound.failures
  warnings := warnings ▸ sound.warnings
  wired := sound.wired.congr channels bindings

theorem withGraph {graph : ObjectGraph} (sound : Sound start rank frames held world)
    (changed : graph.Sound start) : Sound start rank frames held { world with graph := graph } :=
  { sound with graph := changed, wired := sound.wired.congr rfl rfl }

theorem withChannels {held' : List SubscriptionId} {channels : Channels}
    (sound : Sound start rank frames held world)
    (wired : World.Wired rank held' { world with channels := channels }) :
    Sound start rank frames held' { world with channels := channels } :=
  { sound with wired := wired }

/-- A binding still is the one that was made in its place. -/
theorem persists_of_known {former : Binding} (sound : Sound start rank frames held world)
    (known : start.bindings[id]? = some former) (found : world.bindings[id]? = some binding) :
    former.Persists binding := by
  rcases sound.persists id binding found with ⟨origin, present, persists⟩
  rw [known] at present
  cases present
  exact persists

/-- The target of a binding stays alive. -/
theorem alive (sound : Sound start rank frames held world) (ready : start.Ready)
    (found : world.bindings[id]? = some binding) :
    world.graph.isAlive binding.target.object = true := by
  rcases sound.persists id binding found with ⟨former, known, persists⟩
  rcases (ready.bindings id former known).described with ⟨property, described⟩
  rw [BindingTarget.object, persists.target]
  exact ObjectGraph.isAlive_of_property ((sound.graph.property _).trans described)

/-- A binding stays somebody's. -/
theorem keeps (sound : Sound start rank frames held world) (ready : start.Ready)
    (found : world.bindings[id]? = some binding) : world.keepsBinding id = true := by
  rcases sound.persists id binding found with ⟨former, known, persists⟩
  have named : 0 < binding.holders := persists.holders ▸ (ready.bindings id former known).named
  simp [World.keepsBinding, found, named]

/-- What a binding computes it still computes where what it reads is steady. -/
theorem computes {host : Host σ} {after : World σ} {changed : Binding}
    {result : Except Failure Boxed} (sound : Sound start rank frames held world)
    (lawful : LawfulFamily host start rank) (found : world.bindings[id]? = some binding)
    (computes : Computes host world binding result) (shape : start.graph.SameShape after.graph)
    (steady : ∀ source ∈ binding.reads.sources, world.Steady after source)
    (function : changed.function? = binding.function?) (call : changed.call = binding.call)
    (reads : changed.reads.sources = binding.reads.sources) :
    Computes host after changed result := by
  rcases sound.persists id binding found with ⟨former, known, persists⟩
  exact computes.transfer (lawful.persists known persists) persists.call sound.graph.shape shape
    steady function (call.trans persists.call) reads

/-- A change of one binding, with what belongs to it in the channels. -/
theorem rewire {frames' : List BindingId} {channels : Channels} {change : Binding → Binding}
    (sound : Sound start rank frames held world) (found : world.bindings[id]? = some binding)
    (persists : binding.Persists (change binding))
    (updating : (change binding).updating = true ↔ id ∈ frames')
    (others : ∀ other, other ≠ id → (other ∈ frames' ↔ other ∈ frames))
    (failures : ∀ failure, (change binding).error? = some failure → failure.kind ≠ .bindingLoop)
    (wired : World.Wired rank held
      { world with channels := channels, bindings := world.bindings.modify id change }) :
    Sound start rank frames' held
      { world with channels := channels, bindings := world.bindings.modify id change } := by
  have cases' : ∀ {other : BindingId} {changed : Binding},
      (world.bindings.modify id change)[other]? = some changed →
        other = id ∧ changed = change binding ∨ other ≠ id ∧ world.bindings[other]? = some changed := by
    intro other changed present
    rw [List.getElem?_modify] at present
    rcases Option.map_eq_some_iff.mp present with ⟨former, located, rfl⟩
    by_cases same : id = other
    · subst same
      rw [found] at located
      cases located
      exact .inl ⟨rfl, if_pos rfl⟩
    · rw [if_neg same]
      exact .inr ⟨Ne.symm same, located⟩
  refine ⟨sound.holders, sound.graph, sound.adapters, sound.handlers,
    by simpa using sound.count, ?_, ?_, ?_, sound.warnings, wired⟩
  · intro other changed present
    rcases cases' present with ⟨rfl, rfl⟩ | ⟨_, located⟩
    · rcases sound.persists other binding found with ⟨former, known, before⟩
      exact ⟨former, known, before.trans persists⟩
    · exact sound.persists other changed located
  · intro other changed present
    rcases cases' present with ⟨rfl, rfl⟩ | ⟨different, located⟩
    · exact updating
    · exact (sound.updating other changed located).trans (others other different).symm
  · intro other changed present
    rcases cases' present with ⟨rfl, rfl⟩ | ⟨_, located⟩
    · exact failures
    · exact sound.failures other changed located

/-- A change of one binding other than its edges. -/
theorem modify {frames' : List BindingId} {change : Binding → Binding}
    (sound : Sound start rank frames held world) (found : world.bindings[id]? = some binding)
    (persists : binding.Persists (change binding))
    (reads : ∀ binding, (change binding).reads = binding.reads)
    (target : ∀ binding, (change binding).target = binding.target)
    (updating : (change binding).updating = true ↔ id ∈ frames')
    (others : ∀ other, other ≠ id → (other ∈ frames' ↔ other ∈ frames))
    (failures : ∀ failure, (change binding).error? = some failure → failure.kind ≠ .bindingLoop) :
    Sound start rank frames' held { world with bindings := world.bindings.modify id change } :=
  sound.rewire found persists updating others failures (sound.wired.modify id reads target)

end Sound

/-! ## What keeps a world at rest -/

namespace Resting

variable {σ : Type} {host : Host σ} {start world after : World σ} {rank : PropertyRef → Nat}
  {frames frames' : List BindingId} {held held' : List SubscriptionId}
  {stale stale' : BindingId → Prop}

/-- What is sound still rests if all that is not stale is as before, and reads and wrote what is as before. -/
theorem transfer (resting : Resting host start rank frames held stale world)
    (lawful : LawfulFamily host start rank) (sound : Sound start rank frames' held' after)
    (settled : ∀ (id : BindingId) binding, after.bindings[id]? = some binding →
      binding.enabled = true → ¬stale' id → Settled host after binding ∨
        ¬stale id ∧ world.bindings[id]? = some binding ∧
          (∀ source ∈ binding.reads.sources, world.Steady after source) ∧
            (after.graph.cell? binding.target.property).map Cell.plain =
              (world.graph.cell? binding.target.property).map Cell.plain) :
    Resting host start rank frames' held' stale' after := by
  refine ⟨sound, fun id binding found enabled fresh => ?_⟩
  rcases settled id binding found enabled fresh with settled | ⟨former, located, steady, cell⟩
  · exact settled
  · rcases resting.settled id binding located enabled former with ⟨result, computes, recorded⟩
    refine ⟨result, ?_, ?_⟩
    · exact resting.sound.computes lawful located computes sound.graph.shape steady rfl rfl rfl
    · exact recorded.transfer (sound.adapters.trans resting.sound.adapters.symm)
        (resting.sound.graph.shape.symm.trans sound.graph.shape) cell rfl rfl rfl

/-- Where no value changes and no binding that is not stale, nothing is stale that was not. -/
theorem unchanged (resting : Resting host start rank frames held stale world)
    (lawful : LawfulFamily host start rank) (sound : Sound start rank frames' held' after)
    (cells : ∀ ref, after.graph.cell? ref = world.graph.cell? ref)
    (notifiers : after.notifiers = world.notifiers)
    (bindings : ∀ (id : BindingId) binding, after.bindings[id]? = some binding →
      binding.enabled = true → ¬stale' id → ¬stale id ∧ world.bindings[id]? = some binding) :
    Resting host start rank frames' held' stale' after := by
  refine resting.transfer lawful sound fun id binding found enabled fresh => .inr ?_
  rcases bindings id binding found enabled fresh with ⟨former, located⟩
  exact ⟨former, located, fun source _ => .inl (World.valueOf?_congr cells notifiers source),
    by rw [cells]⟩

/-- Where one binding changes and no value, that binding may have become stale, or is settled. -/
theorem modify {id : BindingId} {change : Binding → Binding}
    (resting : Resting host start rank frames held stale world)
    (lawful : LawfulFamily host start rank) (sound : Sound start rank frames' held' after)
    (graph : after.graph = world.graph) (notifiers : after.notifiers = world.notifiers)
    (bindings : after.bindings = world.bindings.modify id change)
    (others : ∀ other, other ≠ id → stale other → stale' other)
    (own : ¬stale' id → ∀ binding, after.bindings[id]? = some binding → binding.enabled = true →
      Settled host after binding) : Resting host start rank frames' held' stale' after := by
  refine resting.transfer lawful sound fun other changed present enabled fresh => ?_
  by_cases same : other = id
  · subst same
    exact .inl (own fresh changed present enabled)
  · rw [bindings] at present
    have elsewhere : world.bindings[other]? = some changed := by
      simpa [List.getElem?_modify, Ne.symm same] using present
    have cells : ∀ ref, after.graph.cell? ref = world.graph.cell? ref := fun _ => by rw [graph]
    exact .inr ⟨fun was => fresh (others other same was), elsewhere,
      fun source _ => .inl (World.valueOf?_congr cells notifiers source), by rw [graph]⟩

/-- Where a stale binding changes and no value, nothing else becomes stale. -/
theorem modify_stale {id : BindingId} {change : Binding → Binding}
    (resting : Resting host start rank frames held stale world)
    (lawful : LawfulFamily host start rank) (sound : Sound start rank frames' held' after)
    (aside : stale id) (graph : after.graph = world.graph)
    (notifiers : after.notifiers = world.notifiers)
    (bindings : after.bindings = world.bindings.modify id change) :
    Resting host start rank frames' held' stale after :=
  resting.modify lawful sound graph notifiers bindings (fun _ _ was => was)
    fun fresh => absurd aside fresh

/-- A new identity changes nothing else. -/
theorem withIdentities (resting : Resting host start rank frames held stale world)
    (lawful : LawfulFamily host start rank) (identities : Nat) :
    Resting host start rank frames held stale { world with identities := identities } :=
  resting.unchanged lawful (resting.sound.congr resting.sound.holders rfl rfl rfl rfl rfl rfl)
    (fun _ => rfl) rfl fun _ _ present _ notStale => ⟨notStale, present⟩

/-- It does not matter how many hold the graph, as long as somebody does. -/
theorem withHolders (resting : Resting host start rank frames held stale world)
    (lawful : LawfulFamily host start rank) {holders : Nat} (positive : 0 < holders) :
    Resting host start rank frames held stale { world with graphHolders := holders } :=
  resting.unchanged lawful (resting.sound.congr positive rfl rfl rfl rfl rfl rfl)
    (fun _ => rfl) rfl fun _ _ present _ notStale => ⟨notStale, present⟩

/-- More may be taken for stale. -/
theorem weaken (resting : Resting host start rank frames held stale world)
    (more : ∀ id, stale id → stale' id) : Resting host start rank frames held stale' world :=
  ⟨resting.sound, fun id binding found enabled fresh =>
    resting.settled id binding found enabled fun was => fresh (more id was)⟩

end Resting

end PropertyBinding

import PropertyBinding.Proofs.Conduct

namespace PropertyBinding

/-!
# Every run can be told

A run of an operation that is put together from what `Conduct` lists has a tale,
under the code of a host that is put together in the same way.  The proof follows
the operations.  Only two things have to be known of the world on the way: that no
binding has noted a loop for its failure, which each move keeps, and the outcome of
the checks that an operation makes.
-/

/-- Whether the latest failure of a binding is no loop. -/
def Binding.Unlooped (binding : Binding) : Prop :=
  ∀ failure, binding.error? = some failure → failure.kind ≠ .bindingLoop

/-- Whether no binding has a loop for its latest failure. -/
def World.Unlooped {σ : Type} (world : World σ) : Prop :=
  ∀ (id : BindingId) binding, world.bindings[id]? = some binding → binding.Unlooped

section Unlooped

variable {σ : Type} {world later : World σ}

theorem Binding.Tended.unlooped {former binding : Binding} (tended : former.Tended binding)
    (unlooped : former.Unlooped) : binding.Unlooped := by
  intro failure noted
  rcases tended.error failure noted with before | plain
  · exact unlooped failure before
  · exact plain

/-- Bindings that are changed without a loop for their failure have none afterwards. -/
theorem World.Unlooped.of_bindings (unlooped : world.Unlooped)
    (same : ∀ (id : BindingId) binding, later.bindings[id]? = some binding →
      ∃ former, world.bindings[id]? = some former ∧ (former.Unlooped → binding.Unlooped)) :
    later.Unlooped := by
  intro id binding found
  rcases same id binding found with ⟨former, present, kept⟩
  exact kept (unlooped id former present)

theorem World.Unlooped.letGo (unlooped : world.Unlooped) (id : BindingId)
    (change : Binding → Binding) (kept : ∀ binding, (change binding).pending? = binding.pending?) :
    (world.letGo id change).Unlooped := by
  refine unlooped.of_bindings fun other binding found => ?_
  rcases found_modify found with ⟨former, present, rfl⟩
  refine ⟨former, present, fun before => ?_⟩
  split
  · intro failure noted
    rw [Binding.error?, kept] at noted
    exact before failure noted
  · exact before

/-- Work that foreign code cannot interrupt leaves no loop for a failure. -/
theorem Act.unlooped {event : Event} (act : Act world event later) (unlooped : world.Unlooped) :
    later.Unlooped := by
  have still : ∀ {after : World σ}, after.bindings = world.bindings → after.Unlooped := by
    intro after same id binding found
    rw [same] at found
    exact unlooped id binding found
  cases act with
  | beside same => exact still same.bindings
  | object => exact still rfl
  | create => exact still rfl
  | destroy => exact still rfl
  | vanish => exact still rfl
  | subscribe => exact still rfl
  | unsubscribe => exact still rfl
  | note => exact still (world.noted_frame _ _).2.2.1
  | refuse => exact still (world.noted_frame _ _).2.2.1
  | tend tended =>
      refine unlooped.of_bindings fun other binding found => ?_
      rcases found_modify found with ⟨former, present, rfl⟩
      refine ⟨former, present, fun before => ?_⟩
      split
      · next same => exact (tended former (same ▸ present)).unlooped before
      · exact before
  | append fresh =>
      intro id binding found
      rw [List.getElem?_append] at found
      split at found
      · exact unlooped id binding found
      · rcases List.mem_singleton.mp (List.mem_of_getElem? found) with rfl
        intro failure noted
        rw [Binding.error?, fresh.pending] at noted
        cases noted
  | read =>
      refine unlooped.of_bindings fun other binding found => ?_
      rcases World.found_capture found with ⟨former, present, same⟩
      refine ⟨former, present, fun before failure noted => before failure ?_⟩
      rw [same] at noted
      exact noted
  | retire => exact unlooped.letGo _ _ fun _ => rfl
  | drop => exact unlooped.letGo _ _ fun _ => rfl

theorem Move.unlooped {scene next : Scene σ} {event : Event} (move : Move scene event next)
    (unlooped : scene.world.Unlooped) : next.world.Unlooped := by
  cases move with
  | act _ act => exact act.unlooped unlooped
  | enter => exact unlooped
  | leave => exact unlooped
  | collect => exact unlooped
  | resume => exact unlooped
  | announce => exact unlooped
  | announced => exact unlooped
  | begin => exact unlooped.letGo _ _ fun _ => rfl
  | finish =>
      refine unlooped.of_bindings fun other binding found => ?_
      rcases found_modify found with ⟨former, present, rfl⟩
      refine ⟨former, present, fun before => ?_⟩
      split <;> exact before

end Unlooped

namespace Engine

variable {σ α β ε : Type} {host : Host σ} {bound : Nat} {stack : List Frame}

/-- Whether each run of an operation from a world without loops noted has a tale. -/
def TellsAt (host : Host σ) (bound : Nat) (stack : List Frame) (operation : Engine σ α)
    (world : World σ) : Prop :=
  world.Unlooped → ∀ result after,
    operation (.within host bound) world = some (result, after) →
      ∃ tale, Told host bound stack operation world tale result after

/-- Whether each run of an operation has a tale, whatever is going on around it. -/
def Tells (host : Host σ) (bound : Nat) (operation : Engine σ α) : Prop :=
  ∀ stack world, TellsAt host bound stack operation world

/-- Whether what foreign code is asked has a tale, wherever it may be asked. -/
def VisitsTell (host : Host σ) (bound : Nat) : Prop :=
  ∀ (query : Query) stack world, World.Admits world stack (.visit query) →
    TellsAt host bound stack (foreign query.step) world

/-- Whether the latest that goes on is no update, so that foreign code may do what it likes. -/
def Calm (stack : List Frame) : Prop :=
  ∀ id, stack.head? ≠ some (.update id)

namespace TellsAt

variable {operation other : Engine σ α} {world after : World σ} {result : α}

theorem still (steps : Steps operation world result world) :
    TellsAt host bound stack operation world := by
  intro _ result' after' run
  rw [steps] at run
  cases run
  exact ⟨_, .still steps⟩

theorem act {event : Event} (steps : Steps operation world result after)
    (act : Act world event after) : TellsAt host bound stack operation world := by
  intro _ result' after' run
  rw [steps] at run
  cases run
  exact ⟨_, .act steps act⟩

theorem alike (same : ∀ outside, operation outside world = other outside world)
    (tells : TellsAt host bound stack other world) :
    TellsAt host bound stack operation world := by
  intro unlooped result after run
  rw [same] at run
  rcases tells unlooped result after run with ⟨tale, told⟩
  exact ⟨tale, .alike same told⟩

theorem bind {next : α → Engine σ β} (first : TellsAt host bound stack operation world)
    (second : ∀ result middle, operation (.within host bound) world = some (result, middle) →
      TellsAt host bound stack (next result) middle) :
    TellsAt host bound stack (operation >>= next) world := by
  intro unlooped final last run
  rcases runs_of_bind run with ⟨result, middle, begun, rest⟩
  rcases first unlooped result middle begun with ⟨tale, told⟩
  have kept : middle.Unlooped :=
    told.moves.preserve (fun before move => move.unlooped before) unlooped
  rcases second result middle begun kept final last rest with ⟨later, toldRest⟩
  exact ⟨_, .sequence told toldRest⟩

/-- An operation that begins with a step without foreign code. -/
theorem step {next : α → Engine σ β} {event : Event} (steps : Steps operation world result after)
    (act : Act world event after) (rest : TellsAt host bound stack (next result) after) :
    TellsAt host bound stack (operation >>= next) world := by
  refine bind (.act steps act) fun result' after' run => ?_
  rw [steps] at run
  cases run
  exact rest

/-- An operation that begins with a look at the world. -/
theorem look {next : α → Engine σ β} (steps : Steps operation world result world)
    (rest : TellsAt host bound stack (next result) world) :
    TellsAt host bound stack (operation >>= next) world := by
  refine bind (.still steps) fun result' after' run => ?_
  rw [steps] at run
  cases run
  exact rest

end TellsAt

/-- What no binding has noted may be made use of. -/
theorem TellsAt.given {operation : Engine σ α} {world : World σ}
    (tells : world.Unlooped → TellsAt host bound stack operation world) :
    TellsAt host bound stack operation world :=
  fun unlooped => tells unlooped unlooped

/-! ## What may go on -/

section Admitted

variable {world : World σ} {collector? outer? : Option Collector}

/-- What calls no function may be asked anywhere. -/
theorem VisitsTell.plain (visits : VisitsTell host bound) (query : Query)
    (plain : query.isCall = false) : Tells host bound (foreign query.step) :=
  fun stack world => visits query stack world
    ⟨fun _ _ => plain, fun _ _ impossible => by cases impossible⟩

/-- Outside of updates all may be asked. -/
theorem VisitsTell.calm (visits : VisitsTell host bound) (query : Query) (calm : Calm stack) :
    TellsAt host bound stack (foreign query.step) world :=
  visits query stack world
    ⟨fun id updates => absurd updates (calm id), fun _ _ impossible => by cases impossible⟩

/-- Outside of updates all may be read that no binding collects. -/
theorem admits_scope (calm : Calm stack) (other : ∀ id, collector? ≠ some (.binding id)) :
    world.Admits stack (.scope collector? outer?) where
  evaluates id updates := absurd updates (calm id)
  own id _ same := by
    cases same
    exact absurd rfl (other id)

end Admitted

/-! ## Failures that are no loops -/

section Plain

variable {outside : Outside σ} {world after : World σ} {id : BindingId} {binding : Binding}

theorem writeFailure_plain {error : WriteError} {failure : Failure}
    (run : writeFailure id binding error outside world = some (failure, after)) :
    failure.kind ≠ .bindingLoop := by
  cases run
  cases error <;> simp [WriteError.kind?]

theorem evaluateBinding_plain {result : Except Failure Boxed}
    (run : evaluateBinding id binding outside world = some (result, after)) :
    ∀ failure, result = .error failure → failure.kind ≠ .bindingLoop := by
  rcases runs_of_bind run with ⟨found, middle, _, evaluated⟩
  cases found with
  | error error =>
      cases evaluated
      rintro _ ⟨⟩
      simp
  | ok callee =>
      rcases runs_of_bind evaluated with ⟨outcome, later, _, ended⟩
      cases outcome with
      | ok value =>
          cases ended
          rintro _ ⟨⟩
      | error error =>
          cases ended
          rintro _ ⟨⟩
          simp

end Plain

/-! ## What operations are made of -/

section Parts

variable {world : World σ}

theorem settle_tells (id : BindingId) : Tells host bound (settle id) := by
  intro stack world
  by_cases kept : world.keepsBinding id = true
  · have steps : Steps (settle id) world () world := by
      intro outside
      simp [settle, kept]
    exact .still steps
  · have steps : Steps (settle id) world () (world.cleared id) := by
      intro outside
      have cleared := clearReads_steps world id outside
      simpa [settle, kept] using cleared
    exact .act steps (.drop (by simpa using kept))

theorem settleAll_tells (ids : List BindingId) : Tells host bound (settleAll ids) := by
  induction ids with
  | nil => exact fun stack world => .still fun _ => rfl
  | cons id rest step =>
      exact fun stack world =>
        .bind (settle_tells id stack world) fun _ middle _ => step stack middle

/-- A read is told by its source, unless it fails. -/
theorem read_tells (ref : PropertyRef) : Tells host bound (read ref).run := by
  intro stack world
  have steps := read_steps world ref
  cases found : world.graph.found ref with
  | error error =>
      rw [found] at steps
      exact .still steps
  | ok out =>
      rcases out with ⟨source, value⟩
      rw [found] at steps
      refine .act steps (.read fun object signal same => ?_)
      rcases ObjectGraph.property_of_found found with ⟨target, property, _, described, _, origin⟩
      rw [origin] at same
      cases same
      exact ObjectGraph.isAlive_of_property described

theorem readNotifier_tells (id : NotifierId) : Tells host bound (readNotifier id) := by
  intro stack world
  refine .step (capture_steps world (.notifier id)) (.read fun _ _ impossible => ?_) ?_
  · cases impossible
  · exact .still fun _ => rfl

/-- Subscribers are called in turn. -/
theorem callAll_tells (visits : VisitsTell host bound)
    (subscribers : List Subscriber) : Tells host bound (callAll subscribers) := by
  induction subscribers with
  | nil => exact fun stack world => .still fun _ => rfl
  | cons subscriber rest step =>
      intro stack world
      have called := visits.plain (.announce subscriber.callback) rfl stack world
      exact .bind called fun _ middle _ => step stack middle

theorem announce_tells (visits : VisitsTell host bound)
    (source : Source) : Tells host bound (announce source) := by
  intro stack world unlooped result after run
  simp only [announce, apply_bind, apply_get, apply_modifyChannels, Option.bind_some,
    Channels.fst_startAnnouncement] at run
  rcases Option.bind_eq_some_iff.mp run with ⟨⟨_, middle⟩, called, ended⟩
  cases ended
  have kept : World.Unlooped
      { world with channels := (world.channels.startAnnouncement source).2 } := unlooped
  rcases callAll_tells visits _ _ _ kept _ _ called with ⟨tale, told⟩
  exact ⟨_, .emission told⟩

/-- The work that operations are made of is told, if what foreign code is asked is. -/
theorem customary_tells (visits : VisitsTell host bound) (stack : List Frame) :
    Customary fun operation => ∀ world, TellsAt host bound stack operation world where
  value _ := fun _ => .still fun _ => rfl
  bind first second := fun world =>
    .bind (first world) fun result middle _ => second result middle
  get := fun _ => .still fun _ => rfl
  aside _ same := fun world => .act (fun _ => rfl) (.beside (same world).toBeside)
  object id change := fun world => .act (fun _ => rfl) (.object world id change)
  tend _ _ tended := fun _ => .act (fun _ => rfl) (.tend fun binding _ => (tended binding).toTended)
  append _ fresh := fun _ => .act (fun _ => rfl) (.append fresh)
  retireBinding id := fun world => .act (retireBinding_steps world id) (.retire world id)
  settle id := settle_tells id stack
  read ref := read_tells ref stack
  readNotifier id := readNotifier_tells id stack
  announce source := announce_tells visits source stack
  ask query plain := visits.plain query plain stack

end Parts

/-! ## Reports -/

section Updates

variable {world : World σ} (visits : VisitsTell host bound)
include visits

theorem hand_tells (handler? : Option HostId) (failure : Failure) :
    Tells host bound (hand handler? failure) := by
  cases handler? with
  | none => exact fun stack world => .still fun _ => rfl
  | some handler => exact visits.plain (.handle handler failure) rfl

/-- A report is told, if it may be made. -/
theorem report_tells {id : DiagnosticsId} {failure : Failure} {event : Event}
    (act : Act world event (world.noted id failure)) :
    TellsAt host bound stack (report id failure) world := by
  have parts : ∀ outside, report id failure outside world =
      (do
        modify fun world => world.noted id failure
        hand ((world.diagnostics[id]?).bind (·.handler?)) failure : Engine σ Unit) outside world :=
    fun outside => report_eq id failure outside world
  exact .alike parts (.step (fun _ => rfl) act (hand_tells visits _ _ _ _))

theorem recordFailure_tells (id : BindingId) {failure : Failure}
    (plain : failure.kind ≠ .bindingLoop) :
    TellsAt host bound stack (recordFailure id failure) world := by
  refine .given fun unlooped => .look (apply_binding? · world id) ?_
  have tended : ∀ reported former, world.bindings[id]? = some former →
      former.Tended (former.withPending failure reported) := by
    intro reported former _
    refine ⟨rfl, rfl, rfl, rfl, .inl, fun other noted => .inr ?_⟩
    cases noted
    exact plain
  cases found : world.bindings[id]? with
  | none => exact .still fun _ => rfl
  | some binding =>
      dsimp only
      split
      · refine .step (fun _ => rfl) (.tend (tended false)) ?_
        cases waits : binding.unreported? with
        | none => exact .still fun _ => rfl
        | some earlier =>
            have noted := Binding.error?_of_unreported waits
            exact report_tells visits (.note (unlooped id binding found earlier noted) _ _)
      · exact .step (fun _ => rfl) (.tend (tended true)) (report_tells visits (.note plain _ _))

/-! ## Updates -/

theorem finishUpdate_tells (id : BindingId) (binding : Binding) {result : Except Failure Boxed}
    (flags : WriteFlags)
    (plain : ∀ failure, result = .error failure → failure.kind ≠ .bindingLoop) :
    TellsAt host bound stack (finishUpdate id binding result flags) world := by
  have furnished := (customary_tells visits stack).furnished
  cases result with
  | error failure => exact recordFailure_tells visits id (plain failure rfl)
  | ok value =>
      refine .look (apply_binding? · world id) ?_
      split
      · exact .still fun _ => rfl
      · refine .bind (furnished.storeResult id binding value flags _) fun outcome middle _ => ?_
        split
        · refine .act (fun _ => rfl) (.tend fun former _ => ⟨rfl, rfl, rfl, rfl, .inl, ?_⟩)
          intro failure noted
          cases noted
        · exact .still fun _ => rfl
        · refine .look (apply_graph · middle) ?_
          split
          · refine .bind (furnished.writeFailure id binding _ _) fun failure after run => ?_
            exact recordFailure_tells visits id (writeFailure_plain run)
          · exact .still fun _ => rfl

omit visits in
theorem scope_tells {collector? : Option Collector} {operation : Engine σ α}
    (admitted : world.Admits stack (.scope collector? world.collector?))
    (inner : TellsAt host bound (.scope collector? world.collector? :: stack) operation
      { world with collector? := collector? }) :
    TellsAt host bound stack (withCollector collector? operation) world := by
  intro unlooped result after run
  simp only [withCollector, apply_bind, apply_get, apply_modify, Option.bind_some] at run
  rcases Option.bind_eq_some_iff.mp run with ⟨⟨value, middle⟩, performed, ended⟩
  cases ended
  rcases inner unlooped _ _ performed with ⟨tale, told⟩
  exact ⟨_, .scope admitted told⟩

omit visits in
/-- Compilation does not change whether a binding follows what it reads. -/
theorem functionOf_listener {id : BindingId} {binding former : Binding} {outside : Outside σ}
    {after : World σ} {result : Except Script.CompileError Function}
    (found : world.bindings[id]? = some former)
    (run : functionOf id binding outside world = some (result, after)) :
    ∃ later, after.bindings[id]? = some later ∧ later.listener? id = former.listener? id := by
  cases expression : binding.expression with
  | function callee =>
      simp only [functionOf, expression] at run
      cases run
      exact ⟨former, found, rfl⟩
  | source source =>
      cases kept : binding.compiled? with
      | some compiled =>
          simp only [functionOf, expression, kept] at run
          cases run
          exact ⟨former, found, rfl⟩
      | none =>
          simp only [functionOf, expression, kept, apply_bind] at run
          rcases Option.bind_eq_some_iff.mp run with ⟨⟨compiled, middle⟩, compiles, noted⟩
          have same : middle.bindings = world.bindings := by
            unfold Script.Evaluation.compile at compiles
            split at compiles <;> cases compiles <;> rfl
          cases noted
          refine ⟨{ former with compiled? := some compiled }, ?_, rfl⟩
          show (middle.bindings.modify id _)[id]? = _
          rw [same, List.getElem?_modify_eq, found]
          rfl

/-- The evaluation in an update tells its reads to the binding, or to nobody. -/
theorem evaluateBinding_tells {id : BindingId} {binding former : Binding}
    (found : world.bindings[id]? = some former)
    (listens : former.listener? id = binding.listener? id) :
    TellsAt host bound (.update id :: stack) (evaluateBinding id binding) world := by
  have furnished := (customary_tells visits (.update id :: stack)).furnished
  refine .bind (furnished.functionOf id binding _) fun compiled middle run => ?_
  rcases functionOf_listener found run with ⟨later, present, same⟩
  cases compiled with
  | error error => exact .still fun _ => rfl
  | ok callee =>
      have calm : Calm (.scope (binding.listener? id) middle.collector? :: .update id :: stack) :=
        fun _ impossible => by cases impossible
      refine .bind (scope_tells ⟨?_, ?_⟩ (visits.calm (.call callee _) calm))
        fun outcome after _ => ?_
      · rintro other ⟨⟩
        exact ⟨later, present, (same.trans listens).symm⟩
      · rintro other outer? collects
        have own : binding.listener? id = some (.binding other) := (Frame.scope.inj collects).1
        unfold Binding.listener? at own
        split at own
        · cases own
          rfl
        · cases own
      · cases outcome with
        | ok value => exact .still fun _ => rfl
        | error error => exact .still fun _ => rfl

omit visits in
theorem framing_tells {id : BindingId} {operation : Engine σ α} (opens : world.opens id = true)
    (inner : TellsAt host bound (.update id :: stack) operation (world.begun id)) :
    TellsAt host bound stack (framing id operation) world := by
  intro unlooped result after run
  have begins := begin_steps world id (.within host bound)
  simp only [apply_bind, apply_modifyBinding, Option.bind_some] at begins
  simp only [framing, apply_bind, apply_modifyBinding, Option.bind_some, begins] at run
  rcases Option.bind_eq_some_iff.mp run with ⟨⟨value, middle⟩, performed, ended⟩
  cases ended
  have kept : (world.begun id).Unlooped := unlooped.letGo _ _ fun _ => rfl
  rcases inner kept _ _ performed with ⟨tale, told⟩
  exact ⟨_, .frame opens told⟩

theorem runUpdate_tells {id : BindingId} {binding : Binding} (flags : WriteFlags)
    (found : world.bindings[id]? = some binding) (opens : world.opens id = true) :
    TellsAt host bound stack (runUpdate id binding flags) world := by
  rw [runUpdate_eq]
  refine .bind (framing_tells opens ?_) fun _ middle _ => settle_tells id _ middle
  have begun : (world.begun id).bindings[id]? =
      some { binding with updating := true, reads := .empty } := by
    show (world.bindings.modify id _)[id]? = _
    rw [List.getElem?_modify_eq, found]
    rfl
  refine .bind (evaluateBinding_tells visits begun rfl) fun result evaluated run => ?_
  refine .step (fun _ => rfl) (.tend fun former _ => ⟨rfl, rfl, rfl, rfl, .inl, fun _ => .inl⟩) ?_
  refine .look (apply_graph · _) ?_
  split
  · exact finishUpdate_tells visits id binding flags (evaluateBinding_plain run)
  · exact .still fun _ => rfl

/-- A binding that is updated refuses another update, and tells so if it is to. -/
theorem reportLoop_tells {id : BindingId} {binding : Binding}
    (found : world.bindings[id]? = some binding) (enabled : binding.enabled = true)
    (active : binding.retired = false)
    (alive : world.graph.isAlive binding.target.object = true)
    (updating : binding.updating = true) :
    TellsAt host bound stack (reportLoop binding) world := by
  unfold reportLoop
  split
  · next told =>
    refine .look (apply_graph · world) ?_
    exact report_tells visits (.refuse found enabled active alive updating told)
  · exact .still fun _ => rfl

omit visits in
theorem releaseGraph_tells : Tells host bound releaseGraph := by
  intro stack world
  refine .step (fun _ => rfl) (.beside ⟨rfl, rfl, rfl, rfl, rfl⟩) (.look (fun _ => rfl) ?_)
  split
  · refine .step (fun _ => rfl) (.vanish _) (.look (fun _ => rfl) ?_)
    exact settleAll_tells _ _ _
  · exact .still fun _ => rfl

theorem update_tells (id : BindingId) (flags : WriteFlags) :
    Tells host bound (update id flags) := by
  intro stack world
  refine .look (apply_binding? · world id) ?_
  cases found : world.bindings[id]? with
  | none => exact .still fun _ => rfl
  | some binding =>
      refine .look (fun _ => rfl) ?_
      by_cases refused : (!world.hasGraph || !binding.enabled || binding.retired) = true
      · rw [if_pos refused]
        exact .still fun _ => rfl
      · rw [if_neg refused]
        have checked : world.hasGraph = true ∧ binding.enabled = true ∧
            binding.retired = false := by
          simpa [and_assoc] using refused
        rcases checked with ⟨present, enabled, active⟩
        refine .look (apply_graph · world) ?_
        split
        · exact .still fun _ => rfl
        · next alive =>
          have alive : world.graph.isAlive binding.target.object = true := by simpa using alive
          refine .step (fun _ => rfl) (.beside ⟨rfl, rfl, rfl, rfl, rfl⟩) ?_
          refine .bind ?_ fun _ middle _ =>
            .bind (releaseGraph_tells _ middle) fun _ _ _ => .still fun _ => rfl
          split
          · next updating =>
            exact reportLoop_tells visits found enabled active alive updating
          · next idle =>
            refine runUpdate_tells visits flags found ?_
            show world.retained.opens id = true
            simp [World.opens, World.retained, World.hasGraph, found, enabled, active, alive, idle]

/-! ## The life of objects and bindings -/

theorem setEnabled_tells (id : BindingId) (enabled : Bool) (flags? : Option WriteFlags) :
    Tells host bound (setEnabled id enabled flags?) := by
  intro stack world
  refine .look (apply_binding? · world id) ?_
  cases found : world.bindings[id]? with
  | none => exact .still fun _ => rfl
  | some binding =>
      dsimp only
      split
      · exact .still fun _ => rfl
      · next permitted =>
        refine .step (fun _ => rfl) (.tend fun former located => ?_) ?_
        · rw [found] at located
          cases located
          refine ⟨rfl, rfl, rfl, rfl, fun on => .inr ?_, fun _ => .inl⟩
          have on : enabled = true := on
          simpa [on] using permitted
        · refine .bind ((customary_tells visits stack).furnished.refreshFastPath id _) fun _ middle _ => ?_
          cases flags? with
          | none => exact .still fun _ => rfl
          | some flags =>
              dsimp only
              split
              · exact update_tells visits id flags _ _
              · exact .still fun _ => rfl

theorem reportPending_tells (id : BindingId) : Tells host bound (reportPending id) := by
  intro stack world
  refine .given fun unlooped => .look (apply_binding? · world id) ?_
  cases found : world.bindings[id]? with
  | none => exact .still fun _ => rfl
  | some binding =>
      dsimp only
      cases waits : binding.unreported? with
      | none => exact .still fun _ => rfl
      | some failure =>
          have noted := Binding.error?_of_unreported waits
          have plain := unlooped id binding found failure noted
          refine .step (fun _ => rfl) (.tend fun former located => ?_)
            (.bind (report_tells visits (.note plain _ _)) fun _ _ _ => .still fun _ => rfl)
          rw [found] at located
          cases located
          refine ⟨rfl, rfl, rfl, rfl, .inl, fun other reported => .inl ?_⟩
          cases reported
          exact noted

omit visits

theorem setAlias_tells (ref target : PropertyRef) : Tells host bound (setAlias ref target).run := by
  intro stack world
  cases pointed : world.graph.setAlias ref target with
  | error error =>
      have steps : Steps (setAlias ref target).run world (.error error) world := by
        intro outside
        rw [setAlias, apply_ask, pointed]
      exact .still steps
  | ok changed =>
      have steps : Steps (setAlias ref target).run world (.ok ())
          { world with graph := world.graph.setCell ref (.alias (some target)) } := by
        intro outside
        rw [setAlias, apply_ask, pointed, ObjectGraph.eq_of_setAlias pointed]
        rfl
      exact .act steps (.object world ref.object _)

theorem create_tells (classId : ClassId) (name? : Option String) :
    Tells host bound (create classId name?) :=
  fun _ world => .look (apply_graph · world)
    (.step (fun _ => rfl) (.create world classId name?) (.still fun _ => rfl))

theorem destroy_tells (visits : VisitsTell host bound) (id : ObjectId) :
    Tells host bound (destroy id) := by
  intro stack world
  cases removed : world.graph.remove? id with
  | none =>
      have steps : Steps (destroy id) world false world := by
        intro outside
        simp only [destroy, apply_bind, apply_graph, Option.bind_some, removed, apply_pure]
      exact .still steps
  | some gone =>
      rcases gone with ⟨object, graph⟩
      have parts : ∀ outside, destroy id outside world =
          (do
            modify fun world =>
              { world with graph := graph, channels := world.channels.removeObject id }
            retireAll object.writers.values
            return true : Engine σ Bool) outside world := by
        intro outside
        simp only [destroy, apply_bind, apply_graph, Option.bind_some, removed]
        rfl
      refine .alike parts (.step (fun _ => rfl) (.destroy removed) ?_)
      exact .bind ((customary_tells visits stack).retireAll _ _) fun _ _ _ => .still fun _ => rfl

theorem subscribe_tells (source : Source) (id : HostId) :
    Tells host bound (subscribe source (.host id)) :=
  fun _ world => .act (fun _ => rfl) (.subscribe world source id)

theorem unsubscribe_tells (id : SubscriptionId) : Tells host bound (unsubscribe id) := by
  intro stack world
  refine .look (fun _ => rfl) ?_
  split
  · next foreign =>
    exact .act (fun _ => rfl) (.unsubscribe (by simpa using foreign))
  · exact .still fun _ => rfl

theorem recording_tells {operation : Engine σ α} (calm : Calm stack)
    (inner : ∀ stack, Calm stack → ∀ world, TellsAt host bound stack operation world) :
    TellsAt host bound stack (recording operation) world := by
  refine scope_tells (admits_scope calm fun _ impossible => by cases impossible) ?_
  refine .bind (inner _ (fun _ impossible => by cases impossible) _) fun result middle _ =>
    .look (fun _ => rfl) ?_
  split <;> exact .still fun _ => rfl

end Updates

/-- Code that is made of operations of the engine is told, wherever foreign code goes on. -/
theorem Conduct.tells (visits : VisitsTell host bound) {operation : Engine σ α}
    (conduct : Conduct operation) :
    ∀ stack, Calm stack → ∀ world, TellsAt host bound stack operation world := by
  have customary := customary_tells visits
  induction conduct with
  | value result => exact fun stack _ => (customary stack).value result
  | sequence _ _ first second =>
      exact fun stack calm => (customary stack).bind (first stack calm) fun result =>
        second result stack calm
  | get => exact fun stack _ => (customary stack).get
  | beside _ same => exact fun stack _ world => .act (fun _ => rfl) (.beside (same world))
  | object id change => exact fun stack _ => (customary stack).object id change
  | tend _ _ tended =>
      exact fun stack _ world => .act (fun _ => rfl) (.tend fun binding _ => tended binding)
  | append binding fresh => exact fun stack _ => (customary stack).append binding fresh
  | retireBinding id => exact fun stack _ => (customary stack).retireBinding id
  | settle id => exact fun stack _ => (customary stack).settle id
  | read ref => exact fun stack _ => (customary stack).read ref
  | readNotifier id => exact fun stack _ => (customary stack).readNotifier id
  | announce source => exact fun stack _ => (customary stack).announce source
  | ask query => exact fun stack calm world => visits.calm query calm
  | setAlias ref target => exact fun stack _ => setAlias_tells ref target stack
  | create classId name? => exact fun stack _ => create_tells classId name? stack
  | destroy id => exact fun stack _ => destroy_tells visits id stack
  | releaseGraph => exact fun stack _ => releaseGraph_tells stack
  | subscribe source host => exact fun stack _ => subscribe_tells source host stack
  | unsubscribe id => exact fun stack _ => unsubscribe_tells id stack
  | suspended _ inner =>
      exact fun stack calm world =>
        scope_tells (admits_scope calm fun _ impossible => by cases impossible)
          (inner _ (fun _ impossible => by cases impossible) _)
  | recorded _ inner => exact fun stack calm world => recording_tells calm inner
  | update id flags => exact fun stack _ => update_tells visits id flags stack
  | setEnabled id enabled flags? =>
      exact fun stack _ => setEnabled_tells visits id enabled flags? stack
  | report id failure plain =>
      exact fun stack _ world => report_tells visits (.note plain world id)
  | reportPending id => exact fun stack _ => reportPending_tells visits id stack

/-- The answers of foreign code are told if what it asks for one level below is. -/
theorem VisitsTell.answer (visits : VisitsTell host bound) (obeys : host.Obeys Conduct)
    (stack : List Frame) (query : Query) (world : World σ) :
    TellsAt host bound (.visit query :: stack) (query.answer host) world := by
  have calm : Calm (.visit query :: stack) := fun _ impossible => by cases impossible
  have given : ∀ {α : Type} {operation : Engine σ α}, Conduct operation → ∀ world,
      TellsAt host bound (.visit query :: stack) operation world :=
    fun conduct => conduct.tells visits _ calm
  cases query with
  | call callee context =>
      exact (customary_tells visits _).furnished.callFunction (obeys.weaken given)
        (fun _ _ _ => visits.calm _ calm) callee context world
  | intercept id object value => exact given (obeys.intercept id object value) world
  | announce callback =>
      cases callback with
      | binding id =>
          refine given (.sequence .get fun world => ?_) world
          exact Sequential.branch (.update id .none) (.value ())
      | host id => exact given (obeys.announce id) world
  | handle id failure => exact given (obeys.handle id failure) world
  | retire id => exact given (obeys.retire id) world

/-- What foreign code is asked is told, however deep it nests. -/
theorem visits_tell (obeys : host.Obeys Conduct) (bound : Nat) : VisitsTell host bound := by
  intro query stack world admitted unlooped result after run
  refine Query.within_induction
    (fun bound visits query world result after run stack admitted unlooped => ?_)
    bound query world result after run stack admitted unlooped
  have asked : VisitsTell host bound := fun query stack world admitted unlooped result after run =>
    visits query world result after run stack admitted unlooped
  rcases asked.answer obeys stack query world unlooped _ _ run with ⟨tale, told⟩
  exact ⟨_, .visit admitted told⟩

/-- Every run of code that is made of operations of the engine is told. -/
theorem Conduct.told (obeys : host.Obeys Conduct) {operation : Engine σ α}
    (conduct : Conduct operation) {world after : World σ} {result : α}
    (unlooped : world.Unlooped)
    (run : runWithin bound host operation world = some (result, after)) :
    ∃ tale, Told host bound [] operation world tale result after :=
  conduct.tells (visits_tell obeys bound) [] (fun _ impossible => by cases impossible) world
    unlooped result after run

end Engine

end PropertyBinding

import PropertyBinding.Proofs.ActiveWriter
import PropertyBinding.Proofs.Stretches
import PropertyBinding.Proofs.Tellable

namespace PropertyBinding

/-!
# Frames of updates

A binding is marked exactly while an update of it that passed the checks is going
on, and no second one goes on inside of that.  An update that is asked for meanwhile
comes to nothing but the report of a loop, and no loop is reported otherwise.  All of
this holds wherever foreign code can look, since each move keeps it.
-/

variable {σ : Type}

/-! ## What a move does to a binding -/

/-- The binding that is updated, in the frame of an update. -/
def Frame.update? : Frame → Option BindingId
  | .update id => some id
  | _ => none

/-- The bindings that are being updated, the latest first. -/
def Scene.updates (scene : Scene σ) : List BindingId :=
  scene.stack.filterMap Frame.update?

namespace Event

/-- Whether a binding has no edges after an event, whatever it had before. -/
def turns (id : BindingId) : Event → Bool
  | .begins turned | .retires turned | .drops turned => decide (turned = id)
  | _ => false

/-- Whether the update of a binding is refused and reported. -/
def isRefusal : Event → Bool
  | .refuses _ => true
  | _ => false

end Event

namespace World

/-- Whether a binding is marked as one that is being updated. -/
def isUpdating (world : World σ) (id : BindingId) : Bool :=
  ((world.bindings[id]?).map (·.updating)).getD false

/-- The number of loops that were reported. -/
def loops (world : World σ) : Nat :=
  world.warnings.countP fun warning =>
    match warning with
    | .failure failure => decide (failure.kind = .bindingLoop)
    | .lostEvidence _ => false

theorem loops_append_failure (world : World σ) (failure : Failure) {later : World σ}
    (lost : List LogError)
    (told : later.warnings = world.warnings ++ .failure failure :: lost.map .lostEvidence) :
    later.loops = world.loops + if failure.kind = .bindingLoop then 1 else 0 := by
  have quiet : (lost.map Warning.lostEvidence).countP (fun warning =>
      match warning with
      | .failure failure => decide (failure.kind = .bindingLoop)
      | .lostEvidence _ => false) = 0 := by
    rw [List.countP_map]
    exact List.countP_eq_zero.mpr fun _ _ => by simp
  simp only [loops, told, List.countP_append, List.countP_cons, quiet, Nat.zero_add,
    decide_eq_true_eq]

end World

/-- What work that foreign code cannot interrupt does to a binding. -/
inductive Binding.Goes (world : World σ) (event : Event) (id : BindingId) (former : Binding) :
    Binding → Prop
  /-- What the binding follows is as before; it is not told of a source, or it has no use for it. -/
  | tended {binding : Binding} (tended : former.Tended binding) (calm : event.turns id = false)
      (heard : ∀ source, event = .reads source → world.collector? = some (.binding id) →
        former.retired = true ∨ former.reads.contains source = true) :
      Goes world event id former binding
  | follows (source : Source) (told : event = .reads source)
      (collects : world.collector? = some (.binding id)) (active : former.retired = false)
      (new : former.reads.contains source = false) :
      Goes world event id former { former with
        reads := ⟨former.reads.edges ++ [⟨source, world.channels.next⟩]⟩ }
  | retires (told : event = .retires id) :
      Goes world event id former
        { former with retired := true, enabled := false, reads := .empty }
  | drops (told : event = .drops id) (unkept : world.keepsBinding id = false) :
      Goes world event id former { former with reads := .empty }

namespace Binding.Goes

variable {world : World σ} {event : Event} {id : BindingId} {former binding : Binding}

/-- Such work is no end or beginning of an update. -/
theorem updating (goes : Goes world event id former binding) :
    binding.updating = former.updating := by
  cases goes with
  | tended tended => exact tended.updating
  | follows => rfl
  | retires => rfl
  | drops => rfl

end Binding.Goes

namespace Binding.Tended

/-- A binding that is as it was. -/
theorem refl (binding : Binding) : binding.Tended binding :=
  ⟨rfl, rfl, rfl, rfl, .inl, fun _ => .inl⟩

end Binding.Tended

namespace World

variable {world : World σ} {id other : BindingId} {binding former : Binding}

/-- What becomes of a binding that follows a source, or has no use for it. -/
theorem follow_goes {source : Source} (collects : world.collector? = some (.binding id))
    (found : world.bindings[other]? = some former) :
    ∃ binding, (world.follow id source).bindings[other]? = some binding ∧
      former.Goes world (.reads source) other binding := by
  have apart : ∀ {target : BindingId}, target ≠ id →
      former.Goes world (.reads source) target former :=
    fun different => .tended (.refl former) rfl fun _ _ others => by
      rw [collects] at others
      cases others
      exact absurd rfl different
  cases present : world.bindings[id]? with
  | none =>
      rw [follow, present]
      refine ⟨former, found, apart fun same => ?_⟩
      rw [same, present] at found
      cases found
  | some collecting =>
      rw [follow, present]
      dsimp only
      split
      · next useless =>
        refine ⟨former, found, .tended (.refl former) rfl fun _ same others => ?_⟩
        cases same
        rw [collects] at others
        cases others
        rw [found] at present
        cases present
        exact Bool.or_eq_true _ _ ▸ useless
      · next useful =>
        rw [Bool.or_eq_true, not_or, Bool.not_eq_true, Bool.not_eq_true] at useful
        by_cases same : id = other
        · subst same
          rw [found] at present
          cases present
          refine ⟨_, by rw [List.getElem?_modify_eq, found]; rfl, ?_⟩
          show former.Goes world _ id { former with
            reads := (former.reads.insert? ⟨source, world.channels.next⟩).getD former.reads }
          rw [ReadSet.insert?_new useful.2]
          exact .follows source rfl collects useful.1 useful.2
        · refine ⟨former, ?_, apart fun equal => same equal.symm⟩
          show (world.bindings.modify id _)[other]? = _
          rw [List.getElem?_modify, found]
          exact congrArg some (if_neg same)

theorem capture_goes {source : Source} (found : world.bindings[other]? = some former) :
    ∃ binding, (world.capture source).bindings[other]? = some binding ∧
      former.Goes world (.reads source) other binding := by
  have still : world.collector? ≠ some (.binding other) →
      former.Goes world (.reads source) other former :=
    fun elsewhere => .tended (.refl former) rfl fun _ _ here => absurd here elsewhere
  unfold capture
  split
  · next nobody => exact ⟨former, found, still (by simp [nobody])⟩
  · next id collects => exact follow_goes collects found
  · next reads recorded => exact ⟨former, found, still (by simp [recorded])⟩

/-- A binding that lets go of its edges, among others that do not. -/
theorem found_letGo {change : Binding → Binding} (found : world.bindings[other]? = some former) :
    (world.letGo id change).bindings[other]? =
      some (if id = other then { change former with reads := .empty } else former) := by
  show (world.bindings.modify id _)[other]? = _
  rw [List.getElem?_modify, found]
  split <;> rfl

end World

section Act

variable {world later : World σ} {event : Event}

/-- What work that foreign code cannot interrupt does to the bindings. -/
theorem Act.goes (act : Act world event later) {id : BindingId} {former : Binding}
    (found : world.bindings[id]? = some former) :
    ∃ binding, later.bindings[id]? = some binding ∧ former.Goes world event id binding := by
  have still : ∀ {after : World σ} {told : Event}, after.bindings = world.bindings →
      told.turns id = false → (∀ source, told ≠ .reads source) →
      ∃ binding, after.bindings[id]? = some binding ∧ former.Goes world told id binding := by
    intro after told same calm silent
    exact ⟨former, same ▸ found,
      .tended (.refl former) calm fun source heard => absurd heard (silent source)⟩
  cases act with
  | beside same => exact still same.bindings rfl nofun
  | object => exact still rfl rfl nofun
  | create => exact still rfl rfl nofun
  | destroy => exact still rfl rfl nofun
  | vanish => exact still rfl rfl nofun
  | subscribe => exact still rfl rfl nofun
  | unsubscribe => exact still rfl rfl nofun
  | note => exact still (world.noted_frame _ _).2.2.1 rfl nofun
  | refuse => exact still (world.noted_frame _ _).2.2.1 rfl nofun
  | @tend _ target change tended =>
      refine ⟨if target = id then change former else former, ?_, .tended ?_ rfl nofun⟩
      · show (world.bindings.modify target change)[id]? = _
        rw [List.getElem?_modify, found]
        split <;> rfl
      · split
        · next same => exact tended former (same ▸ found)
        · exact .refl former
  | append =>
      refine ⟨former, ?_, .tended (.refl former) rfl nofun⟩
      exact List.getElem?_append_left (List.getElem?_eq_some_iff.mp found).1 ▸ found
  | read => exact World.capture_goes found
  | retire target =>
      refine ⟨_, World.found_letGo found, ?_⟩
      split
      · next same => exact .retires (same ▸ rfl)
      · next different =>
        exact .tended (.refl former) (by simpa [Event.turns] using different) nofun
  | drop unkept =>
      refine ⟨_, World.found_letGo found, ?_⟩
      split
      · next same => exact .drops (same ▸ rfl) (same ▸ unkept)
      · next different =>
        exact .tended (.refl former) (by simpa [Event.turns] using different) nofun

/-- A binding that was not there before is as it was made. -/
theorem Act.fresh (act : Act world event later) {id : BindingId} {binding : Binding}
    (missing : world.bindings[id]? = none) (found : later.bindings[id]? = some binding) :
    binding.Pristine := by
  have impossible : ∀ {change : Binding → Binding} {target : BindingId},
      (world.bindings.modify target change)[id]? ≠ some binding := by
    intro change target present
    rcases found_modify present with ⟨former, before, _⟩
    rw [missing] at before
    cases before
  have still : later.bindings = world.bindings → binding.Pristine := by
    intro same
    rw [same, missing] at found
    cases found
  cases act with
  | beside same => exact still same.bindings
  | object => exact still rfl
  | create => exact still rfl
  | destroy => exact still rfl
  | vanish => exact still rfl
  | subscribe => exact still rfl
  | unsubscribe => exact still rfl
  | note => exact still (world.noted_frame _ _).2.2.1
  | refuse => exact still (world.noted_frame _ _).2.2.1
  | tend => exact absurd found impossible
  | retire => exact absurd found impossible
  | drop => exact absurd found impossible
  | append fresh =>
      rw [List.getElem?_append_right (List.getElem?_eq_none_iff.mp missing)] at found
      exact List.mem_singleton.mp (List.mem_of_getElem? found) ▸ fresh
  | read =>
      rcases World.found_capture found with ⟨former, before, _⟩
      rw [missing] at before
      cases before

/-- Only frames of updates mark bindings. -/
theorem Act.isUpdating (act : Act world event later) (id : BindingId) :
    later.isUpdating id = world.isUpdating id := by
  unfold World.isUpdating
  cases found : world.bindings[id]? with
  | some former =>
      rcases act.goes found with ⟨binding, present, goes⟩
      rw [present]
      exact goes.updating
  | none =>
      cases present : later.bindings[id]? with
      | none => rfl
      | some binding => exact (act.fresh found present).updating

end Act

/-! ## Marks and frames -/

/-- Whether a binding is being updated that would pass all other checks for an update. -/
structure Scene.Reenters (scene : Scene σ) (id : BindingId) (binding : Binding) : Prop where
  found : scene.world.bindings[id]? = some binding
  enabled : binding.enabled = true
  active : binding.retired = false
  alive : scene.world.graph.isAlive binding.target.object = true
  going : id ∈ scene.updates

/--
Whether the marks of bindings fit with the frames that are open, after a part of a
tale, and the reports of loops with the refusals in it.
-/
structure Framed (past : List (Moment σ)) (scene : Scene σ) : Prop where
  marked : ∀ id, scene.world.isUpdating id = true ↔ id ∈ scene.updates
  once : scene.updates.Nodup
  retired : ∀ (id : BindingId) binding, scene.world.bindings[id]? = some binding →
    binding.retired = true → binding.enabled = false ∧ binding.reads = .empty
  loops : scene.world.loops = past.countP fun moment => moment.event.isRefusal
  refusals : ∀ moment ∈ past, ∀ id, moment.event = .refuses id →
    ∃ binding, moment.scene.Reenters id binding ∧ binding.context.config.reportLoops = true

namespace World

variable {world : World σ} {id other : BindingId}

theorem isUpdating_of_found {binding : Binding} (found : world.bindings[id]? = some binding) :
    world.isUpdating id = binding.updating := by
  rw [isUpdating, found]
  rfl

/-- A binding that is to be updated passes all checks. -/
theorem found_of_opens (opens : world.opens id = true) :
    ∃ binding, world.bindings[id]? = some binding ∧ binding.enabled = true ∧
      binding.retired = false ∧ binding.updating = false := by
  unfold World.opens at opens
  split at opens
  · next binding found =>
    simp only [Bool.and_eq_true, Bool.not_eq_true'] at opens
    exact ⟨binding, found, opens.1.1.1.2, opens.1.1.2, opens.2⟩
  · cases opens

theorem isUpdating_begun (opens : world.opens id = true) :
    (world.begun id).isUpdating other = true ↔ other = id ∨ world.isUpdating other = true := by
  unfold isUpdating
  cases found : world.bindings[other]? with
  | none =>
      have absent : (world.begun id).bindings[other]? = none := by
        show (world.bindings.modify id _)[other]? = none
        rw [List.getElem?_modify, found]
        rfl
      have different : other ≠ id := by
        rintro rfl
        rcases found_of_opens opens with ⟨binding, present, _⟩
        rw [found] at present
        cases present
      rw [absent]
      simp [different]
  | some binding =>
      rw [begun, found_letGo found]
      by_cases same : id = other
      · simp [same]
      · simp [same, Ne.symm same]

theorem isUpdating_finished :
    (world.finished id).isUpdating other = true ↔ other ≠ id ∧ world.isUpdating other = true := by
  unfold isUpdating finished
  rw [List.getElem?_modify]
  cases found : world.bindings[other]? with
  | none => simp
  | some binding =>
      by_cases same : id = other
      · simp [same]
      · simp [same, Ne.symm same]

end World

namespace Framed

variable {past : List (Moment σ)} {scene next : Scene σ} {event : Event}

/-- Where nothing has happened, nothing is open and nothing was reported. -/
theorem initial (schema : Schema) (state : σ) : Framed [] ⟨[], .initial schema state⟩ where
  marked id := by simp [World.isUpdating, World.initial, Scene.updates]
  once := .nil
  retired id binding found := by cases found
  loops := rfl
  refusals moment member := by cases member

/-- Work that foreign code cannot interrupt keeps a retired binding disabled and without edges. -/
theorem retired_act {world later : World σ} {id : BindingId} {binding : Binding}
    (before : ∀ (id : BindingId) binding, world.bindings[id]? = some binding →
      binding.retired = true → binding.enabled = false ∧ binding.reads = .empty)
    (act : Act world event later) (found : later.bindings[id]? = some binding)
    (retired : binding.retired = true) : binding.enabled = false ∧ binding.reads = .empty := by
  cases present : world.bindings[id]? with
  | none =>
      rw [(act.fresh present found).retired] at retired
      cases retired
  | some former =>
      rcases act.goes present with ⟨binding', found', goes⟩
      rw [found] at found'
      cases found'
      cases goes with
      | tended tended =>
          rw [tended.retired] at retired
          have kept := before id former present retired
          refine ⟨Bool.eq_false_iff.mpr fun enabled => ?_, tended.reads.trans kept.2⟩
          rcases tended.enabled enabled with on | active
          · rw [kept.1] at on
            cases on
          · rw [retired] at active
            cases active
      | follows _ _ _ active =>
          rw [show former.retired = true from retired] at active
          cases active
      | retires => exact ⟨rfl, rfl⟩
      | drops => exact ⟨(before id former present retired).1, rfl⟩

/-- The reports of loops are counted by the refusals. -/
theorem loops_act {world later : World σ} (act : Act world event later) :
    later.loops = world.loops + if event.isRefusal then 1 else 0 := by
  have still : later.warnings = world.warnings → later.loops = world.loops + 0 := by
    intro same
    rw [World.loops, same]
    rfl
  cases act with
  | beside same => exact still same.warnings
  | object => exact still rfl
  | create => exact still rfl
  | destroy => exact still rfl
  | vanish => exact still rfl
  | tend => exact still rfl
  | append => exact still rfl
  | read => exact still (world.capture_frame _).2.2.2.2.2.2.1
  | retire => exact still rfl
  | drop => exact still rfl
  | subscribe => exact still rfl
  | unsubscribe => exact still rfl
  | @note failure plain _ id =>
      rcases world.warnings_noted id failure with ⟨lost, told⟩
      rw [world.loops_append_failure failure lost told, if_neg plain]
      rfl
  | @refuse _ _ binding =>
      rcases world.warnings_noted binding.context.diagnostics (binding.loopFailure world.graph)
        with ⟨lost, told⟩
      exact world.loops_append_failure _ lost told

/-- What was refused was going on, and was to be reported. -/
theorem refusal_act {world later : World σ} {stack : List Frame}
    (framed : Framed past ⟨stack, world⟩) (act : Act world event later) {id : BindingId}
    (refused : event = .refuses id) :
    ∃ binding, Scene.Reenters ⟨stack, world⟩ id binding ∧
      binding.context.config.reportLoops = true := by
  subst refused
  cases act with
  | refuse found enabled active alive updating told =>
      have going := (framed.marked id).mp ((World.isUpdating_of_found found).trans updating)
      exact ⟨_, ⟨found, enabled, active, alive, going⟩, told⟩

theorem refusals_quiet (framed : Framed past scene) (quiet : event.isRefusal = false) :
    ∀ moment ∈ past ++ [⟨scene, event⟩], ∀ id, moment.event = .refuses id →
      ∃ binding, moment.scene.Reenters id binding ∧
        binding.context.config.reportLoops = true := by
  intro moment member id refused
  rcases List.mem_append.mp member with before | last
  · exact framed.refusals moment before id refused
  · rcases List.mem_singleton.mp last with rfl
    rw [show event = .refuses id from refused] at quiet
    cases quiet

/-- A change that leaves the marks, the frames, what is retired and the reports as they are. -/
theorem still (framed : Framed past scene) (quiet : event.isRefusal = false)
    (bindings : next.world.bindings = scene.world.bindings)
    (warnings : next.world.warnings = scene.world.warnings)
    (updates : next.updates = scene.updates) : Framed (past ++ [⟨scene, event⟩]) next where
  marked id := by
    rw [World.isUpdating, bindings, updates]
    exact framed.marked id
  once := updates ▸ framed.once
  retired := bindings ▸ framed.retired
  loops := by
    rw [World.loops, warnings, List.countP_append, List.countP_singleton, quiet]
    exact framed.loops
  refusals := framed.refusals_quiet quiet

/-- Each move keeps the marks of bindings with the frames. -/
theorem move (framed : Framed past scene) (move : Move scene event next) :
    Framed (past ++ [⟨scene, event⟩]) next := by
  cases move with
  | enter => exact framed.still rfl rfl rfl rfl
  | leave => exact framed.still rfl rfl rfl rfl
  | collect => exact framed.still rfl rfl rfl rfl
  | resume => exact framed.still rfl rfl rfl rfl
  | announce => exact framed.still rfl rfl rfl rfl
  | announced => exact framed.still rfl rfl rfl rfl
  | @act world later _ stack act =>
      constructor
      case once => exact framed.once
      case marked =>
        intro id
        rw [act.isUpdating id]
        exact framed.marked id
      case retired => exact fun id binding => retired_act framed.retired act
      case loops =>
        rw [List.countP_append, List.countP_singleton, ← framed.loops]
        exact loops_act act
      case refusals =>
        intro moment member id refused
        rcases List.mem_append.mp member with before | last
        · exact framed.refusals moment before id refused
        · rcases List.mem_singleton.mp last with rfl
          exact refusal_act framed act refused
  | @begin world id stack opens =>
      rcases World.found_of_opens opens with ⟨opened, present, _, active, idle⟩
      have apart : id ∉ Scene.updates ⟨stack, world⟩ := by
        intro going
        have marked := (framed.marked id).mpr going
        rw [World.isUpdating_of_found present, idle] at marked
        cases marked
      constructor
      case once => exact List.nodup_cons.mpr ⟨apart, framed.once⟩
      case marked =>
        intro other
        rw [World.isUpdating_begun opens, framed.marked other]
        exact List.mem_cons.symm
      case retired =>
        intro other binding found retired
        rcases found_modify found with ⟨former, before, rfl⟩
        split at retired
        · next same =>
          rw [← same, present] at before
          cases before
          rw [show opened.retired = true from retired] at active
          cases active
        · next different =>
          rw [if_neg different]
          exact framed.retired other former before retired
      case loops =>
        rw [List.countP_append, ← framed.loops]
        rfl
      case refusals => exact framed.refusals_quiet rfl
  | @finish stack world id =>
      have distinct : id ∉ Scene.updates ⟨stack, world⟩ := (List.nodup_cons.mp framed.once).1
      constructor
      case once => exact (List.nodup_cons.mp framed.once).2
      case marked =>
        intro other
        rw [World.isUpdating_finished, framed.marked other]
        constructor
        · rintro ⟨different, going⟩
          exact (List.mem_cons.mp going).resolve_left different
        · intro going
          exact ⟨fun same => distinct (same ▸ going), List.mem_cons_of_mem _ going⟩
      case retired =>
        intro other binding found retired
        rcases found_modify found with ⟨former, before, rfl⟩
        have kept := framed.retired other former before
        by_cases same : id = other
        · rw [if_pos same] at retired ⊢
          exact kept retired
        · rw [if_neg same] at retired ⊢
          exact kept retired
      case loops =>
        rw [List.countP_append, ← framed.loops]
        rfl
      case refusals => exact framed.refusals_quiet rfl

end Framed

/-! ## Updates that are refused -/

namespace Engine

variable {host : Host σ} {bound : Nat} {α : Type} {operation : Engine σ α} {state : σ}
  {schema : Schema} {result : α} {after : World σ}

/--
What an update of a binding comes to that is being updated already: nothing, or the
report of one loop.  The world with the report is given to a handler, if there is one.
-/
structure Refused (world : World σ) (id : BindingId) (binding : Binding) (noted : World σ) :
    Prop where
  graph : noted.graph = world.graph
  channels : noted.channels = world.channels
  bindings : noted.bindings = world.bindings
  collector : noted.collector? = world.collector?
  loop : (binding.loopFailure world.graph).kind = .bindingLoop
  reported : ∃ lost : List LogError, noted.warnings =
    world.warnings ++ .failure (binding.loopFailure world.graph) :: lost.map .lostEvidence
  silent : binding.context.config.reportLoops = false → ∀ flags outside,
    update id flags outside world = some ((), world)
  handled : binding.context.config.reportLoops = true → ∀ flags outside,
    update id flags outside world =
      (do
        hand ((world.diagnostics[binding.context.diagnostics]?).bind (·.handler?))
          (binding.loopFailure world.graph)
        releaseGraph) outside noted.retained
  unhandled : binding.context.config.reportLoops = true →
    (world.diagnostics[binding.context.diagnostics]?).bind (·.handler?) = none →
    ∀ flags outside, update id flags outside world = some ((), noted)

theorem releaseGraph_retained {world : World σ} (present : world.hasGraph = true)
    (outside : Outside σ) : releaseGraph outside world.retained = some ((), world) := by
  simp [releaseGraph, World.retained, present]

theorem noted_retained (world : World σ) (id : DiagnosticsId) (failure : Failure) :
    world.retained.noted id failure = (world.noted id failure).retained ∧
      (world.noted id failure).graphHolders = world.graphHolders := by
  unfold World.noted World.witnessed World.retained
  dsimp only
  split
  · exact ⟨rfl, rfl⟩
  · split <;> exact ⟨rfl, rfl⟩

/-- A binding that is being updated refuses to be updated. -/
theorem update_refused {past : List (Moment σ)} {scene : Scene σ} {id : BindingId}
    {binding : Binding} (framed : Framed past scene) (reenters : scene.Reenters id binding)
    (present : scene.world.hasGraph = true) :
    Refused scene.world id binding
      (scene.world.noted binding.context.diagnostics (binding.loopFailure scene.world.graph)) := by
  rcases scene with ⟨stack, world⟩
  rcases reenters with ⟨found, enabled, active, alive, going⟩
  have updating : binding.updating = true :=
    (World.isUpdating_of_found found).symm.trans ((framed.marked id).mpr going)
  have checked : ∀ flags outside, update id flags outside world =
      (do reportLoop binding; releaseGraph) outside world.retained := by
    intro flags outside
    simp [update, show world.bindings[id]? = some binding from found,
      show world.hasGraph = true from present,
      show world.graph.isAlive binding.target.object = true from alive, enabled, active, updating,
      keepingGraph, retainGraph, World.retained]
  rcases world.noted_frame binding.context.diagnostics (binding.loopFailure world.graph)
    with ⟨graph, channels, bindings, collector⟩
  have kept := noted_retained world binding.context.diagnostics (binding.loopFailure world.graph)
  have holds : (world.noted binding.context.diagnostics
      (binding.loopFailure world.graph)).hasGraph = true := by
    rw [World.hasGraph, kept.2]
    exact present
  have handled : binding.context.config.reportLoops = true → ∀ flags outside,
      update id flags outside world =
        (do
          hand ((world.diagnostics[binding.context.diagnostics]?).bind (·.handler?))
            (binding.loopFailure world.graph)
          releaseGraph) outside
            (world.noted binding.context.diagnostics
              (binding.loopFailure world.graph)).retained := by
    intro told flags outside
    rw [checked, apply_bind, reportLoop, if_pos told, apply_bind, apply_graph, Option.bind_some]
    show (report binding.context.diagnostics (binding.loopFailure world.graph) outside
      world.retained).bind _ = _
    rw [report_eq, kept.1]
    rfl
  refine ⟨graph, channels, bindings, collector, rfl, world.warnings_noted _ _, ?_, handled, ?_⟩
  · intro quiet flags outside
    rw [checked, apply_bind, reportLoop, if_neg (by simp [quiet])]
    exact releaseGraph_retained present outside
  · intro told nobody flags outside
    rw [handled told, nobody]
    exact releaseGraph_retained holds outside

/-- Where nothing has happened, no failure was noted. -/
theorem initial_unlooped (schema : Schema) (state : σ) : (World.initial schema state).Unlooped := by
  intro id binding found
  cases found

/--
In a run with any foreign code, a binding is marked exactly while one update of it is
going on, no second one is, and a retired binding is disabled and has no edges.  A
binding that is being updated refuses to be updated, and as many loops are reported as
bindings refuse that are to report it.
-/
theorem updates_bracket_one_frame (obeys : host.Obeys Conduct) (conduct : Conduct operation)
    (run : runWithin bound host operation (.initial schema state) = some (result, after)) :
    (∃ tale, Told host bound [] operation (.initial schema state) tale result after) ∧
      ∀ tale, Told host bound [] operation (.initial schema state) tale result after →
        ∀ past scene, Passes tale ⟨[], after⟩ past scene →
          Framed past scene ∧
            ∀ id binding, scene.Reenters id binding → scene.world.hasGraph = true →
              Refused scene.world id binding
                (scene.world.noted binding.context.diagnostics
                  (binding.loopFailure scene.world.graph)) := by
  refine ⟨conduct.told obeys (initial_unlooped schema state) run, ?_⟩
  intro tale told past scene passes
  have framed : Framed past scene := told.moves.keepAt Framed.move passes (.initial schema state)
  exact ⟨framed, fun id binding reenters present => update_refused framed reenters present⟩

/-! ## A binding that updates itself -/

/-- A host whose function updates the first binding. -/
def reentrantHost : Host Unit :=
  { Host.silent with
    call := fun _ _ => do
      Attempt.perform (update 0 .none)
      return .bool true }

/--
Makes a panel with a binding that updates itself when it is evaluated, and enables the
binding.
-/
def reenterPanel : Attempt PropertyError Unit Unit := do
  let _ ← Attempt.perform (create 0 none)
  let id ← createBinding ⟨0, {}, .empty⟩ ⟨panelRef 1, none⟩
    (.function (.mk 0 "self" .none (.host 0))) {}
  Attempt.perform (setEnabled id true (some .none))

/-- The panel after the binding has updated itself. -/
def reenteredPanel : World Unit :=
  ((runWithin 3 reentrantHost reenterPanel.run (.initial panelSchema ())).map Prod.snd).getD
    (.initial panelSchema ())

theorem reentrantHost_obeys : reentrantHost.Obeys Conduct where
  call _ _ := Conduct.customary.furnished.perform (.update 0 .none) fun _ => .value _
  callTyped _ _ := .value _
  intercept _ _ _ := .value _
  announce _ := .value _
  handle _ _ := .value _
  retire _ := .value _

theorem reenterPanel_conduct : Conduct reenterPanel.run := by
  have furnished := (Conduct.customary (σ := Unit)).furnished
  refine furnished.perform (.create 0 none) fun _ => ?_
  refine furnished.attempt (furnished.createBinding _ _ _ _) fun id => ?_
  exact furnished.done (.setEnabled id true (some .none))

/-- The binding refuses its own update once, and one loop is reported. -/
theorem reenteredPanel_refuses_once :
    runWithin 3 reentrantHost reenterPanel.run (.initial panelSchema ()) =
        some (.ok (), reenteredPanel) ∧
      reenteredPanel.loops = 1 ∧
      ∃ tale, Told reentrantHost 3 [] reenterPanel.run (.initial panelSchema ()) tale (.ok ())
          reenteredPanel ∧
        (tale.countP fun moment => moment.event.isRefusal) = 1 := by
  have run : runWithin 3 reentrantHost reenterPanel.run (.initial panelSchema ()) =
      some (.ok (), reenteredPanel) := rfl
  have reported : reenteredPanel.loops = 1 := rfl
  rcases updates_bracket_one_frame reentrantHost_obeys reenterPanel_conduct run
    with ⟨⟨tale, told⟩, bracketed⟩
  rcases bracketed tale told tale ⟨[], reenteredPanel⟩ (.inr ⟨rfl, rfl⟩) with ⟨framed, _⟩
  exact ⟨run, reported, tale, told, framed.loops.symm.trans reported⟩

end Engine

end PropertyBinding

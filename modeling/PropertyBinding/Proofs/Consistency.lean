import PropertyBinding.Proofs.DependencyCapture
import PropertyBinding.Proofs.Propagation
import PropertyBinding.Proofs.Remaining

namespace PropertyBinding

/-!
# Reactive consistency

Bindings are made for properties of their own on a graph without aliases and
interceptors, and their expressions are lawful: properties can be ranked so that
each reads only below what it writes.  Then they may be installed and enabled in
any order, and any property that none of them writes may be written meanwhile.
Every call returns, and after it each enabled binding is consistent: it follows
what its expression reads, and its target holds what it would be given if the
expression were evaluated and written back now, or its latest failure says why
it is not.  No binding is ever taken for a loop.
-/

variable {σ : Type}

open Engine in
/--
Whether a binding is as it would be if its expression were evaluated and written
back in the world as it is: it follows the sources that are read, and either the
write-back would leave a cell of the same plain form in its target, or the
latest failure is the one that the evaluation or the write-back would end with.
-/
def World.Consistent (host : Host σ) (world : World σ) (id : BindingId) (binding : Binding) : Prop :=
  match binding.function? with
  | none => False
  | some (.error error) =>
      binding.reads.sources = [] ∧ binding.HasFailed .compile error.message
  | some (.ok callee) =>
      Leads host.surroundings (recording (Script.Evaluation.invoke callee binding.call).run) world
        fun seen later => binding.reads.sources = seen.2.eraseDups ∧
          match seen.1 with
          | .error error => binding.HasFailed .evaluation error.message
          | .ok value =>
              Leads host.surroundings (storeResult id binding value { quiet := true }).run later
                fun outcome last =>
                  match outcome with
                  | .error error => binding.HasFailed (error.kind?.getD .property) error.message
                  | .ok _ => binding.error? = none ∧
                      (last.graph.cell? binding.target.property).map Cell.plain =
                        (world.graph.cell? binding.target.property).map Cell.plain

/-! ## Actions -/

/-- Whether a request neither writes to a target nor disables a binding, and tells of what it changes. -/
def World.Allows (start : World σ) : Request → Prop
  | .write ref _ flags => flags.quiet = false ∧ start.Free ref
  | .writeVar ref _ flags => flags.quiet = false ∧ start.Free ref
  | .reset ref flags => flags.quiet = false ∧ start.Free ref
  | .assign ref _ => start.Free ref
  | .assignNamed id name _ =>
      ∀ index, start.graph.propertyIndex id name = .ok index → start.Free ⟨id, index⟩
  | .assignNotifier _ _ => True
  | .update _ flags => flags.quiet = false
  | .setEnabled _ enabled flags? =>
      enabled = true ∧ ∃ flags, flags? = some flags ∧ flags.quiet = false

/-- What a program does with a family of bindings. -/
inductive Action where
  | install (id : BindingId)
  | request (request : Request)

namespace Action

/-- Does what an action is. -/
def perform : Action → Engine σ (Except PropertyError Unit)
  | .install id => (Engine.install id).run
  | .request asked => asked.perform

/-- Takes actions one after the other, whether they succeed or fail. -/
def performAll : List Action → Engine σ Unit
  | [] => return
  | action :: rest => do
      let _ ← action.perform
      performAll rest

/-- Whether an action is an install or a request that is allowed. -/
def Allowed (start : World σ) : Action → Prop
  | .install _ => True
  | .request asked => start.Allows asked

/-- Whether an action enables a binding. -/
def Enabling (id : BindingId) (action : Action) : Prop :=
  ∃ flags?, action = request (.setEnabled id true flags?)

end Action

/-- What has been made and nothing more is at rest. -/
theorem World.Ready.rests {start : World σ} (ready : start.Ready) (host : Host σ)
    (rank : PropertyRef → Nat) : Resting host start rank [] [] (fun _ => False) start := by
  have unread : ∀ binding ∈ start.bindings, binding.reads = .empty := by
    intro binding member
    rcases List.mem_iff_getElem?.mp member with ⟨id, found⟩
    exact (ready.bindings id binding found).unread
  have graph : start.graph.Sound start := by
    refine ⟨.refl start.graph, ready.interceptors,
      fun _ _ described => ready.formed.exists_cell described, fun id object found entry member => ?_⟩
    rw [ready.writers id object found] at member
    cases member
  have wired : start.Wired rank [] := by
    refine ⟨?_, ?_, ?_⟩
    · intro id binding found edge member
      rw [(ready.bindings id binding found).unread] at member
      cases member
    · intro source subscriber member
      rw [ready.subscribers] at member
      cases member
    · intro subscription
      have none : start.subscriptions = [] := by
        rw [World.subscriptions, List.flatMap_eq_nil_iff]
        intro binding member
        rw [unread binding member]
        rfl
      simp [none]
  refine ⟨⟨ready.holders, graph, rfl, ready.handlers, rfl, ?_, ?_, ?_, fun _ member _ => member,
    wired⟩, ?_⟩
  · exact fun id binding found => ⟨binding, found, .refl binding⟩
  · intro id binding found
    simp [(ready.bindings id binding found).idle]
  · intro id binding found failure latest
    rw [Binding.error?, (ready.bindings id binding found).unfailed] at latest
    cases latest
  · intro id binding found enabled
    rw [(ready.bindings id binding found).disabled] at enabled
    cases enabled

namespace Engine

variable {host : Host σ} {start world : World σ} {rank : PropertyRef → Nat} {id : BindingId}
  {binding : Binding}

theorem request_remains (ready : start.Ready) (lawful : LawfulFamily host start rank)
    (resting : Resting host start rank [] [] (fun _ => False) world) (request : Request)
    (allowed : start.Allows request) :
    Leads host.surroundings request.perform world fun _ after =>
      Remains host start rank world after ∧
        ∀ id flags?, request = .setEnabled id true flags? → Enables id world after := by
  cases request with
  | write ref value flags =>
      exact (write_remains ready lawful resting allowed.2 value allowed.1).weaken
        fun _ _ remains => ⟨remains, nofun⟩
  | writeVar ref value flags =>
      exact (writeVar_remains ready lawful resting allowed.2 value allowed.1).weaken
        fun _ _ remains => ⟨remains, nofun⟩
  | reset ref flags =>
      exact (reset_remains ready lawful resting allowed.2 allowed.1).weaken
        fun _ _ remains => ⟨remains, nofun⟩
  | assign ref value =>
      exact (assign_remains ready lawful resting allowed value).weaken
        fun _ _ remains => ⟨remains, nofun⟩
  | assignNamed id name value =>
      exact (assignNamed_remains ready lawful resting allowed value).weaken
        fun _ _ remains => ⟨remains, nofun⟩
  | assignNotifier id value =>
      rcases assignNotifier_remains ready lawful resting id value with ⟨_, after, ends, remains⟩
      exact ⟨_, after, ends.map _, remains, nofun⟩
  | update id flags =>
      rcases update_remains ready lawful resting id allowed with ⟨_, after, ends, remains⟩
      exact ⟨_, after, ends.map _, remains, nofun⟩
  | setEnabled id enabled flags? =>
      rcases allowed with ⟨rfl, flags, rfl, loud⟩
      rcases enable_remains ready lawful resting id loud with ⟨_, after, ends, remains, enables⟩
      refine ⟨_, after, ends.map _, remains, ?_⟩
      rintro _ _ ⟨rfl, rfl⟩
      exact enables

/-! ## Consistency -/

/-- A function that is called while its reads are recorded. -/
theorem recording_leads {callee : Function} {context : Script.CallContext} {reads : List Source}
    {result : Except Script.Exception Boxed} (observed : Observes host callee context world reads result) :
    Leads host.surroundings (recording (Script.Evaluation.invoke callee context).run) world
      fun seen later => seen = (result, reads) ∧ ∃ identities state,
        later = { world with identities := identities, host := state } := by
  rcases observed (some (.recorder [])) with ⟨identities, state, bound, run⟩
  refine ⟨_, _, ⟨bound, fun larger enough outside given => ?_⟩, rfl, identities, state, rfl⟩
  have called := run larger enough outside given
  rw [apply_recording]
  show Option.map _ ((foreign fun outside => outside.call callee context) outside world.recorded) = _
  rw [show world.recorded = { world with collector? := some (.recorder []) } from rfl, called]
  rw [captureAll_recorder _ [] reads rfl]
  rfl

/-- What tells nobody of its store leaves the cell in its place. -/
theorem StoresAs.quietly {foreign : Surroundings σ} {ε : Type} {ref : PropertyRef}
    {property : Property} {flags : WriteFlags} {operation : Engine σ (Except ε Unit)}
    {cell former : Cell}
    (stores : StoresAs foreign world ref property flags operation (.ok cell))
    (quiet : flags.quiet = true) (described : world.graph.property ref = .ok property)
    (found : world.graph.cell? ref = some former) :
    Leads foreign operation world fun result after =>
      result = .ok () ∧ (after.graph.cell? ref).map Cell.plain = some cell.plain := by
  rcases stores with ⟨stored, identities, plain, ends⟩
  have located : (world.graph.setCell ref stored).cell? ref = some stored := by
    rw [ObjectGraph.cell?_setCell, if_pos rfl, found]
    rfl
  have storing : Leads foreign (storeCell ref property stored flags)
      { world with identities := identities } fun result after =>
        result = .ok () ∧ after.graph.cell? ref = some stored := by
    refine .performGraph ?_
    rw [if_pos (ObjectGraph.isAlive_of_property described)]
    simp only [quiet, Bool.not_true, Bool.and_false, Bool.false_eq_true, if_false]
    exact .of_steps (fun _ => rfl) ⟨rfl, located⟩
  rcases storing with ⟨_, after, storing, rfl, present⟩
  refine ⟨_, after, ends after storing, rfl, ?_⟩
  rw [present]
  exact congrArg some plain

/-- What would be written back now is what the target holds. -/
theorem storeResult_repeats (ready : start.Ready)
    (sound : Sound start rank [] [] world)
    (found : world.bindings[id]? = some binding) {result value : Boxed}
    (recorded : Recorded world binding (.ok result)) (plain : result.plain = value.plain) :
    Leads host.surroundings (storeResult id binding value { quiet := true }).run world
      fun outcome last =>
        match outcome with
        | .error error => binding.HasFailed (error.kind?.getD .property) error.message
        | .ok _ => binding.error? = none ∧
            (last.graph.cell? binding.target.property).map Cell.plain =
              (world.graph.cell? binding.target.property).map Cell.plain := by
  rcases sound.persists id binding found with ⟨former, known, persists⟩
  have fresh := ready.bindings id former known
  have whole : binding.target.field? = none := (congrArg _ persists.target).trans fresh.whole
  have stores : ∀ {strategy : WriteStrategy} {property : Property},
      world.adapters[binding.adapter]? = some (some strategy) →
        world.graph.property binding.target.property = .ok property →
          StoresAs host.surroundings world binding.target.property property
            (writeBackFlags world id { quiet := true })
            (storeResult id binding value { quiet := true }).run
            (strategy.cellOf world.graph.context property result) := by
    intro strategy property chosen described
    have described' := (sound.graph.property _).symm.trans described
    have takes : world.graph.Takes binding.target.property property
        (writeBackFlags world id { quiet := true }) :=
      sound.graph.takes ready described' (.inl rfl)
    exact (storeResult_stores takes whole chosen value).congr
      (strategy.cellOf_congr world.graph.context property plain.symm)
  cases recorded with
  | refused chosen described form failed =>
      have refuses := stores chosen described
      rw [form] at refuses
      rcases refuses with ⟨identities, ends⟩
      exact ⟨_, _, ends, failed⟩
  | stored chosen described form succeeded present same =>
      have stores := stores chosen described
      rw [form] at stores
      refine (stores.quietly rfl described present).weaken ?_
      rintro _ last ⟨rfl, located⟩
      refine ⟨succeeded, ?_⟩
      rw [located, present]
      exact congrArg some same.symm

/-- What is settled is consistent. -/
theorem consistent_of_settled (ready : start.Ready)
    (resting : Resting host start rank [] [] (fun _ => False) world)
    (found : world.bindings[id]? = some binding) (settled : Settled host world binding) :
    world.Consistent host id binding := by
  rcases settled with ⟨result, computes, recorded⟩
  cases computes with
  | uncompiled known sources kind message =>
      cases recorded with
      | failed failed =>
          rw [kind, message] at failed
          simp only [World.Consistent, known]
          exact ⟨sources, failed⟩
  | thrown known observed sources kind message =>
      cases recorded with
      | failed failed =>
          rw [kind, message] at failed
          simp only [World.Consistent, known]
          refine (recording_leads observed).weaken ?_
          rintro _ later ⟨rfl, _⟩
          exact ⟨sources, failed⟩
  | given known observed sources plain =>
      simp only [World.Consistent, known]
      refine (recording_leads observed).weaken ?_
      rintro _ _ ⟨rfl, identities, state, rfl⟩
      have sound : Sound start rank [] [] { world with identities := identities, host := state } :=
        resting.sound.congr resting.sound.holders rfl rfl rfl rfl rfl rfl
      have kept : Recorded { world with identities := identities, host := state } binding _ :=
        recorded.transfer rfl (.refl world.graph) rfl rfl rfl rfl
      exact ⟨sources, storeResult_repeats ready sound found kept plain⟩

/-- One action leaves everything at rest. -/
theorem action_remains (ready : start.Ready) (lawful : LawfulFamily host start rank)
    (resting : Resting host start rank [] [] (fun _ => False) world) (action : Action)
    (allowed : action.Allowed start) :
    Leads host.surroundings action.perform world fun _ after =>
      Remains host start rank world after ∧ ∀ id, action.Enabling id → Enables id world after := by
  cases action with
  | install id =>
      refine (install_remains ready lawful resting id).weaken fun _ _ remains => ⟨remains, ?_⟩
      rintro id ⟨flags?, same⟩
      cases same
  | request asked =>
      refine (request_remains ready lawful resting asked allowed).weaken ?_
      rintro _ after ⟨remains, enables⟩
      refine ⟨remains, ?_⟩
      rintro id ⟨flags?, same⟩
      exact enables id flags? (Action.request.inj same)

/-- So do all actions in turn, and what one of them has enabled stays enabled. -/
theorem performAll_remains (ready : start.Ready) (lawful : LawfulFamily host start rank)
    (actions : List Action) (resting : Resting host start rank [] [] (fun _ => False) world)
    (allowed : ∀ action ∈ actions, action.Allowed start) :
    Leads host.surroundings (Action.performAll actions) world fun _ after =>
      Remains host start rank world after ∧
        ∀ action ∈ actions, ∀ id, action.Enabling id → Enables id world after := by
  induction actions generalizing world with
  | nil => exact .value ⟨.refl resting, fun _ member => by cases member⟩
  | cons action rest step =>
      refine .bind _ (action_remains ready lawful resting action
        (allowed action List.mem_cons_self)) ?_
      rintro _ middle ⟨first, enables⟩
      have others := fun action member => allowed action (List.mem_cons_of_mem _ member)
      refine (step first.resting others).weaken ?_
      rintro _ after ⟨second, enables'⟩
      refine ⟨first.trans second, fun enabling member id enabled binding found => ?_⟩
      rcases List.mem_cons.mp member with rfl | member
      · rcases enables id enabled binding found with ⟨changed, present, on⟩
        rcases second.enabled id changed present with ⟨changed', present', keeps⟩
        exact ⟨changed', present', keeps on⟩
      · rcases first.enabled id binding found with ⟨changed, present, _⟩
        exact enables' enabling member id enabled changed present

end Engine

open Engine in
/--
Reactive consistency.  On a world in which lawful bindings have been made for
properties of their own, any actions that leave the targets to the bindings come
to an end, whatever larger bound there is on the nesting.  No loop has been
found then, and every binding that was enabled is consistent.
-/
theorem reactive_consistency {σ : Type} (host : Host σ) (start : World σ)
    (rank : PropertyRef → Nat) (ready : start.Ready) (lawful : LawfulFamily host start rank)
    (actions : List Action) (allowed : ∀ action ∈ actions, action.Allowed start) :
    ∃ after bound,
      (∀ larger, bound ≤ larger →
        runWithin larger host (Action.performAll actions) start = some ((), after)) ∧
      (∀ failure, .failure failure ∈ after.warnings → failure.kind = .bindingLoop →
        .failure failure ∈ start.warnings) ∧
      ∀ (id : BindingId) former, start.bindings[id]? = some former →
        ∃ binding, after.bindings[id]? = some binding ∧ former.Persists binding ∧
          ((∃ action ∈ actions, action.Enabling id) → after.Consistent host id binding) := by
  rcases performAll_remains ready lawful actions (ready.rests host rank) allowed with
    ⟨_, after, ⟨bound, run⟩, remains, enables⟩
  have sound := remains.resting.sound
  refine ⟨after, bound, fun larger enough => run larger enough _ rfl, sound.warnings, ?_⟩
  intro id former known
  rcases remains.enabled id former known with ⟨binding, found, _⟩
  rcases sound.persists id binding found with ⟨origin, known', persists⟩
  rw [known] at known'
  cases known'
  refine ⟨binding, found, persists, ?_⟩
  rintro ⟨action, member, enabling⟩
  rcases enables action member id enabling former known with ⟨changed, found', enabled⟩
  rw [found] at found'
  cases found'
  exact consistent_of_settled ready remains.resting found
    (remains.resting.settled id binding found enabled fun was => was)

/-! ## A chain of two bindings -/

section Chain

open Engine

/-- The value of a property of `this`. -/
def valueOfThis (name : String) : Function :=
  .mk 0 name .none (.script [] (.member .this name) [])

/-- A binding on a property of the first object that is to be as another property. -/
def chainBinding (index : Nat) (name : String) : Binding :=
  { context := ⟨0, {}, .empty⟩, expression := .function (valueOfThis name)
    target := ⟨⟨⟨0, 0⟩, index⟩, none⟩, this? := some ⟨0, 0⟩, arguments := [], adapter := index - 1
    notifyOnChange := true }

/-- The class of an object with three numbers. -/
def chainSchema : Schema :=
  Schema.empty.defineClass "Chain" none
    [.native "first" .int, .native "second" .int, .native "third" .int]

/-- An object whose second number is to be as its first, and whose third as its second. -/
def chainWorld : World Unit :=
  { graph := ((ObjectGraph.empty chainSchema).create 0 none).2
    bindings := [chainBinding 1 "first", chainBinding 2 "second"]
    adapters := [some (.primitive .int), some (.primitive .int)]
    diagnostics := [{}]
    host := () }

/-- A function reads and gives one thing in a world. -/
theorem Observes.unique {σ : Type} {host : Host σ} {callee : Function}
    {context : Script.CallContext} {world : World σ} {reads reads' : List Source}
    {result result' : Except Script.Exception Boxed}
    (observed : Observes host callee context world reads result)
    (observed' : Observes host callee context world reads' result') :
    reads = reads' ∧ result = result' := by
  rcases observed (some (.recorder [])) with ⟨identities, state, ends⟩
  rcases observed' (some (.recorder [])) with ⟨identities', state', ends'⟩
  rcases ends.unique ends' with ⟨same, after⟩
  rw [captureAll_recorder _ [] reads rfl, captureAll_recorder _ [] reads' rfl] at after
  have collectors := congrArg World.collector? after
  simp only [List.nil_append, Option.some.injEq, Collector.recorder.injEq] at collectors
  exact ⟨collectors, same⟩

theorem valueOfThis_observes {σ : Type} {host : Host σ} {world : World σ} {id : ObjectId}
    {name : String} {index : Nat} {scope : Script.Scope} {source : Source} {native : Native}
    (indexed : world.graph.propertyIndex id name = .ok index)
    (found : world.graph.found ⟨id, index⟩ = .ok (source, native)) :
    Observes host (valueOfThis name) ⟨scope, some id, []⟩ world [source]
      (.ok (.dynamic (native.toValue.place world.identities).1)) := by
  intro collector?
  have whole : Leads host.surroundings
      (host.callFunction (valueOfThis name) ⟨scope, some id, []⟩).run
      { world with collector? := collector? } fun result after =>
        result = .ok (.dynamic (native.toValue.place world.identities).1) ∧ ∃ identities,
          after = { World.captureAll { world with collector? := collector? } [source] with
            identities := identities } := by
    refine .attempt _ (memberOfThis_leads rfl indexed found) ?_ ?_
    · rintro value after ⟨same, reached⟩
      cases same
      exact .of_steps (fun _ => rfl) ⟨rfl, _, reached⟩
    · rintro error after ⟨same, _⟩
      cases same
  rcases Evaluates.of_leads whole with ⟨_, rfl, evaluates⟩
  exact evaluates

/-- What is stored for a property is the value that its source announces. -/
theorem stored_eq {σ : Type} {world : World σ} {ref : PropertyRef} {native : Native}
    (stored : world.graph.stored ref = .ok native) :
    native = (world.valueOf? (.property ref.object ref.index)).getD (.script .undefined) := by
  unfold ObjectGraph.stored at stored
  cases found : world.graph.object? ref.object with
  | none =>
      rw [found] at stored
      cases stored
  | some object =>
      rw [found] at stored
      cases stored
      simp [World.valueOf?, ObjectGraph.cell?, found]

/-- To be as a property that ranks lower is lawful. -/
theorem valueOfThis_lawful {σ : Type} {host : Host σ} {start : World σ} {rank : PropertyRef → Nat}
    {binding : Binding} {id : ObjectId} {name : String} {index : Nat} {property : Property}
    (this : binding.this? = some id) (arguments : binding.arguments = [])
    (indexed : start.graph.propertyIndex id name = .ok index)
    (resolved : start.graph.resolve ⟨id, index⟩ defaultAliasDepth = .ok ⟨id, index⟩)
    (described : start.graph.property ⟨id, index⟩ = .ok property)
    (signal : property.signal = index)
    (lower : rank ⟨id, index⟩ < rank binding.target.property) :
    LawfulFunction host start rank binding (valueOfThis name) := by
  have reads : ∀ world : World σ, start.graph.SameShape world.graph →
      Observes host (valueOfThis name) binding.call world [.property id index]
        (.ok (.dynamic (((world.valueOf? (.property id index)).getD (.script .undefined)).toValue.place
          world.identities).1)) := by
    intro world shape
    have indexed' := indexed
    have resolved' := resolved
    have described' := described
    rw [shape.propertyIndex] at indexed'
    rw [shape.resolve] at resolved'
    rw [shape.property] at described'
    rcases ObjectGraph.found_of_property resolved' described' with ⟨native, stored, found⟩
    rw [signal] at found
    rw [Binding.call, this, arguments, ← stored_eq stored]
    exact valueOfThis_observes indexed' found
  refine ⟨fun world shape => ⟨_, _, reads world shape⟩, ?_, ?_⟩
  · intro world shape sources result observed source member
    rcases observed.unique (reads world shape) with ⟨rfl, _⟩
    rw [List.mem_singleton] at member
    subst member
    exact Nat.succ_lt_succ lower
  · intro world other shape shape' sources result observed steady
    rcases observed.unique (reads world shape) with ⟨rfl, rfl⟩
    refine ⟨_, reads other shape', ?_⟩
    have plain : ∀ {former value : Native}, former.plain = value.plain →
        value.toValue.plain = former.toValue.plain := by
      intro former value same
      rw [← value.plain_toValue_plain, ← same, former.plain_toValue_plain]
    have same : ((other.valueOf? (.property id index)).getD (.script .undefined)).toValue.plain =
        ((world.valueOf? (.property id index)).getD (.script .undefined)).toValue.plain := by
      rcases steady _ List.mem_cons_self with equal | ⟨former, value, before, after, equal⟩
      · rw [equal]
      · rw [before, after]
        exact plain (Native.plain_of_same equal)
    simp only [Except.map, Boxed.plain, Value.plain_place, same]

theorem chainWorld_ready : chainWorld.Ready := by
  constructor
  case holders => exact Nat.one_pos
  case formed =>
    have numbered := Schema.Numbered.empty.defineClass "Chain" none
      [.native "first" .int, .native "second" .int, .native "third" .int]
    exact (ObjectGraph.WellFormed.empty numbered).create 0 none
  case direct =>
    intro ref property described
    have native : ∀ info ∈ chainSchema.classes, ∀ property ∈ info.properties,
        property.isAlias = false := by
      decide
    rcases ObjectGraph.WellFormed.class_of_property described with ⟨_, info, _, known, listed⟩
    exact native info (List.mem_of_getElem? known) property (List.mem_of_getElem? listed)
  case interceptors =>
    intro ref
    unfold ObjectGraph.interceptor?
    cases found : chainWorld.graph.object? ref.object with
    | none => rfl
    | some object => simp [(ObjectGraph.bare_of_create_empty found).1]
  case writers => exact fun id object found => (ObjectGraph.bare_of_create_empty found).2
  case subscribers => exact fun _ => rfl
  case handlers =>
    intro diagnostics member
    cases List.mem_singleton.mp member
    rfl
  case bindings =>
    intro id binding found
    rcases id with _ | _ | id
    · cases found
      exact ⟨rfl, ⟨_, rfl⟩, ⟨_, rfl⟩, rfl, rfl, rfl, rfl, rfl, rfl, Nat.one_pos⟩
    · cases found
      exact ⟨rfl, ⟨_, rfl⟩, ⟨_, rfl⟩, rfl, rfl, rfl, rfl, rfl, rfl, Nat.one_pos⟩
    · simp [chainWorld] at found
  case distinct =>
    intro first second binding other found found' same
    rcases first with _ | _ | first
    · rcases second with _ | _ | second
      · rfl
      · cases found
        cases found'
        simp [chainBinding] at same
      · simp [chainWorld] at found'
    · rcases second with _ | _ | second
      · cases found
        cases found'
        simp [chainBinding] at same
      · rfl
      · simp [chainWorld] at found'
    · simp [chainWorld] at found

theorem chainWorld_lawful : LawfulFamily Host.silent chainWorld (·.index) := by
  intro id binding found callee may
  rcases id with _ | _ | id
  · cases found
    cases may
    exact valueOfThis_lawful rfl rfl rfl rfl rfl rfl Nat.one_pos
  · cases found
    cases may
    exact valueOfThis_lawful rfl rfl rfl rfl rfl rfl (Nat.lt_succ_self 1)
  · simp [chainWorld] at found

/-- What is done with the chain: its bindings are installed and enabled, and then its first number changes. -/
def chainActions : List Action :=
  [.install 0, .install 1, .request (.setEnabled 1 true (some .none)),
    .request (.setEnabled 0 true (some .none)), .request (.write ⟨⟨0, 0⟩, 0⟩ (.int 5) .none)]

theorem chainActions_allowed : ∀ action ∈ chainActions, action.Allowed chainWorld := by
  have free : chainWorld.Free ⟨⟨0, 0⟩, 0⟩ := by
    intro id binding found
    rcases id with _ | _ | id
    · cases found
      simp [chainBinding]
    · cases found
      simp [chainBinding]
    · simp [chainWorld] at found
  intro action member
  simp only [chainActions, List.mem_cons, List.not_mem_nil, or_false] at member
  rcases member with rfl | rfl | rfl | rfl | rfl
  · trivial
  · trivial
  · exact ⟨rfl, .none, rfl, rfl⟩
  · exact ⟨rfl, .none, rfl, rfl⟩
  · exact ⟨rfl, free⟩

/-- The chain is consistent after a change at its end. -/
theorem chain_consistency : chainWorld.Ready ∧ LawfulFamily Host.silent chainWorld (·.index) ∧
    (∀ action ∈ chainActions, action.Allowed chainWorld) ∧ ∃ after bound,
      (∀ larger, bound ≤ larger →
        runWithin larger Host.silent (Action.performAll chainActions) chainWorld =
          some ((), after)) ∧
      (∀ failure, .failure failure ∈ after.warnings → failure.kind = .bindingLoop →
        .failure failure ∈ chainWorld.warnings) ∧
      ∀ (id : BindingId) former, chainWorld.bindings[id]? = some former →
        ∃ binding, after.bindings[id]? = some binding ∧ former.Persists binding ∧
          ((∃ action ∈ chainActions, action.Enabling id) →
            after.Consistent Host.silent id binding) :=
  ⟨chainWorld_ready, chainWorld_lawful, chainActions_allowed,
    reactive_consistency Host.silent chainWorld (·.index) chainWorld_ready chainWorld_lawful
      chainActions chainActions_allowed⟩

end Chain

end PropertyBinding

import PropertyBinding.Proofs.Stretches

namespace PropertyBinding

/-!
# The course of an update

Most of what an update does, nobody is told of: it looks for the function, chooses
a strategy and converts the result.  Then it stores the result, at most once, or
notes a failure, and it does neither when the last visit to foreign code left the
target dead.  The lemmas follow the operations from the store outwards.
-/

namespace Occasion

variable {σ : Type} {occasion : Occasion σ} {world later : World (σ × Trace σ)}

/-! ## What nobody is told of -/

theorem hushed_modify (id : BindingId) {change : Binding → Binding}
    (standing : ∀ binding, (change binding).standing = binding.standing)
    (updating : ∀ binding, (change binding).updating = binding.updating)
    (world : World (σ × Trace σ)) :
    Hushed world { world with bindings := world.bindings.modify id change } :=
  ⟨rfl, rfl, rfl, .ofBindings rfl rfl rfl rfl rfl fun other => Binding.map_modify _ id other standing,
    fun other => Binding.map_modify _ id other updating⟩

theorem hushed_discreet : Engine.Discreet (Hushed (σ := σ)) where
  toSteady := hushed_steady
  aside := .aside
  unnoticed world id _ unnoticed := by
    refine hushed_modify id (fun binding => ?_) (fun binding => (unnoticed binding).updating) world
    have same := unnoticed binding
    rw [Binding.standing, same.target, same.enabled, same.retired, same.pending]
    rfl
  released world _ :=
    ⟨rfl, rfl, rfl, ⟨.inl rfl, .inl (Channels.subscribersOf_releaseAll _ _), rfl, rfl, rfl,
      fun _ => rfl⟩, fun _ => rfl⟩

/-! ## Updates that were not overtaken -/

/-- Whether an update goes on and its last visit was not fatal. -/
structure Safe (occasion : Occasion σ) (world : World (σ × Trace σ)) : Prop
    extends occasion.Account world where
  spared : ¬world.present.Fatal occasion.target

/-- Whether an update that is safe in a world is still safe in another. -/
def Secures (occasion : Occasion σ) (world later : World (σ × Trace σ)) : Prop :=
  occasion.Safe world → occasion.Safe later

theorem secures_steady (occasion : Occasion σ) : Engine.Steady occasion.Secures :=
  ⟨fun _ safe => safe, fun first second safe => second (first safe)⟩

/-- An update whose target is alive has not had a fatal visit. -/
theorem Account.safe (account : occasion.Account world)
    (alive : world.graph.isAlive occasion.target.object = true) : occasion.Safe world := by
  refine ⟨account, fun fatal => ?_⟩
  rw [account.toRecord.dead fatal] at alive
  cases alive

/-- The call, or an interceptor that was asked about the target, may have been fatal; nobody else may. -/
theorem Safe.visit (safe : occasion.Safe world) (code : occasion.outside.Keeps (World.Onward none))
    (query : Query) {after : World σ}
    (answers : occasion.outside.Answers world.untraced after query)
    (harmless : ¬Visit.Concerns ⟨query, world.untraced⟩ occasion.target.property) :
    occasion.Safe (after.traced
      ⟨world.trace.stretches world.untraced, some ⟨query, world.untraced⟩, after⟩) := by
  refine ⟨safe.toAccount.visit code safe.spared answers fun concerns => absurd concerns harmless, ?_⟩
  rintro ⟨_, visit, same, concerns⟩
  cases same
  exact harmless concerns

theorem Safe.change (safe : occasion.Safe world) (host : later.host = world.host)
    (graph : later.graph = world.graph) (holders : later.graphHolders = world.graphHolders)
    (bindings : ∀ binding, world.bindings[occasion.id]? = some binding →
      ∃ after, later.bindings[occasion.id]? = some after ∧ after.retired = binding.retired ∧
        after.updating = binding.updating) : occasion.Safe later := by
  rcases safe.marked with ⟨binding, found, updating⟩
  rcases bindings binding found with ⟨after, found', retired, same⟩
  have step : occasion.Record later := by
    refine safe.toRecord.step host (.inl graph) (fun without => ?_) ?_ fun fatal => ?_
    · rw [World.hasGraph, holders]
      exact without
    · show ((later.bindings[occasion.id]?).map _).getD _ =
        ((world.bindings[occasion.id]?).map _).getD _
      rw [found', found]
      exact retired
    · exact absurd fatal safe.spared
  refine ⟨⟨step, after, found', same.trans updating⟩, ?_⟩
  unfold World.present
  rw [show later.trace = world.trace from congrArg Prod.snd host]
  exact safe.spared

end Occasion

namespace Engine

open Occasion

variable {σ α β ε : Type} {occasion : Occasion σ} {world : World (σ × Trace σ)}

/-! ## What is announced and reported -/

theorem secures_outspoken (code : occasion.outside.Keeps (World.Onward none)) :
    Outspoken occasion.outside.traced occasion.Secures where
  toSteady := occasion.secures_steady
  told callback world result after run safe := by
    rcases Step.run_of_traced (.announce callback) run with ⟨later, answers, rfl⟩
    exact safe.visit code (.announce callback) answers fun concerns => concerns
  handled handler failure world result after run safe := by
    rcases Step.run_of_traced (.handle handler failure) run with ⟨later, answers, rfl⟩
    exact safe.visit code (.handle handler failure) answers fun concerns => concerns
  apart host graph holders bindings safe :=
    safe.change host graph holders fun binding found => ⟨binding, bindings ▸ found, rfl, rfl⟩

/-- A change of a binding that neither retires it nor ends its update. -/
theorem modifyBinding_secures (id : BindingId) {change : Binding → Binding}
    (same : ∀ binding : Binding, (change binding).retired = binding.retired ∧
      (change binding).updating = binding.updating) :
    Keeps occasion.outside.traced occasion.Secures (modifyBinding id change) := by
  refine Steady.change fun world safe => ?_
  refine safe.change rfl rfl rfl fun binding found => ?_
  refine ⟨if id = occasion.id then change binding else binding, ?_, ?_⟩
  · simp only [List.getElem?_modify, found]
    rfl
  · split
    · exact same binding
    · exact ⟨rfl, rfl⟩

end Engine

namespace Occasion

variable {σ ε α : Type} {occasion : Occasion σ} {world later : World (σ × Trace σ)}
  {ref : PropertyRef}

/-! ## What is stored -/

/-- Whether an update may store in a property, if its object is alive. -/
structure Licensed (occasion : Occasion σ) (ref : PropertyRef) (world : World (σ × Trace σ)) : Prop
    extends occasion.Fresh world where
  admits : world.present.Admits occasion.id ref
  aim : world.present.Fatal occasion.target → ref.object = occasion.target.object

/-- Whether the last visit was the call of a function. -/
def Called (world : World (σ × Trace σ)) : Prop :=
  ∃ callee context before, world.trace.visit? = some ⟨.call callee context, before⟩

/-- Whether an update may write a result: its binding is not retired and its target alive. -/
structure Poised (occasion : Occasion σ) (world : World (σ × Trace σ)) : Prop
    extends occasion.Fresh world where
  called : Called world
  active : world.trace.start.isRetired occasion.id = false
  alive : world.trace.start.graph.isAlive occasion.target.object = true

/-- Whether a property is the one that a binding writes, as far as its target is no alias. -/
def Aims (occasion : Occasion σ) (world : World (σ × Trace σ)) (ref : PropertyRef) : Prop :=
  world.graph.IsDirect occasion.target.property → ref = occasion.target.property

/-- How an attempt of an update to store something ends. -/
def Settled (occasion : Occasion σ) (outcome : Except ε α) (world : World (σ × Trace σ)) : Prop :=
  occasion.Account world ∧ ∀ result, outcome = .ok result → occasion.Safe world

theorem Poised.hushed (poised : occasion.Poised world) (hushed : Hushed world later) :
    occasion.Poised later := by
  refine ⟨poised.toFresh.hushed hushed, ?_, ?_, ?_⟩
  · unfold Called
    rw [hushed.trace]
    exact poised.called
  · rw [hushed.trace]
    exact poised.active
  · rw [hushed.trace]
    exact poised.alive

theorem Poised.safe (poised : occasion.Poised world) : occasion.Safe world :=
  ⟨poised.toAccount, fun fatal => Bool.noConfusion (poised.alive.symm.trans fatal.1)⟩

theorem Poised.licensed (poised : occasion.Poised world) (ref : PropertyRef) :
    occasion.Licensed ref world := by
  refine ⟨poised.toFresh, ?_, fun fatal => absurd fatal poised.safe.spared⟩
  rcases poised.called with ⟨callee, context, before, visited⟩
  unfold Stretch.Admits World.present Trace.present
  rw [visited]
  exact poised.active

theorem Licensed.hushed (licensed : occasion.Licensed ref world) (hushed : Hushed world later) :
    occasion.Licensed ref later := by
  refine ⟨licensed.toFresh.hushed hushed, ?_, ?_⟩
  · unfold World.present
    rw [hushed.trace]
    exact licensed.admits
  · unfold World.present
    rw [hushed.trace]
    exact licensed.aim

end Occasion

namespace Engine

open Occasion

variable {σ α β ε : Type} {occasion : Occasion σ} {world : World (σ × Trace σ)}
  {ref : PropertyRef}

/-- A property of a living object is stored, and announced if that is called for. -/
theorem store_settles (code : occasion.outside.Keeps (World.Onward none))
    (licensed : occasion.Licensed ref world) (signal : Nat) (cell : Cell) (unchanged : Cell → Bool)
    (flags : WriteFlags) :
    Ensures occasion.outside.traced (store ref signal cell unchanged flags).run world
      occasion.Settled := by
  refine .performGraph (.choose (fun alive => .done ?_) fun _ => .value ⟨licensed.toAccount, ?_⟩)
  · have spared : ¬world.present.Fatal occasion.target := by
      intro fatal
      rw [licensed.aim fatal, licensed.toRecord.dead fatal] at alive
      cases alive
    have stored : occasion.Safe { world with graph := world.graph.setCell ref cell } :=
      ⟨licensed.store alive licensed.admits spared cell, spared⟩
    refine .change ((Steady.branch ((secures_outspoken code).announce _) ?_ _).weaken fun _ after secured => ?_)
    · exact occasion.secures_steady.value ()
    · exact ⟨(secured stored).toAccount, fun _ _ => secured stored⟩
  · intro result impossible
    cases impossible

/-- Whether a write to a property ends well, if the update may write its result there. -/
def Concludes (occasion : Occasion σ) (ref : PropertyRef)
    (operation : Attempt ε (σ × Trace σ) α) : Prop :=
  ∀ world, occasion.Poised world → occasion.Aims world ref →
    Ensures occasion.outside.traced operation.run world occasion.Settled

namespace Concludes

theorem fail (error : ε) : Concludes occasion ref (throw error : Attempt ε _ α) :=
  fun _ poised _ => .value ⟨poised.toAccount, fun _ impossible => by cases impossible⟩

theorem attempt {operation : Attempt ε (σ × Trace σ) α} {next : α → Attempt ε (σ × Trace σ) β}
    (first : Keeps occasion.outside.traced Hushed operation.run)
    (rest : ∀ result, Concludes occasion ref (next result)) :
    Concludes occasion ref (operation >>= next) := by
  intro world poised aims
  refine .attempt (fun _ after => Hushed world after) (first world) ?_ fun error after hushed => ?_
  · intro result after hushed
    refine rest result after (poised.hushed hushed) fun direct => aims ?_
    rwa [hushed.graph] at direct
  · exact ⟨(poised.hushed hushed).toAccount, fun _ impossible => by cases impossible⟩

theorem perform {operation : Engine (σ × Trace σ) α} {next : α → Attempt ε (σ × Trace σ) β}
    (first : Keeps occasion.outside.traced Hushed operation)
    (rest : ∀ result, Concludes occasion ref (next result)) :
    Concludes occasion ref (Attempt.perform operation >>= next) :=
  attempt (hushed_steady.done first) rest

theorem adapt {ε' : Type} {operation : Attempt ε (σ × Trace σ) α} (rename : ε → ε')
    (inner : Concludes occasion ref operation) :
    Concludes occasion ref (ExceptT.adapt rename operation) := by
  intro world poised aims
  refine .bind _ (inner world poised aims) fun outcome after settled => .value ?_
  refine ⟨settled.1, fun result succeeded => ?_⟩
  cases outcome with
  | ok _ => exact settled.2 _ rfl
  | error _ => cases succeeded

theorem choose {condition : Prop} [Decidable condition] {yes no : Attempt ε (σ × Trace σ) α}
    (left : Concludes occasion ref yes) (right : Concludes occasion ref no) :
    Concludes occasion ref (if condition then yes else no) :=
  fun world poised aims => .choose (fun _ => left world poised aims) fun _ => right world poised aims

/-- An alias is written where it resolves to, and what is no alias resolves to itself. -/
theorem resolve {question : ObjectGraph → Except ε PropertyRef}
    {next : PropertyRef → Attempt ε (σ × Trace σ) α}
    (resolves : ∀ graph stored, question graph = .ok stored →
      ∃ depth, graph.resolve ref depth = .ok stored)
    (rest : ∀ stored, Concludes occasion stored (next stored)) :
    Concludes occasion ref (Attempt.ask question >>= next) := by
  intro world poised aims
  refine .ask (fun stored found => rest stored world poised fun direct => ?_) fun error _ => ?_
  · rcases resolves _ stored found with ⟨depth, resolved⟩
    rcases direct with ⟨property, described, plain⟩
    rw [aims ⟨property, described, plain⟩, ObjectGraph.resolve_of_direct described plain] at resolved
    cases resolved
    rfl
  · exact ⟨poised.toAccount, fun _ impossible => by cases impossible⟩

/-- The write of an update keeps the active writers. -/
theorem keeping {keep : Bool} {operation : Engine (σ × Trace σ) Unit}
    {next : Attempt ε (σ × Trace σ) α} (kept : keep = true)
    (rest : Concludes occasion ref next) :
    Concludes occasion ref (do
      if !keep then
        Attempt.perform operation
      next) := by
  subst kept
  exact rest

end Concludes

/-- An interceptor that was asked leaves the update where it may store, on the object it was asked about. -/
theorem intercepted_licenses (code : occasion.outside.Keeps (World.Onward none))
    (poised : occasion.Poised world) (aims : occasion.Aims world ref) (value : Native) :
    Ensures occasion.outside.traced (intercepted ref value).run world fun outcome after =>
      occasion.Account after ∧ ∀ final, outcome = .ok final → occasion.Licensed ref after := by
  refine .performGraph (.choose (fun _ => ?_) fun _ => .value ⟨poised.toAccount, ?_⟩)
  · cases world.graph.interceptor? ref with
    | none => exact .value ⟨poised.toAccount, fun _ _ => poised.licensed ref⟩
    | some id =>
        refine .done fun result after run => ?_
        rcases Step.run_of_traced (.intercept id ref.object value) run with
          ⟨later, answered, rfl⟩
        have answers : occasion.outside.Answers world.untraced later
            (.intercept id ref.object value) := ⟨result, answered⟩
        have fresh := poised.toFresh.visit code poised.safe.spared answers
        refine ⟨fresh.toAccount, fun _ _ => ⟨fresh, rfl, ?_⟩⟩
        rintro ⟨_, visit, same, concerns⟩
        cases same
        rw [aims concerns]
        rfl
  · intro final impossible
    cases impossible

theorem storeNative_concludes (code : occasion.outside.Keeps (World.Onward none))
    (property : Property) (value : Native) {flags : WriteFlags} (kept : flags.keep = true) :
    Concludes occasion ref (storeNative ref property value flags) := by
  refine .attempt (hushed_discreet.requireFit property value) fun _ => .keeping kept ?_
  refine .choose (fun world poised _ => store_settles code (poised.licensed ref) _ _ _ _) ?_
  intro world poised aims
  refine .attempt _ (intercepted_licenses code poised aims value) ?_ ?_
  · intro final after reached
    have licensed := reached.2 final rfl
    refine .attempt (fun _ last => Hushed after last) (hushed_discreet.requireFit property final after) ?_ ?_
    · exact fun _ last hushed => store_settles code (licensed.hushed hushed) _ _ _ _
    · exact fun _ last hushed => ⟨(licensed.hushed hushed).toAccount,
        fun _ impossible => by cases impossible⟩
  · exact fun _ _ reached => ⟨reached.1, fun _ impossible => by cases impossible⟩

theorem storeVar_concludes (code : occasion.outside.Keeps (World.Onward none)) (value : Value)
    {flags : WriteFlags} (kept : flags.keep = true) :
    Concludes occasion ref (storeVar ref value flags) := by
  refine .attempt hushed_steady.ask fun property => .choose (.keeping kept ?_) ?_
  · exact fun world poised _ => store_settles code (poised.licensed ref) _ _ _ _
  · exact .perform hushed_steady.seen fun _ => .fail _

theorem writeVar_concludes (code : occasion.outside.Keeps (World.Onward none)) (value : Value)
    {flags : WriteFlags} (kept : flags.keep = true) :
    Concludes occasion ref (writeVar ref value flags) :=
  .resolve (fun _ _ found => ⟨_, found⟩) fun _ => storeVar_concludes code value kept

theorem write_concludes (code : occasion.outside.Keeps (World.Onward none)) (value : Native)
    {flags : WriteFlags} (kept : flags.keep = true) :
    Concludes occasion ref (write ref value flags) := by
  refine .resolve (fun _ _ found => ⟨_, found⟩) fun stored => ?_
  refine .attempt hushed_steady.ask fun property => ?_
  refine .choose ?_ (storeNative_concludes code property value kept)
  cases value with
  | script content => exact storeVar_concludes code content kept
  | _ => exact .fail _

theorem reset_concludes (code : occasion.outside.Keeps (World.Onward none)) {flags : WriteFlags}
    (kept : flags.keep = true) : Concludes occasion ref (reset ref flags) :=
  .resolve (fun _ _ found => ⟨_, found⟩) fun _ => .attempt hushed_steady.ask fun property =>
    .choose (write_concludes code property.default kept) (.fail _)

theorem writeUndefined_concludes (code : occasion.outside.Keeps (World.Onward none))
    (strategy : WriteStrategy) (property : Property) {flags : WriteFlags}
    (kept : flags.keep = true) :
    Concludes occasion ref (WriteBack.writeUndefined strategy ref property flags) := by
  refine .choose (.adapt _ (reset_concludes code kept)) ?_
  cases strategy with
  | variant => exact .adapt _ (write_concludes code _ kept)
  | script => exact .adapt _ (write_concludes code _ kept)
  | varSlot => exact .adapt _ (writeVar_concludes code _ kept)
  | _ => exact .perform (hushed_discreet.typeName _) fun _ => .fail _

theorem writeValue_concludes (code : occasion.outside.Keeps (World.Onward none))
    (strategy : WriteStrategy) (property : Property) (value : Value) {flags : WriteFlags}
    (kept : flags.keep = true) :
    Concludes occasion ref (WriteBack.writeValue strategy ref property value flags) := by
  have defined : Concludes occasion ref
      (if strategy = .varSlot then
        WriteBack.access (Engine.writeVar ref value flags)
      else do
        let native ← WriteBack.convert fun graph =>
          strategy.native graph.context property.type value
        WriteBack.access (Engine.write ref native flags)) := by
    refine .choose (.adapt _ (writeVar_concludes code value kept)) ?_
    exact .attempt (hushed_steady.adapt _ hushed_steady.ask) fun native =>
      .adapt _ (write_concludes code native kept)
  unfold WriteBack.writeValue
  cases value with
  | undefined => exact writeUndefined_concludes code strategy property kept
  | function callee marked =>
      cases strategy.acceptsFunctions with
      | false => exact .fail _
      | true => exact defined
  | _ => exact defined

theorem writeProperty_concludes (code : occasion.outside.Keeps (World.Onward none))
    (strategy : WriteStrategy) (property : Property) (result : Boxed) {flags : WriteFlags}
    (kept : flags.keep = true) :
    Concludes occasion ref (WriteBack.writeProperty strategy ref property result flags) := by
  cases result with
  | dynamic value => exact writeValue_concludes code strategy property value kept
  | native type value shared =>
      refine .choose (.adapt _ (write_concludes code value kept)) ?_
      exact .perform (hushed_discreet.place _) fun placed =>
        writeValue_concludes code strategy property placed kept

theorem writeField_concludes (code : occasion.outside.Keeps (World.Onward none))
    (property : Property) (field : Nat) (result : Boxed) {flags : WriteFlags}
    (kept : flags.keep = true) :
    Concludes occasion ref (WriteBack.writeField ref property field result flags) := by
  refine .attempt (hushed_discreet.fieldNumber _) fun number => ?_
  refine .attempt (hushed_steady.adapt _ hushed_steady.ask) fun current => ?_
  split
  · split
    · exact .adapt _ (write_concludes code _ kept)
    · exact .fail _
  · exact .perform hushed_steady.seen fun _ => .fail _

theorem writeBack_concludes (code : occasion.outside.Keeps (World.Onward none))
    (adapter : AdapterId) (field? : Option Nat) (result : Boxed) {flags : WriteFlags}
    (kept : flags.keep = true) :
    Concludes occasion ref (WriteBack.write adapter ⟨ref, field?⟩ result flags) := by
  refine .attempt (hushed_steady.adapt _ hushed_steady.ask) fun property => ?_
  cases field? with
  | some field => exact writeField_concludes code property field result kept
  | none =>
      exact .perform (hushed_discreet.chooseStrategy adapter property) fun strategy =>
        writeProperty_concludes code strategy property result kept

/-- A result goes where the target resolves to. -/
theorem storeResult_concludes (code : occasion.outside.Keeps (World.Onward none)) (result : Boxed)
    (flags : WriteFlags) :
    Concludes occasion occasion.target.property
      (storeResult occasion.id occasion.former result flags) := by
  let depth := occasion.former.context.config.aliasDepth
  have resolves : ∀ (graph : ObjectGraph) stored,
      (graph.resolve occasion.target.property depth).mapError WriteError.ofProperty = .ok stored →
      ∃ depth, graph.resolve occasion.target.property depth = .ok stored := by
    intro graph stored found
    refine ⟨depth, ?_⟩
    cases resolved : graph.resolve occasion.target.property depth with
    | ok target =>
        rw [resolved] at found
        cases found
        rfl
    | error error =>
        rw [resolved] at found
        cases found
  exact .resolve resolves fun ref => .perform (hushed_steady.found _) fun _ =>
    writeBack_concludes code _ _ result rfl

/-! ## Evaluation -/

/-- The evaluation of an update stores and notes nothing, and what it results in comes from the call. -/
theorem evaluateBinding_fresh (code : occasion.outside.Keeps (World.Onward none))
    (fresh : occasion.Fresh world) (spared : ¬world.present.Fatal occasion.target)
    (id : BindingId) (binding : Binding) :
    Ensures occasion.outside.traced (evaluateBinding id binding) world fun result after =>
      occasion.Fresh after ∧ ∀ value, result = .ok value → Called after := by
  refine .bind _ (hushed_discreet.functionOf id binding world) fun found middle hushed => ?_
  have prepared := fresh.hushed hushed
  cases found with
  | error error => exact .value ⟨prepared, fun _ impossible => by cases impossible⟩
  | ok callee =>
      refine .bind (fun _ after => occasion.Fresh after ∧ Called after) ?_ ?_
      · refine .look (.change (.bind (fun _ after => occasion.Fresh after ∧ Called after) ?_ ?_))
        · intro result after run
          rcases Step.run_of_traced (.call callee _) run with ⟨later, answered, rfl⟩
          have collecting : Hushed middle { middle with
              collector? := if binding.notifyOnChange then some (.binding id) else none } :=
            .aside rfl
          refine ⟨(prepared.hushed collecting).visit code (fun fatal => ?_) ⟨result, answered⟩,
            callee, _, _, rfl⟩
          exact spared (hushed.fatal (collecting.fatal fatal))
        · rintro result after ⟨called, visited⟩
          exact .change (.value ⟨called.hushed (.aside rfl), visited⟩)
      · rintro outcome after ⟨called, visited⟩
        cases outcome with
        | ok value => exact .value ⟨called, fun _ _ => visited⟩
        | error error =>
            refine .bind _ (hushed_discreet.locationOf id after) fun location last hushed => ?_
            exact .value ⟨called.hushed hushed, fun _ impossible => by cases impossible⟩

/-! ## Updates -/

/-- What an update does with its result while the target is alive. -/
theorem finishUpdate_accounts (code : occasion.outside.Keeps (World.Onward none))
    (fresh : occasion.Fresh world)
    (alive : world.graph.isAlive occasion.target.object = true) {result : Except Failure Boxed}
    (called : ∀ value, result = .ok value → Called world) (flags : WriteFlags) :
    Ensures occasion.outside.traced (finishUpdate occasion.id occasion.former result flags) world
      fun _ after => occasion.Account after := by
  have notes : ∀ {world}, occasion.Account world →
      world.graph.isAlive occasion.target.object = true → ∀ failure,
      Ensures occasion.outside.traced (recordFailure occasion.id failure) world
        fun _ after => occasion.Account after := by
    intro world account alive failure
    have records : Keeps occasion.outside.traced occasion.Secures
        (recordFailure occasion.id failure) :=
      (secures_outspoken code).recordFailure fun _ => modifyBinding_secures _ fun _ => ⟨rfl, rfl⟩
    exact (records world).weaken fun _ _ secured => (secured (account.safe alive)).toAccount
  cases result with
  | error failure => exact notes fresh.toAccount alive failure
  | ok value =>
      refine .lookBinding ?_
      by_cases retired : ((world.bindings[occasion.id]?).map (·.retired)).getD true = true
      · rw [if_pos retired]
        exact .value fresh.toAccount
      · rw [if_neg retired]
        have active : world.trace.start.isRetired occasion.id = false := by
          refine fresh.present.retired.symm.trans ?_
          rcases fresh.marked with ⟨binding, found, _⟩
          rw [found] at retired
          show ((world.bindings[occasion.id]?).map _).getD _ = _
          rw [found]
          simpa using retired
        have poised : occasion.Poised world :=
          ⟨fresh, called value rfl, active, fresh.still.alive alive⟩
        refine .bind _ (storeResult_concludes code value flags world poised fun _ => rfl) ?_
        rintro outcome after ⟨account, succeeds⟩
        split
        · have cleared : Keeps occasion.outside.traced occasion.Secures (modifyBinding occasion.id
              fun binding => { binding with pending? := none }) := modifyBinding_secures _ fun _ => ⟨rfl, rfl⟩
          exact (cleared after).weaken fun _ _ secured => (secured (succeeds _ rfl)).toAccount
        · exact .value account
        · refine .lookGraph ?_
          split
          · next alive =>
            refine .bind _ (hushed_discreet.writeFailure _ _ _ after) fun failure last hushed => ?_
            refine notes (account.hushed hushed) ?_ failure
            rwa [hushed.graph]
          · exact .value account

end Engine

namespace Occasion

variable {σ : Type} {occasion : Occasion σ} {world later : World (σ × Trace σ)}

/-- What the trace of an update looks like when its evaluation and its write are complete. -/
structure Complete (occasion : Occasion σ) (world : World (σ × Trace σ)) : Prop
    extends occasion.Record world where
  idle : world.present.Fatal occasion.target →
    (world.bindings[occasion.id]?).map (·.updating) = some false

theorem Complete.hushed (complete : occasion.Complete world) (hushed : Hushed world later) :
    occasion.Complete later :=
  ⟨complete.toRecord.hushed hushed, fun fatal =>
    (hushed.updating _).trans (complete.idle (hushed.fatal fatal))⟩

theorem Safe.complete (safe : occasion.Safe world) : occasion.Complete world :=
  ⟨safe.toRecord, fun fatal => absurd fatal safe.spared⟩

/-- Nobody has been visited, so no visit was fatal. -/
theorem spared_of_unvisited (unvisited : world.trace.visit? = none) (target : BindingTarget) :
    ¬world.present.Fatal target := by
  rintro ⟨_, visit, visited, _⟩
  cases (show world.trace.visit? = some visit from visited).symm.trans unvisited

/-- The trace of an update that has visited nobody and stored nothing. -/
theorem Record.unvisited (trace : world.trace = .empty occasion.origin)
    (graph : world.graph = occasion.origin.graph)
    (retired : world.untraced.isRetired occasion.id = occasion.origin.isRetired occasion.id) :
    occasion.Record world := by
  have spared := spared_of_unvisited (congrArg Trace.visit? trace) occasion.target
  have none : ∀ stretch, stretch ∉ world.trace.past := by
    rw [trace]
    exact fun _ => List.not_mem_nil
  refine ⟨?_, fun _ member => absurd member (none _), ?_, fun _ member => absurd member (none _), ?_,
    fun _ member => absurd member (none _), fun fatal => absurd fatal spared⟩
  · rw [trace]
    exact .start
  · rw [trace]
    exact .nil
  · unfold World.present
    rw [trace]
    exact ⟨retired, .inl (.inl graph)⟩

/-- An update that visits nobody and stores nothing is complete at any time. -/
theorem Complete.unvisited (trace : world.trace = .empty occasion.origin)
    (graph : world.graph = occasion.origin.graph)
    (retired : world.untraced.isRetired occasion.id = occasion.origin.isRetired occasion.id) :
    occasion.Complete world :=
  ⟨.unvisited trace graph retired, fun fatal =>
    absurd fatal (spared_of_unvisited (congrArg Trace.visit? trace) _)⟩

end Occasion

namespace Engine

open Occasion

variable {σ : Type} {occasion : Occasion σ} {world : World (σ × Trace σ)}

/-- The end of an update takes its mark and lets go of what nobody keeps. -/
theorem unmark_completes (account : occasion.Account world) :
    Ensures occasion.outside.traced (do
      modifyBinding occasion.id fun binding => { binding with updating := false }
      settle occasion.id) world fun _ after => occasion.Complete after := by
  refine .change ?_
  let unmarked : World (σ × Trace σ) := { world with
    bindings := world.bindings.modify occasion.id fun binding => { binding with updating := false } }
  have silent : world.untraced.Silent unmarked.untraced :=
    .ofBindings rfl rfl rfl rfl rfl fun other => Binding.map_modify _ _ other fun _ => rfl
  have complete : occasion.Complete unmarked := by
    refine ⟨account.toRecord.step rfl (.inl rfl) (fun without => without) (silent.isRetired _)
      fun _ => silent, fun _ => ?_⟩
    rcases account.marked with ⟨binding, found, _⟩
    show ((world.bindings.modify _ _)[occasion.id]?).map _ = _
    rw [List.getElem?_modify_eq, found]
    rfl
  exact (hushed_discreet.settle _ _).weaken fun _ _ hushed => complete.hushed hushed

/-- What nobody is told of leaves an update complete. -/
theorem completes_discreet : Discreet fun world later : World (σ × Trace σ) =>
    occasion.Complete world → occasion.Complete later where
  refl _ complete := complete
  trans first second complete := second (first complete)
  aside same complete := complete.hushed (hushed_discreet.aside same)
  unnoticed world id change unnoticed complete :=
    complete.hushed (hushed_discreet.unnoticed world id change unnoticed)
  released world subscriptions complete :=
    complete.hushed (hushed_discreet.released world subscriptions)

/-- The last holder of the graph takes it along. -/
theorem releaseGraph_completes (complete : occasion.Complete world) :
    Ensures occasion.outside.traced releaseGraph world fun _ after => occasion.Complete after := by
  refine (completes_discreet.releaseGraph ?_ ?_ world).weaken fun _ _ completes => completes complete
  · intro world complete
    refine ⟨complete.toRecord.step rfl (.inl rfl) (fun without => ?_) rfl fun _ => ?_, complete.idle⟩
    · have none : world.graphHolders = 0 := by simpa [World.hasGraph] using without
      simp [World.hasGraph, none]
    · exact .ofBindings rfl rfl rfl rfl rfl fun _ => rfl
  · intro world without complete
    refine ⟨complete.toRecord.step rfl (.inr ⟨without, rfl⟩) (fun _ => without) rfl fun _ => ?_,
      complete.idle⟩
    exact ⟨.inr ⟨without, rfl⟩, .inr without, rfl, rfl, rfl, fun _ => rfl⟩

/-- An evaluation and what follows it. -/
theorem runUpdate_completes (code : occasion.outside.Keeps (World.Onward none))
    (trace : world.trace = .empty occasion.origin) (graph : world.graph = occasion.origin.graph)
    (bindings : world.bindings = occasion.origin.bindings)
    (found : occasion.origin.bindings[occasion.id]? = some occasion.former) (flags : WriteFlags) :
    Ensures occasion.outside.traced (runUpdate occasion.id occasion.former flags) world
      fun _ after => occasion.Complete after := by
  let marked : World (σ × Trace σ) := { world with
    bindings := world.bindings.modify occasion.id fun binding => { binding with updating := true } }
  have known : marked.bindings[occasion.id]? = some { occasion.former with updating := true } := by
    show (world.bindings.modify _ _)[occasion.id]? = _
    rw [List.getElem?_modify_eq, bindings, found]
    rfl
  have record : occasion.Record marked := by
    refine .unvisited trace graph ?_
    show ((marked.bindings[occasion.id]?).map _).getD _ =
      ((occasion.origin.bindings[occasion.id]?).map _).getD _
    rw [known, found]
    rfl
  have fresh : occasion.Fresh marked := by
    refine ⟨⟨record, _, known, rfl⟩, ?_, ?_, ?_⟩
    · rw [show marked.trace = _ from trace]
      exact fun _ member => absurd member List.not_mem_nil
    · unfold World.present
      rw [show marked.trace = _ from trace]
      exact .inl graph
    · show (marked.bindings[occasion.id]?).bind _ = _
      rw [known]
      rfl
  refine .change (.bind _ (hushed_discreet.clearReads occasion.id marked) fun _ cleared hushed => ?_)
  have spared : ¬cleared.present.Fatal occasion.target := fun fatal =>
    spared_of_unvisited (congrArg Trace.visit? trace) _ (hushed.fatal fatal)
  refine .bind _ (evaluateBinding_fresh code (fresh.hushed hushed) spared _ _) ?_
  rintro result evaluated ⟨fresh, called⟩
  have counts : Keeps occasion.outside.traced Hushed (modifyBinding occasion.id fun binding =>
      { binding with evaluations := binding.evaluations + 1 }) :=
    Steady.change (hushed_modify _ (fun _ => rfl) fun _ => rfl)
  refine .bind _ (counts evaluated) fun _ counted hushed => .lookGraph ?_
  have fresh := fresh.hushed hushed
  split
  · next alive =>
    refine .bind _ (finishUpdate_accounts code fresh alive (fun value same => ?_) flags) ?_
    · rcases called value same with ⟨callee, context, before, visited⟩
      exact ⟨callee, context, before, (congrArg Trace.visit? hushed.trace).trans visited⟩
    · exact fun _ _ account => unmark_completes account
  · exact unmark_completes fresh.toAccount

/-- Whatever an update of a binding does, it keeps to its account. -/
theorem update_completes (code : occasion.outside.Keeps (World.Onward none))
    (found : occasion.origin.bindings[occasion.id]? = some occasion.former) (flags : WriteFlags) :
    Ensures occasion.outside.traced (update occasion.id flags)
      (occasion.origin.traced (.empty occasion.origin)) fun _ after => occasion.Complete after := by
  let start := occasion.origin.traced (.empty occasion.origin)
  have refused : Ensures occasion.outside.traced (pure ()) start fun _ after => occasion.Complete after :=
    .value (.unvisited rfl rfl rfl)
  refine .lookBinding ?_
  rw [show (World.traced _ _).bindings[occasion.id]? = _ from found]
  refine .look ?_
  split
  · exact refused
  · refine .lookGraph ?_
    split
    · exact refused
    · let retained : World (σ × Trace σ) := { start with graphHolders := start.graphHolders + 1 }
      have record : occasion.Record retained := .unvisited rfl rfl rfl
      refine .change (.bind (fun _ after => occasion.Complete after) ?_ fun _ _ complete =>
        .bind _ (releaseGraph_completes complete) fun _ _ complete => .value complete)
      split
      · next updating =>
        have safe : occasion.Safe retained :=
          ⟨⟨record, _, found, updating⟩, spared_of_unvisited rfl _⟩
        have reports := (secures_outspoken code).reportLoop occasion.former
        exact (reports retained).weaken fun _ _ secured => (secured safe).complete
      · exact runUpdate_completes code rfl rfl rfl found flags

end Engine

end PropertyBinding

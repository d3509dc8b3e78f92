import PropertyBinding.Proofs.Returning
import PropertyBinding.Proofs.StoredForm

namespace PropertyBinding

/-!
# Writes as stores

Where there is no alias, no interceptor and no writer to retire, a write comes
down to its last step: it fails before anything has happened, or it stores one
cell.  `StoresAs` says so of an operation, with the cell up to its plain form,
and holds of every write and of every write-back of a result.
-/

/-- Whether a cell would put a value in the place of another that equals it. -/
def Cell.repeats : Cell → Cell → Bool
  | .native value, former => former.holds value
  | .var value, former => former.holdsVar value
  | .alias _, _ => false

theorem Cell.plain_of_repeats {cell former : Cell} (equal : cell.repeats former = true) :
    former.plain = cell.plain := by
  cases cell with
  | native value =>
      cases former with
      | native old => exact congrArg Cell.native (Native.plain_of_same equal)
      | _ => cases equal
  | var value =>
      cases former with
      | var old => exact congrArg Cell.var (Value.plain_of_same equal)
      | _ => cases equal
  | _ => cases equal

/-- Whether a property stores what is written to it, and nothing comes between. -/
structure ObjectGraph.Takes (graph : ObjectGraph) (ref : PropertyRef) (property : Property)
    (flags : WriteFlags) : Prop where
  described : graph.property ref = .ok property
  direct : property.isAlias = false
  interceptor : graph.interceptor? ref = none
  writers : flags.keep = false → ∀ object, graph.object? ref.object = some object →
    object.writersOf ref.index = []

namespace Engine

variable {σ α ε ε' : Type} {foreign : Surroundings σ} {world : World σ} {ref : PropertyRef}
  {property : Property} {flags : WriteFlags}

/-- The last step of a write that has come so far. -/
def storeCell (ref : PropertyRef) (property : Property) (cell : Cell) (flags : WriteFlags) :
    Engine σ (Except PropertyError Unit) :=
  (store ref property.signal cell cell.repeats flags).run

/--
Whether an operation fails as an outcome says, or does what storing the cell of
the outcome does.  It may take identities before.
-/
def StoresAs (foreign : Surroundings σ) (world : World σ) (ref : PropertyRef) (property : Property)
    (flags : WriteFlags) (operation : Engine σ (Except ε Unit)) : Except ε Cell → Prop
  | .error error => ∃ identities,
      Ends foreign operation world (.error error) { world with identities := identities }
  | .ok cell => ∃ stored identities, stored.plain = cell.plain ∧
      ∀ after, Ends foreign (storeCell ref property stored flags)
          { world with identities := identities } (.ok ()) after →
        Ends foreign operation world (.ok ()) after

namespace StoresAs

variable {operation : Engine σ (Except ε Unit)} {outcome other : Except ε Cell}

/-- Only the plain form of the cell counts. -/
theorem congr (stores : StoresAs foreign world ref property flags operation outcome)
    (plain : outcome.map Cell.plain = other.map Cell.plain) :
    StoresAs foreign world ref property flags operation other := by
  cases outcome with
  | error error =>
      cases other with
      | error error' =>
          cases plain
          exact stores
      | ok cell => cases plain
  | ok cell =>
      cases other with
      | error error => cases plain
      | ok cell' =>
          rcases stores with ⟨stored, identities, same, ends⟩
          exact ⟨stored, identities, same.trans (Except.ok.inj plain), ends⟩

theorem fail {error : ε} (ends : Ends foreign operation world (.error error) world) :
    StoresAs foreign world ref property flags operation (.error error) :=
  ⟨world.identities, ends⟩

/-- What goes on as another operation, but for some identities, stores what that does. -/
theorem transfer {code : Engine σ (Except ε Unit)} {identities : Nat}
    (stores : StoresAs foreign { world with identities := identities } ref property flags
      operation outcome)
    (goesOn : ∀ result after, Ends foreign operation { world with identities := identities } result
      after → Ends foreign code world result after) :
    StoresAs foreign world ref property flags code outcome := by
  cases outcome with
  | error error =>
      rcases stores with ⟨next, ends⟩
      exact ⟨next, goesOn _ _ ends⟩
  | ok cell =>
      rcases stores with ⟨stored, next, same, ends⟩
      exact ⟨stored, next, same, fun after storing => goesOn _ _ (ends after storing)⟩

theorem adapt {attempt : Attempt ε σ Unit} (rename : ε → ε')
    (stores : StoresAs foreign world ref property flags attempt.run outcome) :
    StoresAs foreign world ref property flags (ExceptT.adapt rename attempt).run
      (outcome.mapError rename) := by
  cases outcome with
  | error error =>
      rcases stores with ⟨next, ends⟩
      exact ⟨next, ends.map _⟩
  | ok cell =>
      rcases stores with ⟨stored, next, same, ends⟩
      exact ⟨stored, next, same, fun after storing => (ends after storing).map _⟩

/-- An operation that begins with a success which leaves the world as it is. -/
theorem attempt {first : Attempt ε σ α} {next : α → Attempt ε σ Unit} {given : α}
    (steps : Steps first.run world (.ok given) world)
    (rest : StoresAs foreign world ref property flags (next given).run outcome) :
    StoresAs foreign world ref property flags (first >>= next).run outcome := by
  have goesOn : ∀ result after, Ends foreign (next given).run world result after →
      Ends foreign (first.run >>= ExceptT.bindCont next) world result after :=
    fun _ _ ends => (Ends.of_steps steps).bind ends
  exact transfer rest goesOn

/-- An operation that begins with a failure. -/
theorem stop {first : Attempt ε σ α} {next : α → Attempt ε σ Unit} {error : ε}
    (steps : Steps first.run world (.error error) world) :
    StoresAs foreign world ref property flags (first >>= next).run (.error error) := by
  have ends : Ends foreign (first.run >>= ExceptT.bindCont next) world (.error error) world :=
    (Ends.of_steps steps).bind (.of_steps fun _ => rfl)
  exact fail ends

theorem ask {question : ObjectGraph → Except ε α} {next : α → Attempt ε σ Unit} {answer : α}
    (answered : question world.graph = .ok answer)
    (rest : StoresAs foreign world ref property flags (next answer).run outcome) :
    StoresAs foreign world ref property flags (Attempt.ask question >>= next).run outcome :=
  attempt (fun _ => congrArg (fun answer => some (answer, world)) answered) rest

theorem perform {step : Engine σ α} {next : α → Attempt ε σ Unit} {given : α}
    (steps : Steps step world given world)
    (rest : StoresAs foreign world ref property flags (next given).run outcome) :
    StoresAs foreign world ref property flags (Attempt.perform step >>= next).run outcome := by
  refine attempt (fun outside => ?_) rest
  show ((step outside world).bind fun out => some (Except.ok out.1, out.2)) = _
  rw [steps outside]
  rfl

/-- A script value is stored as well after its arrays have got identities. -/
theorem place {value : Value} {next : Value → Attempt ε σ Unit}
    (rest : ∀ placed identities, placed.plain = value.plain →
      StoresAs foreign { world with identities := identities } ref property flags (next placed).run
        outcome) :
    StoresAs foreign world ref property flags (Attempt.perform (place value) >>= next).run
      outcome := by
  have stores := rest _ (value.place world.identities).2 (value.plain_place world.identities)
  refine stores.transfer fun result after ends => ?_
  rcases ends with ⟨bound, run⟩
  refine ⟨bound, fun larger enough outside given => ?_⟩
  rw [apply_perform]
  exact run larger enough outside given

/-- The last step of a write. -/
theorem store {cell : Cell} :
    StoresAs foreign world ref property flags (storeCell ref property cell flags) (.ok cell) :=
  ⟨cell, world.identities, rfl, fun _ storing => storing⟩

end StoresAs

/-! ## Writes -/

/-- Where no writer is, none is removed. -/
theorem removeWriters_steps
    (writers : ∀ object, world.graph.object? ref.object = some object →
      object.writersOf ref.index = []) :
    Steps (removeWriters ref) world () world := by
  intro outside
  cases found : world.graph.object? ref.object with
  | none => simp [removeWriters, found]
  | some object =>
      have unwritten := writers object found
      have kept : object.withoutWritersOf ref.index = object := by
        have others : ∀ entry ∈ object.writers.toList, entry.1.index ≠ ref.index := by
          intro entry member same
          have listed : entry.2 ∈ object.writersOf ref.index :=
            List.mem_map_of_mem (List.mem_filter.mpr ⟨member, by simpa using same⟩)
          rw [unwritten] at listed
          cases listed
        have whole : object.writers.toList.filter (fun entry => decide (entry.1.index ≠ ref.index)) =
            object.writers.toList :=
          List.filter_eq_self.mpr fun entry member => by simpa using others entry member
        unfold Object.withoutWritersOf Entries.keep
        rw [whole]
      have same : world.graph.update ref.object (fun object => object.withoutWritersOf ref.index) =
          world.graph := by
        have located := found
        unfold ObjectGraph.object? at located
        split at located
        · next slot place =>
          by_cases current : slot.generation = ref.object.generation
          · rw [if_pos current] at located
            unfold ObjectGraph.update
            rw [found]
            dsimp only
            rw [kept, ← located, ← current]
            rcases List.getElem?_eq_some_iff.mp place with ⟨inRange, rfl⟩
            rw [List.set_getElem_self]
          · rw [if_neg current] at located
            cases located
        · cases located
      simp [removeWriters, found, same, unwritten, retireAll]

theorem requireFit_steps (property : Property) (value : Native) :
    Steps (requireFit property value).run world
      (if value.fits property.type then .ok () else
        .error (.typeMismatch property.name (world.graph.schema.typeName property.type))) world := by
  intro outside
  unfold requireFit
  by_cases fits : value.fits property.type = true
  · rw [if_pos fits, fits]
    rfl
  · rw [if_neg fits]
    simp only [Bool.not_eq_true] at fits
    rw [fits]
    rfl

theorem intercepted_steps (takes : world.graph.Takes ref property flags) (value : Native) :
    Steps (intercepted ref value).run world (.ok value) world := by
  intro outside
  have alive := ObjectGraph.isAlive_of_property takes.described
  unfold intercepted
  rw [apply_perform]
  simp only [apply_graph, Option.bind_some, alive, takes.interceptor, if_true]
  rfl

/-- A write that keeps no writers has none to remove. -/
theorem StoresAs.unlessKept {next : Attempt PropertyError σ Unit}
    {outcome : Except PropertyError Cell} (takes : world.graph.Takes ref property flags)
    (rest : StoresAs foreign world ref property flags next.run outcome) :
    StoresAs foreign world ref property flags
      (if !flags.keep then do
        Attempt.perform (removeWriters ref)
        next
      else next).run outcome := by
  cases keep : flags.keep with
  | true => exact rest
  | false =>
      exact .perform (removeWriters_steps (takes.writers keep)) rest

theorem storeVar_stores (takes : world.graph.Takes ref property flags) (value : Value) :
    StoresAs foreign world ref property flags (storeVar ref value flags).run
      (property.cellOfVar world.graph.schema value) := by
  unfold storeVar Property.cellOfVar
  refine .ask takes.described ?_
  by_cases open' : property.isVar = true
  · rw [if_pos open', if_pos open']
    exact .unlessKept takes .store
  · rw [if_neg open', if_neg open']
    exact .perform (fun _ => rfl) (.fail (.of_steps fun _ => rfl))

theorem writeVar_stores (takes : world.graph.Takes ref property flags) (value : Value) :
    StoresAs foreign world ref property flags (writeVar ref value flags).run
      (property.cellOfVar world.graph.schema value) := by
  unfold writeVar
  exact .ask (ObjectGraph.resolve_of_direct takes.described takes.direct _)
    (storeVar_stores takes value)

theorem storeNative_stores (takes : world.graph.Takes ref property flags) (value : Native) :
    StoresAs foreign world ref property flags (storeNative ref property value flags).run
      (if value.fits property.type then .ok (.native value) else
        .error (.typeMismatch property.name (world.graph.schema.typeName property.type))) := by
  have fit : Steps (requireFit property value).run world _ world := requireFit_steps property value
  unfold storeNative
  by_cases fits : value.fits property.type = true
  · rw [if_pos fits] at fit ⊢
    have stores : StoresAs foreign world ref property flags (if flags.bypass then
        Engine.store ref property.signal (.native value) (fun cell => cell.holds value) flags
      else do
        let final ← intercepted ref value
        requireFit property final
        Engine.store ref property.signal (.native final) (fun cell => cell.holds final) flags).run
        (.ok (.native value)) := by
      by_cases bypass : flags.bypass = true
      · rw [if_pos bypass]
        exact .store
      · rw [if_neg bypass]
        refine .attempt (intercepted_steps takes value) ?_
        exact .attempt fit .store
    exact .attempt fit (.unlessKept takes stores)
  · rw [if_neg fits] at fit ⊢
    exact .stop fit

theorem write_stores (takes : world.graph.Takes ref property flags) (value : Native) :
    StoresAs foreign world ref property flags (write ref value flags).run
      (property.cellOf world.graph.schema value) := by
  unfold write Property.cellOf
  refine .ask (ObjectGraph.resolve_of_direct takes.described takes.direct _) ?_
  refine .ask takes.described ?_
  by_cases open' : property.isVar = true
  · rw [if_pos open', if_pos open']
    cases value with
    | script content =>
        have stores : StoresAs foreign world ref property flags (storeVar ref content flags).run
            (property.cellOfVar world.graph.schema content) := storeVar_stores takes content
        rw [Property.cellOfVar, if_pos open'] at stores
        exact stores
    | _ => exact .fail (.of_steps fun _ => rfl)
  · rw [if_neg open', if_neg open']
    exact storeNative_stores takes value

theorem reset_stores (takes : world.graph.Takes ref property flags) :
    StoresAs foreign world ref property flags (reset ref flags).run
      (property.cellOfReset world.graph.schema) := by
  unfold reset Property.cellOfReset
  refine .ask (ObjectGraph.resolve_of_direct takes.described takes.direct _) ?_
  refine .ask takes.described ?_
  by_cases resettable : property.resettable = true
  · rw [if_pos resettable, if_pos resettable]
    exact write_stores takes property.default
  · rw [if_neg resettable, if_neg resettable]
    exact .fail (.of_steps fun _ => rfl)

theorem assign_stores (takes : world.graph.Takes ref property .none) (value : Native) :
    StoresAs foreign world ref property .none (assign ref value).run
      (if property.isVar then property.cellOfVar world.graph.schema value.toValue
        else property.cellOf world.graph.schema value) := by
  unfold assign
  refine .ask takes.described ?_
  by_cases open' : property.isVar = true
  · rw [if_pos open', if_pos open']
    refine .place fun placed identities plain => ?_
    refine .congr (writeVar_stores ?_ placed) ?_
    · exact ⟨takes.described, takes.direct, takes.interceptor, takes.writers⟩
    · rw [← Property.cellOfVar_plain, plain, Property.cellOfVar_plain]
  · rw [if_neg open', if_neg open']
    exact write_stores takes value

/-! ## Write-back -/

section WriteBack

theorem writeUndefined_stores (takes : world.graph.Takes ref property flags)
    (strategy : WriteStrategy) :
    StoresAs foreign world ref property flags
      (WriteBack.writeUndefined strategy ref property flags).run
      (strategy.cellOfUndefined world.graph.context property) := by
  unfold WriteBack.writeUndefined WriteStrategy.cellOfUndefined
  by_cases resettable : property.resettable = true
  · rw [if_pos resettable, if_pos resettable]
    exact (reset_stores takes).adapt _
  · rw [if_neg resettable, if_neg resettable]
    cases strategy with
    | variant => exact (write_stores takes _).adapt _
    | script => exact (write_stores takes _).adapt _
    | varSlot => exact (writeVar_stores takes _).adapt _
    | _ =>
        exact .perform (fun _ => rfl) (.fail (.of_steps fun _ => rfl))

theorem writeDefined_stores (takes : world.graph.Takes ref property flags)
    (strategy : WriteStrategy) (value : Value) :
    StoresAs foreign world ref property flags (if strategy = .varSlot then
        WriteBack.access (writeVar ref value flags)
      else do
        let native ← WriteBack.convert fun graph =>
          strategy.native graph.context property.type value
        WriteBack.access (write ref native flags)).run
      (strategy.cellOfDefined world.graph.context property value) := by
  unfold WriteStrategy.cellOfDefined
  by_cases slot : strategy = .varSlot
  · rw [if_pos slot, if_pos slot]
    exact (writeVar_stores takes value).adapt _
  · rw [if_neg slot, if_neg slot]
    have converted : Steps (WriteBack.convert fun graph =>
        strategy.native graph.context property.type value).run world
        ((strategy.native world.graph.context property.type value).mapError .ofConversion) world :=
      fun _ => rfl
    cases found : strategy.native world.graph.context property.type value with
    | error error =>
        rw [found] at converted
        exact .stop converted
    | ok native =>
        rw [found] at converted
        exact .attempt converted ((write_stores takes native).adapt _)

theorem writeValue_stores (takes : world.graph.Takes ref property flags)
    (strategy : WriteStrategy) (value : Value) :
    StoresAs foreign world ref property flags
      (WriteBack.writeValue strategy ref property value flags).run
      (strategy.cellOfValue world.graph.context property value) := by
  have defined : StoresAs foreign world ref property flags _
      (strategy.cellOfDefined world.graph.context property value) :=
    writeDefined_stores takes strategy value
  unfold WriteBack.writeValue WriteStrategy.cellOfValue
  cases value with
  | undefined => exact writeUndefined_stores takes strategy
  | function callee marked =>
      cases accepts : strategy.acceptsFunctions with
      | false => exact .fail (.of_steps fun _ => rfl)
      | true => exact defined
  | _ => exact defined

theorem writeProperty_stores (takes : world.graph.Takes ref property flags)
    (strategy : WriteStrategy) (result : Boxed) :
    StoresAs foreign world ref property flags
      (WriteBack.writeProperty strategy ref property result flags).run
      (strategy.cellOf world.graph.context property result) := by
  unfold WriteBack.writeProperty WriteStrategy.cellOf
  cases result with
  | dynamic value => exact writeValue_stores takes strategy value
  | native type value shared =>
      dsimp only
      by_cases direct : (strategy ≠ .varSlot && value.fits property.type &&
          !strategy.checksClasses) = true
      · rw [if_pos direct, if_pos direct]
        exact (write_stores takes value).adapt _
      · rw [if_neg direct, if_neg direct]
        refine .place fun placed identities plain => ?_
        refine .congr (writeValue_stores ?_ strategy placed) ?_
        · exact ⟨takes.described, takes.direct, takes.interceptor, takes.writers⟩
        · exact strategy.cellOfValue_congr _ property plain

theorem chooseStrategy_steps {adapter : AdapterId} {strategy : WriteStrategy}
    (chosen : world.adapters[adapter]? = some (some strategy)) (property : Property) :
    Steps (WriteBack.chooseStrategy adapter property) world strategy world := by
  intro outside
  have looked : WriteBack.strategy? adapter outside world = some (some strategy, world) := by
    show some ((world.adapters[adapter]?).join, world) = _
    rw [chosen]
    rfl
  unfold WriteBack.chooseStrategy
  rw [apply_bind, looked]
  rfl

theorem writeBack_stores {adapter : AdapterId} {strategy : WriteStrategy}
    (takes : world.graph.Takes ref property flags)
    (chosen : world.adapters[adapter]? = some (some strategy)) (result : Boxed) :
    StoresAs foreign world ref property flags (WriteBack.write adapter ⟨ref, none⟩ result flags).run
      (strategy.cellOf world.graph.context property result) := by
  have described : Steps (WriteBack.access (Attempt.ask fun graph => graph.property ref)).run world
      (.ok property) world := by
    intro outside
    show some ((world.graph.property ref).mapError WriteError.ofProperty, world) = _
    rw [takes.described]
    rfl
  unfold WriteBack.write
  refine .attempt described ?_
  refine .perform (chooseStrategy_steps chosen property) ?_
  exact writeProperty_stores takes strategy result

/-- The flags with which a binding stores its results. -/
def writeBackFlags (world : World σ) (id : BindingId) (flags : WriteFlags) : WriteFlags :=
  { flags with
    keep := true
    bypass := flags.bypass || ((world.bindings[id]?).map (·.fastPath)).getD false }

/-- The result of an evaluation is written back as the strategy of the binding's adapter says. -/
theorem storeResult_stores {id : BindingId} {binding : Binding} {strategy : WriteStrategy}
    (takes : world.graph.Takes binding.target.property property (writeBackFlags world id flags))
    (whole : binding.target.field? = none)
    (chosen : world.adapters[binding.adapter]? = some (some strategy)) (result : Boxed) :
    StoresAs foreign world binding.target.property property (writeBackFlags world id flags)
      (storeResult id binding result flags).run
      (strategy.cellOf world.graph.context property result) := by
  have resolved : Steps (WriteBack.access (Attempt.ask fun graph =>
      graph.resolve binding.target.property binding.context.config.aliasDepth)).run world
      (.ok binding.target.property) world := by
    intro outside
    show some (((world.graph.resolve binding.target.property
      binding.context.config.aliasDepth).mapError WriteError.ofProperty), world) = _
    rw [ObjectGraph.resolve_of_direct takes.described takes.direct]
    rfl
  unfold storeResult
  refine .attempt resolved ?_
  refine .perform (apply_binding? · world id) ?_
  rw [whole]
  exact writeBack_stores takes chosen result

end WriteBack

end Engine

end PropertyBinding

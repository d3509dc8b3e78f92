import PropertyBinding.Proofs.Kinship

namespace PropertyBinding

/-!
# Operations that return

On a closed world every write and every write-back returns, and leads to a
world that is kin to the one before, provided that the calls of bindings which
announcements make do so.  There is one lemma for each operation, and its proof
goes through the operation step by step; only `announce` uses the proviso.
-/

namespace Engine

variable {σ α β ε : Type} {foreign : Surroundings σ} {start : World σ}

/-- Among the kin of a world an operation ends, and it leads to kin of that world. -/
def Within (foreign : Surroundings σ) (start : World σ) (operation : Engine σ α) : Prop :=
  ∀ world, Kin start world → Leads foreign operation world fun _ after => Kin start after

namespace Within

theorem value (result : α) : Within foreign start (pure result : Engine σ α) :=
  fun _ kin => .value kin

theorem bind {operation : Engine σ α} {next : α → Engine σ β}
    (first : Within foreign start operation) (second : ∀ result, Within foreign start (next result)) :
    Within foreign start (operation >>= next) :=
  fun world kin => .bind _ (first world kin) fun result after => second result after

theorem look {next : World σ → Engine σ β}
    (rest : ∀ world, Kin start world →
      Leads foreign (next world) world fun _ after => Kin start after) :
    Within foreign start (get >>= next) :=
  fun world kin => .look (rest world kin)

/-- The graph as it is now, with the shape that the graph had at the start. -/
theorem seen : Within foreign start (graph : Engine σ ObjectGraph) :=
  fun _ kin => .of_steps (fun _ => rfl) kin

theorem change {change : World σ → World σ}
    (keeps : ∀ world, Kin start world → Kin start (change world)) :
    Within foreign start (modify change : Engine σ Unit) :=
  fun world kin => .change (keeps world kin)

theorem attempt {operation : Attempt ε σ α} {next : α → Attempt ε σ β}
    (first : Within foreign start operation.run)
    (second : ∀ result, Within foreign start (next result).run) :
    Within foreign start (operation >>= next).run :=
  fun world kin => .attempt _ (first world kin) (fun result after => second result after)
    fun _ _ kin => kin

theorem perform {operation : Engine σ α} {next : α → Attempt ε σ β}
    (first : Within foreign start operation)
    (second : ∀ result, Within foreign start (next result).run) :
    Within foreign start (Attempt.perform operation >>= next).run :=
  fun world kin => .perform _ (first world kin) fun result after => second result after

theorem done {operation : Engine σ α} (last : Within foreign start operation) :
    Within foreign start (Attempt.perform operation : Attempt ε σ α).run := by
  intro world kin
  rcases last world kin with ⟨result, after, ends, reached⟩
  exact ⟨.ok result, after, ends.map _, reached⟩

theorem ask {question : ObjectGraph → Except ε α} {next : α → Attempt ε σ β}
    (second : ∀ answer, Within foreign start (next answer).run) :
    Within foreign start (Attempt.ask question >>= next).run :=
  fun world kin => .ask (fun answer _ => second answer world kin) fun _ _ => kin

/-- The answer to a question about the shape of the graph is the one of the start. -/
theorem askShape {question : ObjectGraph → Except ε α} {next : α → Attempt ε σ β}
    (shape : ∀ {left right}, ObjectGraph.SameShape left right → question left = question right)
    (second : ∀ answer, question start.graph = .ok answer →
      Within foreign start (next answer).run) :
    Within foreign start (Attempt.ask question >>= next).run :=
  fun world kin => .ask
    (fun answer answered => second answer ((shape kin.shape).trans answered) world kin)
    fun _ _ => kin

theorem fail (error : ε) : Within foreign start (throw error : Attempt ε σ α).run :=
  value (Except.error error)

theorem succeed (result : α) : Within foreign start (pure result : Attempt ε σ α).run :=
  value (Except.ok result)

/-- Failures under another name. -/
theorem adapt {ε' : Type} {operation : Attempt ε σ α} (rename : ε → ε')
    (inner : Within foreign start operation.run) :
    Within foreign start (ExceptT.adapt rename operation).run := by
  intro world kin
  rcases inner world kin with ⟨result, after, ends, reached⟩
  exact ⟨_, after, ends.map _, reached⟩

theorem branch {condition : Prop} [Decidable condition] {yes no : Engine σ α}
    (left : condition → Within foreign start yes) (right : ¬condition → Within foreign start no) :
    Within foreign start (if condition then yes else no) := by
  by_cases holds : condition
  · rw [if_pos holds]
    exact left holds
  · rw [if_neg holds]
    exact right holds

theorem choose {condition : Prop} [Decidable condition] {yes no : Attempt ε σ α}
    (left : condition → Within foreign start yes.run)
    (right : ¬condition → Within foreign start no.run) :
    Within foreign start (if condition then yes else no).run := by
  by_cases holds : condition
  · rw [if_pos holds]
    exact left holds
  · rw [if_neg holds]
    exact right holds

end Within

/-! ## Bindings, channels and writers -/

theorem modifyBinding_within (id : BindingId) {change : Binding → Binding}
    (continues : ∀ binding : Binding, binding.Continues (change binding)) :
    Within foreign start (modifyBinding id change) :=
  .change fun _ kin => kin.modifyBinding id fun binding _ => continues binding

theorem modifyChannels_within {change : Channels → Channels}
    (closed : ∀ channels, channels.Closed → (change channels).Closed) :
    Within foreign start (modifyChannels change) :=
  .change fun _ kin => kin.withChannels (closed _ kin.closed.channels)

theorem binding?_within (id : BindingId) :
    Within foreign start (binding? id : Engine σ (Option Binding)) :=
  fun _ kin => .of_steps (apply_binding? · _ id) kin

theorem clearReads_within (id : BindingId) : Within foreign start (clearReads id) := by
  refine .bind (binding?_within id) fun found => ?_
  cases found with
  | none => exact .value ()
  | some binding =>
      refine .bind (modifyBinding_within id fun _ => ⟨rfl, rfl, fun _ may => may⟩) fun _ => ?_
      exact modifyChannels_within fun _ closed => closed.releaseAll _

theorem retireAll_within {writers : List Writer}
    (bindings : ∀ writer ∈ writers, ∃ id, writer = .binding id) :
    Within foreign start (retireAll writers) := by
  induction writers with
  | nil => exact .value ()
  | cons writer rest step =>
      have others := step fun writer member => bindings writer (List.mem_cons_of_mem _ member)
      rcases bindings writer List.mem_cons_self with ⟨id, rfl⟩
      refine .bind ?_ fun _ => others
      refine .bind (modifyBinding_within id fun _ => ⟨rfl, rfl, fun _ may => may⟩) fun _ => ?_
      exact clearReads_within id

/-- Writers that a filter leaves were there before. -/
theorem mem_values_of_mem_keep {entries : Entries WriterSlot Writer} {test : WriterSlot → Bool}
    {writer : Writer} (member : writer ∈ (entries.keep test).values) : writer ∈ entries.values := by
  rcases List.mem_map.mp member with ⟨entry, kept, rfl⟩
  exact List.mem_map.mpr ⟨entry, (List.mem_filter.mp kept).1, rfl⟩

theorem removeWriters_within (ref : PropertyRef) : Within foreign start (removeWriters ref) := by
  intro world kin
  refine .lookGraph ?_
  cases found : world.graph.object? ref.object with
  | none => exact .value kin
  | some object =>
      have bindings : ∀ writer ∈ object.writersOf ref.index, ∃ id, writer = .binding id :=
        fun writer member => kin.closed.graph.writers _ object found writer
          (mem_values_of_mem_keep member)
      refine .bind _ ?_ fun _ after reached => retireAll_within bindings after reached
      refine .change (kin.withGraph ?_ ?_)
      · exact .update _ _ (fun _ => rfl) fun _ => rfl
      · exact kin.closed.graph.update _ (fun _ => rfl) fun _ _ member =>
          .inl (mem_values_of_mem_keep member)

/-! ## Announcements and writes -/

/-- The calls of bindings, which stay among the kin of a world. -/
def CallsWithin (foreign : Surroundings σ) (start : World σ) : Prop :=
  ∀ id, Within foreign start (Engine.foreign fun outside => outside.announce (.binding id))

theorem callAll_within (calls : CallsWithin foreign start) {subscribers : List Subscriber}
    (bindings : ∀ subscriber ∈ subscribers, ∃ id, subscriber.callback = .binding id) :
    Within foreign start (callAll subscribers) := by
  induction subscribers with
  | nil => exact .value ()
  | cons subscriber rest step =>
      have others := step fun subscriber member =>
        bindings subscriber (List.mem_cons_of_mem _ member)
      rcases bindings subscriber List.mem_cons_self with ⟨id, called⟩
      refine .bind ?_ fun _ => others
      rw [called]
      exact calls id

theorem announce_within (calls : CallsWithin foreign start) (source : Source) :
    Within foreign start (announce source) := by
  intro world kin
  refine .look ?_
  have live := Channels.fst_startAnnouncement world.channels source
  have closed := kin.closed.channels.startAnnouncement source
  rcases started : world.channels.startAnnouncement source with ⟨subscribers, channels⟩
  rw [started] at live closed
  have bindings : ∀ subscriber ∈ subscribers, ∃ id, subscriber.callback = .binding id := by
    intro subscriber member
    have listed : subscriber ∈ world.channels.liveOf source := live ▸ member
    exact kin.closed.channels source subscriber (Channels.mem_subscribersOf_of_mem_liveOf listed)
  have held : Kin start { world with channels := channels } := kin.withChannels closed
  refine .bind (fun _ after => Kin start after) (.change held) fun _ after reached => ?_
  refine .bind _ (callAll_within calls bindings after reached) fun _ last reached => ?_
  exact modifyChannels_within (fun _ closed => closed.releaseAll _) last reached

theorem store_within (calls : CallsWithin foreign start) {ref : PropertyRef} {property : Property}
    (described : start.graph.property ref = .ok property) (direct : property.isAlias = false)
    (signal : Nat) (cell : Cell) (unchanged : Cell → Bool) (flags : WriteFlags) :
    Within foreign start (store ref signal cell unchanged flags).run := by
  unfold store
  refine .perform .seen fun graph => .choose (fun _ => .done ?_) fun _ => .fail _
  refine .bind (.change fun world kin => ?_) fun _ => ?_
  · have known := (kin.shape.property ref).symm.trans described
    exact kin.withGraph (.setCell known direct cell) (kin.closed.graph.setCell ref cell)
  · exact .branch (fun _ => announce_within calls _) fun _ => .value ()

/-- An open slot is no alias. -/
theorem not_alias_of_isVar {property : Property} (open' : property.isVar) :
    property.isAlias = false := by
  simp_all [Property.isVar, Property.isAlias]

theorem storeVar_within (calls : CallsWithin foreign start) (ref : PropertyRef) (value : Value)
    (flags : WriteFlags) : Within foreign start (storeVar ref value flags).run := by
  unfold storeVar
  refine .askShape (fun shape => shape.property ref) fun property described => ?_
  refine .choose (fun open' => ?_) fun _ => ?_
  · have stores := store_within calls described (not_alias_of_isVar open') property.signal
      (.var value) (fun cell => cell.holdsVar value) flags
    refine .choose (fun _ => ?_) fun _ => stores
    exact .perform (removeWriters_within ref) fun _ => stores
  · exact .perform .seen fun _ => .fail _

theorem requireFit_within (property : Property) (value : Native) :
    Within foreign start (requireFit property value).run := by
  unfold requireFit
  refine .choose (fun _ => ?_) fun _ => .succeed _
  exact .perform .seen fun _ => .fail _

theorem intercepted_within (ref : PropertyRef) (value : Native) :
    Within foreign start (intercepted ref value).run := by
  intro world kin
  unfold intercepted
  refine .performGraph ?_
  rw [kin.closed.graph.interceptors ref]
  by_cases alive : world.graph.isAlive ref.object = true
  · rw [if_pos alive]
    exact .value kin
  · rw [if_neg alive]
    exact .value kin

theorem storeNative_within (calls : CallsWithin foreign start) {ref : PropertyRef}
    {property : Property} (described : start.graph.property ref = .ok property)
    (direct : property.isAlias = false) (value : Native) (flags : WriteFlags) :
    Within foreign start (storeNative ref property value flags).run := by
  unfold storeNative
  refine .attempt (requireFit_within property value) fun _ => ?_
  have stores : Within foreign start (if flags.bypass then
      store ref property.signal (.native value) (fun cell => cell.holds value) flags
    else do
      let final ← intercepted ref value
      requireFit property final
      store ref property.signal (.native final) (fun cell => cell.holds final) flags).run := by
    refine .choose (fun _ => store_within calls described direct _ _ _ _) fun _ => ?_
    refine .attempt (intercepted_within ref value) fun final => ?_
    exact .attempt (requireFit_within property final) fun _ =>
      store_within calls described direct _ _ _ _
  exact .choose (fun _ => .perform (removeWriters_within ref) fun _ => stores) fun _ => stores

/-- What an alias chain of the start ends at is a property that is no alias. -/
theorem resolve_within {next : PropertyRef → Attempt PropertyError σ α} (ref : PropertyRef)
    (second : ∀ target property, start.graph.property target = .ok property →
      property.isAlias = false → Within foreign start (next target).run) :
    Within foreign start (resolve ref >>= next).run := by
  refine .askShape (fun shape => shape.resolve ref _) fun target resolved => ?_
  rcases ObjectGraph.not_alias_of_resolve resolved with ⟨property, described, direct⟩
  exact second target property described direct

theorem writeVar_within (calls : CallsWithin foreign start) (ref : PropertyRef) (value : Value)
    (flags : WriteFlags) : Within foreign start (writeVar ref value flags).run := by
  unfold writeVar
  exact resolve_within ref fun target _ _ _ => storeVar_within calls target value flags

theorem write_within (calls : CallsWithin foreign start) (ref : PropertyRef) (value : Native)
    (flags : WriteFlags) : Within foreign start (write ref value flags).run := by
  unfold write
  refine resolve_within ref fun target property described direct => ?_
  refine .askShape (fun shape => shape.property target) fun found same => ?_
  rw [described] at same
  cases same
  refine .choose (fun _ => ?_) fun _ => storeNative_within calls described direct value flags
  cases value with
  | script content => exact storeVar_within calls target content flags
  | _ => exact .fail _

theorem reset_within (calls : CallsWithin foreign start) (ref : PropertyRef) (flags : WriteFlags) :
    Within foreign start (reset ref flags).run := by
  unfold reset
  refine resolve_within ref fun target _ _ _ => .ask fun property => ?_
  exact .choose (fun _ => write_within calls target _ flags) fun _ => .fail _

theorem place_within (value : Value) : Within foreign start (place value) := by
  intro world kin
  refine .look ?_
  exact .bind (fun _ after => Kin start after) (.change (kin.congr rfl rfl rfl rfl rfl))
    fun _ _ reached => .value reached

theorem assign_within (calls : CallsWithin foreign start) (ref : PropertyRef) (value : Native) :
    Within foreign start (assign ref value).run := by
  unfold assign
  refine .ask fun property => .choose (fun _ => ?_) fun _ => write_within calls ref value .none
  exact .perform (place_within _) fun placed => writeVar_within calls ref placed .none

theorem assignNamed_within (calls : CallsWithin foreign start) (id : ObjectId) (name : String)
    (value : Native) : Within foreign start (assignNamed id name value).run := by
  unfold assignNamed
  exact .ask fun index => assign_within calls ⟨id, index⟩ value

theorem assignNotifier_within (calls : CallsWithin foreign start) (id : NotifierId)
    (value : Value) : Within foreign start (assignNotifier id value) := by
  intro world kin
  refine .look ?_
  cases (world.notifiers[id]?).bind fun notifier => notifier.assign? value with
  | none => exact .value kin
  | some changed =>
      refine .bind (fun _ after => Kin start after) (.change (kin.congr rfl rfl rfl rfl rfl)) ?_
      exact fun _ after reached => announce_within calls _ after reached

/-! ## Write-back -/

section WriteBack

variable (calls : CallsWithin foreign start)
include calls

theorem writeUndefined_within (strategy : WriteStrategy) (ref : PropertyRef) (property : Property)
    (flags : WriteFlags) :
    Within foreign start (WriteBack.writeUndefined strategy ref property flags).run := by
  unfold WriteBack.writeUndefined
  refine .choose (fun _ => (reset_within calls ref flags).adapt _) fun _ => ?_
  cases strategy with
  | variant => exact (write_within calls ref _ flags).adapt _
  | script => exact (write_within calls ref _ flags).adapt _
  | varSlot => exact (writeVar_within calls ref _ flags).adapt _
  | _ => exact .perform (.bind .seen fun _ => .value _) fun _ => .fail _

theorem writeValue_within (strategy : WriteStrategy) (ref : PropertyRef) (property : Property)
    (value : Value) (flags : WriteFlags) :
    Within foreign start (WriteBack.writeValue strategy ref property value flags).run := by
  have defined : Within foreign start (if strategy = .varSlot then
      WriteBack.access (writeVar ref value flags)
    else do
      let native ← WriteBack.convert fun graph => strategy.native graph.context property.type value
      WriteBack.access (write ref native flags)).run := by
    refine .choose (fun _ => (writeVar_within calls ref value flags).adapt _) fun _ => ?_
    refine .attempt (.adapt _ fun _ kin => .of_steps (fun _ => rfl) kin) fun native => ?_
    exact (write_within calls ref native flags).adapt _
  unfold WriteBack.writeValue
  cases value with
  | undefined => exact writeUndefined_within calls strategy ref property flags
  | function callee marked =>
      cases accepts : strategy.acceptsFunctions with
      | false => exact .fail _
      | true => exact defined
  | _ => exact defined

theorem writeProperty_within (strategy : WriteStrategy) (ref : PropertyRef) (property : Property)
    (result : Boxed) (flags : WriteFlags) :
    Within foreign start (WriteBack.writeProperty strategy ref property result flags).run := by
  unfold WriteBack.writeProperty
  cases result with
  | dynamic value => exact writeValue_within calls strategy ref property value flags
  | native type value shared =>
      refine .choose (fun _ => (write_within calls ref value flags).adapt _) fun _ => ?_
      exact .perform (place_within _) fun placed =>
        writeValue_within calls strategy ref property placed flags

omit calls in
theorem fieldNumber_within (value : Value) :
    Within foreign start (WriteBack.fieldNumber value).run := by
  unfold WriteBack.fieldNumber
  split
  · exact .perform (.bind .seen fun _ => .value _) fun _ => .fail _
  · exact .fail _
  · exact .succeed _
  · refine .attempt (.adapt _ fun _ kin => .of_steps (fun _ => rfl) kin) fun native => ?_
    split
    · exact .succeed _
    · exact .perform .seen fun _ => .fail _

theorem writeField_within (ref : PropertyRef) (property : Property) (field : Nat) (result : Boxed)
    (flags : WriteFlags) :
    Within foreign start (WriteBack.writeField ref property field result flags).run := by
  unfold WriteBack.writeField
  refine .attempt (fieldNumber_within _) fun number => ?_
  refine .attempt (.adapt _ fun _ kin => .of_steps (fun _ => rfl) kin) fun current => ?_
  cases current with
  | record value =>
      dsimp only
      cases value.setField? field number with
      | some changed => exact (write_within calls ref (.record changed) flags).adapt _
      | none => exact .fail _
  | _ => exact .perform .seen fun _ => .fail _

omit calls in
theorem chooseStrategy_within (adapter : AdapterId) (property : Property) :
    Within foreign start (WriteBack.chooseStrategy adapter property) := by
  intro world kin
  have looked : Within foreign start (WriteBack.strategy? adapter) :=
    .look fun _ kin => .value kin
  refine .bind _ (looked world kin) fun chosen after reached => ?_
  cases chosen with
  | some strategy => exact .value reached
  | none =>
      refine .bind (fun _ after => Kin start after) (.change (reached.congr rfl rfl rfl rfl rfl)) ?_
      exact fun _ _ reached => .value reached

theorem writeBack_within (adapter : AdapterId) (target : BindingTarget) (result : Boxed)
    (flags : WriteFlags) :
    Within foreign start (WriteBack.write adapter target result flags).run := by
  unfold WriteBack.write
  refine .attempt (.adapt _ fun _ kin => .of_steps (fun _ => rfl) kin) fun property => ?_
  cases target.field? with
  | some field => exact writeField_within calls target.property property field result flags
  | none =>
      exact .perform (chooseStrategy_within adapter property) fun strategy =>
        writeProperty_within calls strategy target.property property result flags

theorem storeResult_within (id : BindingId) (binding : Binding) (result : Boxed)
    (flags : WriteFlags) : Within foreign start (storeResult id binding result flags).run := by
  unfold storeResult
  refine .attempt (.adapt _ fun _ kin => .of_steps (fun _ => rfl) kin) fun ref => ?_
  exact .perform (binding?_within id) fun _ => writeBack_within calls _ _ _ _

end WriteBack

/-! ## Reports -/

theorem warn_within (warning : Warning) : Within foreign start (warn warning) :=
  .change fun _ kin => kin.congr rfl rfl rfl rfl rfl

theorem modifyDiagnostics_within (id : DiagnosticsId) {change : Diagnostics → Diagnostics}
    (keeps : ∀ diagnostics, (change diagnostics).handler? = diagnostics.handler?) :
    Within foreign start (modifyDiagnostics id change) := by
  refine .change fun world kin => ?_
  refine ⟨kin.holders, kin.shape, ⟨kin.closed.graph, kin.closed.channels, ?_⟩, kin.count,
    kin.bindings⟩
  intro diagnostics member
  rcases List.mem_iff_getElem?.mp member with ⟨place, found⟩
  rw [List.getElem?_modify] at found
  rcases Option.map_eq_some_iff.mp found with ⟨former, present, rfl⟩
  have unhandled := kin.closed.handlers former (List.mem_of_getElem? present)
  by_cases same : id = place
  · rw [if_pos same, keeps, unhandled]
  · rw [if_neg same, unhandled]

theorem onEvidence_within (id : DiagnosticsId) (step : EvidenceLog.Step) :
    Within foreign start (onEvidence id step).run := by
  intro world kin
  refine .look ?_
  cases (world.diagnostics[id]?).bind (·.log?) with
  | none => exact .value kin
  | some log =>
      have noted : Within foreign start (modifyDiagnostics id fun diagnostics =>
          { diagnostics with log? := some (step.run.run log).2 }) :=
        modifyDiagnostics_within id fun _ => rfl
      exact .bind _ (noted world kin) fun _ _ reached => .value reached

theorem keepEvidence_within (id : DiagnosticsId) (failure : Failure) :
    Within foreign start (keepEvidence id failure) := by
  refine .bind (onEvidence_within id _) fun outcome => ?_
  cases outcome with
  | ok _ => exact .value ()
  | error error => exact warn_within (.lostEvidence error)

theorem report_within (id : DiagnosticsId) (failure : Failure) :
    Within foreign start (report id failure) := by
  refine .bind (warn_within _) fun _ => .bind (keepEvidence_within id failure) fun _ => .look ?_
  intro world kin
  cases found : world.diagnostics[id]? with
  | none => exact .value kin
  | some diagnostics =>
      have unhandled := kin.closed.handlers diagnostics (List.mem_of_getElem? found)
      have recorded : Within foreign start
          (modifyDiagnostics id fun diagnostics => diagnostics.record failure) :=
        modifyDiagnostics_within id fun _ => rfl
      refine .bind _ (recorded world kin) fun _ after reached => ?_
      rw [unhandled]
      exact .value reached

theorem recordFailure_within (id : BindingId) (failure : Failure) :
    Within foreign start (recordFailure id failure) := by
  have noted : ∀ reported, Within foreign start
      (modifyBinding id fun binding => binding.withPending failure reported) :=
    fun _ => modifyBinding_within id fun _ => ⟨rfl, rfl, fun _ may => may⟩
  refine .bind (binding?_within id) fun found => ?_
  cases found with
  | none => exact .value ()
  | some binding =>
      refine .branch (fun _ => .bind (noted false) fun _ => ?_) fun _ =>
        .bind (noted true) fun _ => report_within _ _
      cases binding.unreported? with
      | none => exact .value ()
      | some earlier => exact report_within _ _

theorem reportLoop_within (binding : Binding) : Within foreign start (reportLoop binding) :=
  .branch (fun _ => .bind .seen fun _ => report_within _ _) fun _ => .value ()

end Engine

end PropertyBinding

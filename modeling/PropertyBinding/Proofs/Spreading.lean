import PropertyBinding.Proofs.Resting

namespace PropertyBinding

/-!
# How a change spreads

A store makes the readers of its source stale, and the announcement that follows
calls each of them at least once.  A call updates the binding, which settles it
whatever it was before, and stores at the level of the binding; so all that it
makes stale ranks higher, and is called before the store is over.  Bindings that
are being updated rank no higher than what is stored, and none of them is called.

An announcement calls those who had subscribed when it began, also when they
have subscribed elsewhere since.  A call too many does no harm, because it
settles its binding once more.
-/

/-- Whether reporting a failure is all that has happened. -/
structure World.Told {σ : Type} (failure : Failure) (world after : World σ) : Prop where
  same : ∃ warnings diagnostics,
    after = { world with warnings := warnings, diagnostics := diagnostics }
  warnings : ∀ other, .failure other ∈ after.warnings →
    .failure other ∈ world.warnings ∨ other = failure
  handlers : (∀ diagnostics ∈ world.diagnostics, diagnostics.handler? = none) →
    ∀ diagnostics ∈ after.diagnostics, diagnostics.handler? = none

namespace World.Told

variable {σ : Type} {failure : Failure} {world middle after : World σ}

theorem refl (failure : Failure) (world : World σ) : World.Told failure world world :=
  ⟨⟨world.warnings, world.diagnostics, rfl⟩, fun _ member => .inl member, fun handlers => handlers⟩

theorem trans (first : World.Told failure world middle) (second : World.Told failure middle after) :
    World.Told failure world after := by
  rcases first with ⟨⟨_, _, rfl⟩, warnings, handlers⟩
  rcases second with ⟨⟨warnings', diagnostics', rfl⟩, later, still⟩
  refine ⟨⟨warnings', diagnostics', rfl⟩, ?_, fun given => still (handlers given)⟩
  intro other member
  rcases later other member with old | new
  · exact warnings other old
  · exact .inr new

/-- Some diagnostics have changed, but for their handler. -/
theorem modifyDiagnostics (failure : Failure) (world : World σ) (id : DiagnosticsId)
    {change : Diagnostics → Diagnostics}
    (keeps : ∀ diagnostics, (change diagnostics).handler? = diagnostics.handler?) :
    World.Told failure world { world with diagnostics := world.diagnostics.modify id change } := by
  refine ⟨⟨world.warnings, _, rfl⟩, fun _ member => .inl member, ?_⟩
  intro handlers diagnostics member
  rcases List.mem_iff_getElem?.mp member with ⟨place, found⟩
  rw [List.getElem?_modify] at found
  rcases Option.map_eq_some_iff.mp found with ⟨former, present, rfl⟩
  have unhandled := handlers former (List.mem_of_getElem? present)
  by_cases same : id = place
  · rw [if_pos same, keeps, unhandled]
  · rw [if_neg same, unhandled]

/-- A further warning that is of no other failure. -/
theorem warn {warning : Warning} (world : World σ)
    (own : ∀ other, warning = .failure other → other = failure) :
    World.Told failure world { world with warnings := world.warnings ++ [warning] } := by
  refine ⟨⟨_, world.diagnostics, rfl⟩, fun other member => ?_, fun handlers => handlers⟩
  rcases List.mem_append.mp member with old | new
  · exact .inl old
  · exact .inr (own other (List.mem_singleton.mp new).symm)

end World.Told

namespace Engine

variable {σ α : Type} {foreign : Surroundings σ} {host : Host σ} {start world : World σ}
  {rank : PropertyRef → Nat} {frames : List BindingId} {held : List SubscriptionId}
  {stale stale' : BindingId → Prop} {id : BindingId} {binding : Binding}

/-! ## Failures -/

theorem keepEvidence_leads (id : DiagnosticsId) (failure : Failure) (world : World σ) :
    Leads foreign (keepEvidence id failure) world fun _ after => World.Told failure world after := by
  have kept : Leads foreign (onEvidence id (EvidenceLog.addLine failure.evidence)).run world
      fun _ after => World.Told failure world after := by
    refine .look ?_
    cases (world.diagnostics[id]?).bind (·.log?) with
    | none => exact .value (.refl failure world)
    | some log => exact .of_steps (fun _ => rfl) (.modifyDiagnostics failure world id fun _ => rfl)
  refine .bind _ kept fun outcome after told => ?_
  cases outcome with
  | ok _ => exact .value told
  | error error => exact .change (told.trans (.warn after fun _ impossible => nomatch impossible))

/-- A report that no handler gets only tells of its failure. -/
theorem report_leads (id : DiagnosticsId) (failure : Failure)
    (handlers : ∀ diagnostics ∈ world.diagnostics, diagnostics.handler? = none) :
    Leads foreign (report id failure) world fun _ after => World.Told failure world after := by
  have warned : World.Told failure world
      { world with warnings := world.warnings ++ [.failure failure] } :=
    .warn world fun _ same => (Warning.failure.inj same).symm
  refine .bind (fun _ after => World.Told failure world after) (.change warned) fun _ after told => ?_
  refine .bind (fun _ after => World.Told failure world after) ?_ fun _ after told => .look ?_
  · exact (keepEvidence_leads id failure after).weaken fun _ _ further => told.trans further
  · cases found : after.diagnostics[id]? with
    | none => exact .value told
    | some diagnostics =>
        have unhandled := told.handlers handlers diagnostics (List.mem_of_getElem? found)
        refine .bind (fun _ last => World.Told failure world last) (.change ?_) fun _ last told => ?_
        · exact told.trans (.modifyDiagnostics failure after id fun _ => rfl)
        · rw [unhandled]
          exact .value told

/-- The failure becomes the latest of its binding, and it or the one before it may be reported. -/
theorem recordFailure_leads (sound : Sound start rank frames held world)
    (found : world.bindings[id]? = some binding) {failure : Failure}
    (kind : failure.kind ≠ .bindingLoop) :
    Leads foreign (recordFailure id failure) world fun _ after =>
      ∃ reported told, told.kind ≠ .bindingLoop ∧
        World.Told told { world with
          bindings := world.bindings.modify id fun binding => binding.withPending failure reported }
          after := by
  refine .lookBinding ?_
  rw [found]
  dsimp only
  by_cases defers : binding.context.config.deferErrors = true
  · rw [if_pos defers]
    refine .step (fun _ => rfl) ?_
    cases waiting : binding.unreported? with
    | none => exact .value ⟨false, failure, kind, .refl _ _⟩
    | some earlier =>
        have latest : binding.error? = some earlier := by
          unfold Binding.unreported? at waiting
          rcases Option.map_eq_some_iff.mp waiting with ⟨pending, filtered, rfl⟩
          rw [Binding.error?, (Option.filter_eq_some_iff.mp filtered).1]
          rfl
        have harmless := sound.failures id binding found earlier latest
        refine .weaken (report_leads _ earlier ?_) fun _ _ told => ⟨false, earlier, harmless, told⟩
        exact sound.handlers
  · rw [if_neg defers]
    refine .step (fun _ => rfl) ?_
    refine .weaken (report_leads _ failure ?_) fun _ _ told => ⟨true, failure, kind, told⟩
    exact sound.handlers

/-- A recorded failure leaves a sound world. -/
theorem sound_of_told {told failure : Failure} {reported : Bool} {after : World σ}
    (sound : Sound start rank frames held world) (found : world.bindings[id]? = some binding)
    (kind : failure.kind ≠ .bindingLoop) (harmless : told.kind ≠ .bindingLoop)
    (happened : World.Told told { world with
      bindings := world.bindings.modify id fun binding => binding.withPending failure reported }
      after) : Sound start rank frames held after := by
  have noted : Sound start rank frames held { world with
      bindings := world.bindings.modify id fun binding => binding.withPending failure reported } := by
    refine sound.modify found ⟨rfl, rfl, rfl, rfl, rfl, rfl, fun _ may => may⟩
      (fun _ => rfl) (fun _ => rfl) (sound.updating id binding found) (fun _ _ => Iff.rfl) ?_
    intro other latest
    cases latest
    exact kind
  rcases happened with ⟨⟨warnings, diagnostics, rfl⟩, known, handlers⟩
  refine ⟨noted.holders, noted.graph, noted.adapters, handlers noted.handlers, noted.count,
    noted.persists, noted.updating, noted.failures, ?_, noted.wired.congr rfl rfl⟩
  intro other member loop
  rcases known other member with old | rfl
  · exact noted.warnings other old loop
  · exact absurd loop harmless

/-! ## Announcements -/

/-- Whether the bindings of some frames rank no higher than a level. -/
def Below (start : World σ) (rank : PropertyRef → Nat) (level : Nat) (frames : List BindingId) :
    Prop :=
  ∀ id ∈ frames, ∀ binding, start.bindings[id]? = some binding → binding.level rank ≤ level

/-- Whether a call of any binding above a level settles it and changes only what is above. -/
def CallsSettle (host : Host σ) (start : World σ) (rank : PropertyRef → Nat) (level : Nat) : Prop :=
  ∀ (id : BindingId) binding, start.bindings[id]? = some binding → level < binding.level rank →
    ∀ frames held stale (world : World σ), Below start rank level frames →
      Resting host start rank frames held stale world →
        Leads host.surroundings (Engine.foreign fun outside => outside.announce (.binding id)) world
          fun _ after =>
            Resting host start rank frames held (fun other => stale other ∧ other ≠ id) after ∧
              ChangesAbove rank level world after

/-- Calls in turn settle all that are called. -/
theorem callAll_leads {level : Nat} (calls : CallsSettle host start rank level)
    (low : Below start rank level frames) {subscribers : List Subscriber}
    (climb : ∀ subscriber ∈ subscribers, ∃ (id : BindingId) (binding : Binding),
      subscriber.callback = .binding id ∧ start.bindings[id]? = some binding ∧
        level < binding.level rank)
    (resting : Resting host start rank frames held stale world) :
    Leads host.surroundings (callAll subscribers) world fun _ after =>
      Resting host start rank frames held
          (fun id => stale id ∧ ∀ subscriber ∈ subscribers, subscriber.callback ≠ .binding id) after ∧
        ChangesAbove rank level world after := by
  induction subscribers generalizing stale world with
  | nil => exact .value ⟨resting.weaken fun id was => ⟨was, fun _ member => by cases member⟩, .refl _ _ _⟩
  | cons subscriber rest step =>
      rcases climb subscriber List.mem_cons_self with ⟨id, binding, calls', known, above⟩
      have others := fun subscriber member => climb subscriber (List.mem_cons_of_mem _ member)
      refine .bind (fun _ after =>
        Resting host start rank frames held (fun other => stale other ∧ other ≠ id) after ∧
          ChangesAbove rank level world after) ?_ ?_
      · rw [calls']
        exact calls id binding known above frames held stale world low resting
      · rintro _ middle ⟨resting, first⟩
        refine (step others resting).weaken ?_
        rintro _ after ⟨resting, second⟩
        refine ⟨resting.weaken ?_, first.trans second⟩
        rintro other ⟨⟨was, different⟩, unlisted⟩
        refine ⟨was, fun listed member => ?_⟩
        rcases List.mem_cons.mp member with rfl | member
        · rw [calls']
          intro same
          cases same
          exact different rfl
        · exact unlisted listed member

/-- An announcement settles all bindings that read the source. -/
theorem announce_leads {source : Source} (lawful : LawfulFamily host start rank)
    (calls : CallsSettle host start rank (source.level rank))
    (low : Below start rank (source.level rank) frames)
    (resting : Resting host start rank frames held stale world)
    (readers : ∀ id, stale id → stale' id ∨ ∃ binding, world.bindings[id]? = some binding ∧
      source ∈ binding.reads.sources) :
    Leads host.surroundings (announce source) world fun _ after =>
      Resting host start rank frames held stale' after ∧
        ChangesAbove rank (source.level rank) world after := by
  refine .look ?_
  have live := Channels.fst_startAnnouncement world.channels source
  have wired := resting.sound.wired.startAnnouncement source
  rcases started : world.channels.startAnnouncement source with ⟨subscribers, channels⟩
  rw [started] at live wired
  change subscribers = _ at live
  change World.Wired rank _ { world with channels := channels } at wired
  rw [← live] at wired
  have climb : ∀ subscriber ∈ subscribers, ∃ (id : BindingId) (binding : Binding),
      subscriber.callback = .binding id ∧ start.bindings[id]? = some binding ∧
        source.level rank < binding.level rank := by
    intro subscriber member
    rw [live] at member
    rcases resting.sound.wired.climbs source subscriber
      (Channels.mem_subscribersOf_of_mem_liveOf member) with ⟨id, binding, calls, found, above⟩
    rcases resting.sound.persists id binding found with ⟨former, known, persists⟩
    exact ⟨id, former, calls, known, persists.level rank ▸ above⟩
  have begun : Resting host start rank frames (subscribers.map (·.id) ++ held) stale
      { world with channels := channels } :=
    resting.unchanged lawful (resting.sound.withChannels wired) (fun _ => rfl) rfl
      fun _ _ found _ fresh => ⟨fresh, found⟩
  refine .step (fun _ => rfl) ?_
  refine .bind _ (callAll_leads calls low climb begun) ?_
  rintro _ middle ⟨called, above⟩
  have ended : Resting host start rank frames held stale' { middle with
      channels := middle.channels.releaseAll (subscribers.map (·.id)) } := by
    refine called.unchanged lawful
      (called.sound.withChannels called.sound.wired.endAnnouncement) (fun _ => rfl) rfl ?_
    intro id binding found _ fresh
    refine ⟨?_, found⟩
    rintro ⟨was, unlisted⟩
    rcases readers id was with still | ⟨reader, present, reads⟩
    · exact fresh still
    · rcases List.mem_map.mp reads with ⟨edge, member, same⟩
      have listed := resting.sound.wired.live present member
      rw [same, ← live] at listed
      exact unlisted _ listed rfl
  have before : ChangesAbove rank (source.level rank) world { world with channels := channels } :=
    .of_same rfl rfl rfl rfl
  exact .change ⟨ended, before.trans (above.trans (.of_same rfl rfl rfl rfl))⟩

/-! ## Stores -/

theorem valueOf?_setCell {ref : PropertyRef} {source : Source}
    (different : source ≠ .property ref.object ref.index) (cell : Cell) :
    World.valueOf? { world with graph := world.graph.setCell ref cell } source =
      world.valueOf? source := by
  cases source with
  | property object signal =>
      have other : ref ≠ ⟨object, signal⟩ := by
        rintro rfl
        exact different rfl
      show ((world.graph.setCell ref cell).cell? ⟨object, signal⟩).map Cell.read = _
      rw [ObjectGraph.cell?_setCell_ne _ other]
      rfl
  | notifier id => rfl

/-- A cell that repeats the one in its place leaves the source steady. -/
theorem same_of_repeats {cell former : Cell} (repeats : cell.repeats former = true) :
    former.read.same cell.read = true := by
  cases cell with
  | native value =>
      cases former with
      | native old => exact repeats
      | _ => cases repeats
  | var value =>
      cases former with
      | var old => exact repeats
      | _ => cases repeats
  | _ => cases repeats

/-- A cell that is taken for the one in its place makes nothing stale. -/
theorem repeated_rests {ref : PropertyRef} {property : Property} {cell former : Cell}
    (ready : start.Ready) (lawful : LawfulFamily host start rank)
    (resting : Resting host start rank frames held stale world)
    (described : start.graph.property ref = .ok property)
    (found : world.graph.cell? ref = some former) (repeats : cell.repeats former = true) :
    Resting host start rank frames held stale
      { world with graph := world.graph.setCell ref cell } := by
  have stored : Sound start rank frames held { world with graph := world.graph.setCell ref cell } :=
    resting.sound.withGraph (resting.sound.graph.setCell ready described cell)
  have located : (world.graph.setCell ref cell).cell? ref = some cell := by
    rw [ObjectGraph.cell?_setCell, if_pos rfl, found]
    rfl
  refine resting.transfer lawful stored fun id binding present _ fresh => .inr ?_
  refine ⟨fresh, present, fun source _ => ?_, ?_⟩
  · by_cases here : source = .property ref.object ref.index
    · subst here
      refine .inr ⟨former.read, cell.read, ?_, ?_, same_of_repeats repeats⟩
      · exact congrArg (Option.map Cell.read) found
      · exact congrArg (Option.map Cell.read) located
    · exact .inl (valueOf?_setCell here cell)
  · by_cases here : ref = binding.target.property
    · rw [← here, found]
      show Option.map Cell.plain ((world.graph.setCell ref cell).cell? ref) = _
      rw [located]
      exact congrArg some (Cell.plain_of_repeats repeats).symm
    · exact congrArg (Option.map Cell.plain) (ObjectGraph.cell?_setCell_ne _ here cell)

/-- Another cell makes those stale that read it. -/
theorem replaced_rests {ref : PropertyRef} {property : Property} (ready : start.Ready)
    (lawful : LawfulFamily host start rank)
    (resting : Resting host start rank frames held stale world)
    (described : start.graph.property ref = .ok property)
    (own : ∀ (id : BindingId) binding, world.bindings[id]? = some binding →
      binding.target.property = ref → stale id) (cell : Cell) :
    Resting host start rank frames held
      (fun id => stale id ∨ ∃ binding, world.bindings[id]? = some binding ∧
        .property ref.object ref.index ∈ binding.reads.sources)
      { world with graph := world.graph.setCell ref cell } := by
  have stored : Sound start rank frames held { world with graph := world.graph.setCell ref cell } :=
    resting.sound.withGraph (resting.sound.graph.setCell ready described cell)
  refine resting.transfer lawful stored fun id binding present _ fresh => .inr ?_
  have unread : Source.property ref.object ref.index ∉ binding.reads.sources :=
    fun member => fresh (.inr ⟨binding, present, member⟩)
  have elsewhere : ref ≠ binding.target.property :=
    fun same => fresh (.inl (own id binding present same.symm))
  refine ⟨fun was => fresh (.inl was), present, fun source member => .inl ?_, ?_⟩
  · exact valueOf?_setCell (fun here => unread (here ▸ member)) cell
  · exact congrArg (Option.map Cell.plain) (ObjectGraph.cell?_setCell_ne _ elsewhere cell)

/-- A store settles whatever reads the property, and whatever reads what that writes, and so on. -/
theorem storeCell_leads {ref : PropertyRef} {property : Property} {flags : WriteFlags}
    (ready : start.Ready) (lawful : LawfulFamily host start rank)
    (calls : CallsSettle host start rank (rank ref + 1))
    (low : Below start rank (rank ref + 1) frames)
    (resting : Resting host start rank frames held stale world)
    (described : start.graph.property ref = .ok property) (loud : flags.quiet = false)
    (own : ∀ (id : BindingId) binding, world.bindings[id]? = some binding →
      binding.target.property = ref → stale id) (cell : Cell) :
    Leads host.surroundings (storeCell ref property cell flags) world fun result after =>
      result = .ok () ∧ Resting host start rank frames held stale after ∧
        ChangesAbove rank (rank ref + 1) { world with graph := world.graph.setCell ref cell }
          after := by
  have graph := resting.sound.graph
  have alive := ObjectGraph.isAlive_of_property ((graph.property ref).trans described)
  rcases graph.cells ref property described with ⟨former, found⟩
  unfold storeCell store
  refine .performGraph ?_
  rw [if_pos alive, found]
  by_cases repeats : cell.repeats former = true
  · -- the store takes the new value for the old one, and nobody is told
    have still := repeated_rests ready lawful resting described found repeats
    refine .of_steps (fun _ => ?_) ⟨rfl, still, .refl _ _ _⟩
    simp [repeats]
    rfl
  · -- the readers are stale until the announcement has called them
    have signal : Source.property ref.object property.signal = .property ref.object ref.index := by
      rw [ready.formed.signal_eq described]
    have level : (Source.property ref.object ref.index).level rank = rank ref + 1 := rfl
    have behind := replaced_rests ready lawful resting described own cell
    have announced : Leads host.surroundings (announce (.property ref.object ref.index))
        { world with graph := world.graph.setCell ref cell } fun _ after =>
          Resting host start rank frames held stale after ∧
            ChangesAbove rank (rank ref + 1) { world with graph := world.graph.setCell ref cell }
              after :=
      announce_leads lawful (level ▸ calls) (level ▸ low) behind fun _ was => was
    rcases announced with ⟨_, after, ends, rested, above⟩
    refine ⟨.ok (), after, ?_, rfl, rested, above⟩
    have whole : Ends host.surroundings (do
        modifyGraph fun graph => graph.setCell ref cell
        announce (.property ref.object property.signal)) world () after :=
      .bind (.of_steps fun _ => rfl) (signal ▸ ends)
    simp only [Bool.not_eq_true] at repeats
    have mapped := whole.map (Except.ok (ε := PropertyError))
    simp only [Option.map_some, Option.getD_some, repeats, loud, Bool.not_false, Bool.and_self,
      if_true]
    exact mapped

/-! ## Evaluations -/

/-- The world in which the function of a binding has been looked up. -/
def knowing (world : World σ) (id : BindingId)
    (compiled? : Option (Except Script.CompileError Function)) (identities : Nat) : World σ :=
  { world with
    identities := identities
    bindings := world.bindings.modify id fun binding => { binding with compiled? := compiled? } }

/-- The function of a binding is found, compiled if it was not yet, and known from then on. -/
theorem functionOf_knows {current : Binding} (found : world.bindings[id]? = some current)
    (expression : current.expression = binding.expression)
    (compiled : current.compiled? = binding.compiled?) :
    Leads foreign (functionOf id binding) world fun result after =>
      ∃ compiled? identities, after = knowing world id compiled? identities ∧
        { current with compiled? := compiled? }.function? = some result ∧
        ∀ function, { current with compiled? := compiled? }.MayFind function →
          current.MayFind function := by
  have still : knowing world id current.compiled? world.identities = world := by
    rw [knowing, World.modify_self found rfl]
  unfold functionOf
  cases written : binding.expression with
  | function callee =>
      refine .value ⟨current.compiled?, world.identities, still.symm, ?_, fun _ may => may⟩
      simp [Binding.function?, expression, written]
  | source source =>
      cases known : binding.compiled? with
      | some outcome =>
          refine .value ⟨current.compiled?, world.identities, still.symm, ?_, fun _ may => may⟩
          simp [Binding.function?, expression, written, compiled, known]
      | none =>
          have compiles : Leads foreign (Script.Evaluation.compile source).run world
              fun result after => ∃ identities, after = { world with identities := identities } ∧
                current.MayFind result := by
            unfold Script.Evaluation.compile
            cases answered : source.compile with
            | error error =>
                refine .value ⟨world.identities, rfl, ?_⟩
                simpa only [Binding.MayFind, expression, written, compiled, known] using answered
            | ok code =>
                refine .of_steps (fun _ => rfl) ⟨world.identities + 1, rfl, ?_⟩
                simp only [Binding.MayFind, Binding.MayCall, expression, written, compiled, known]
                exact ⟨code, world.identities, answered, rfl⟩
          refine .bind _ compiles ?_
          rintro result _ ⟨identities, rfl, may⟩
          refine .step (fun _ => rfl) (.value ⟨some result, identities, rfl, ?_, ?_⟩)
          · simp [Binding.function?, expression, written]
          · intro function finds
            have same : result = function := by
              cases function <;> cases result <;>
                simp_all [Binding.MayFind, Binding.MayCall]
            exact same ▸ may

/-- The world in which a binding has collected the reads of an evaluation. -/
def collecting (world : World σ) (id : BindingId) (edges : ReadSet) (channels : Channels)
    (identities : Nat) (state : σ) : World σ :=
  { world with
    channels := channels
    bindings := world.bindings.modify id fun binding => { binding with reads := edges }
    identities := identities
    host := state }

/-- Whether a binding takes the outcome of a call for a result. -/
def Means : Except Script.Exception Boxed → Except Failure Boxed → Prop
  | .ok value, .ok result => result = value
  | .error error, .error failure =>
      failure.kind = .evaluation ∧ failure.message = error.message
  | _, _ => False

/-- The call of its function makes a binding without edges follow what that reads. -/
theorem invoke_computes (ready : start.Ready) (lawful : LawfulFamily host start rank)
    (resting : Resting host start rank frames held stale world) (aside : stale id)
    (found : world.bindings[id]? = some binding) (unread : binding.reads = .empty)
    {callee : Function} (knows : binding.function? = some (.ok callee)) :
    Leads host.surroundings (withCollector (some (.binding id))
        (Script.Evaluation.invoke callee binding.call).run) world fun outcome after =>
      Resting host start rank frames held stale after ∧
        (∀ level, level < binding.level rank → ChangesAbove rank level world after) ∧
          ∃ changed, after.bindings[id]? = some changed ∧
            ∀ result, Means outcome result → Computes host after changed result := by
  have sound := resting.sound
  rcases sound.persists id binding found with ⟨former, known, persists⟩
  have laws := lawful.persists known persists
  have law := laws callee (Binding.mayFind_of_function? knows)
  rcases law.ends world sound.graph.shape with ⟨reads, outcome, observed⟩
  have above : ∀ source ∈ reads, source.level rank < binding.level rank := by
    intro source member
    rw [persists.level rank]
    exact law.climbs world sound.graph.shape reads outcome observed source member
  rw [← persists.call] at observed
  rcases observed (some (.binding id)) with ⟨identities, state, ends⟩
  have listening : World.Wired rank held { world with collector? := some (.binding id) } :=
    sound.wired.congr rfl rfl
  have active := persists.retired.trans (ready.bindings id former known).active
  rcases World.collected listening rfl found active [] (congrArg ReadSet.sources unread) reads above
    with ⟨⟨edges, channels, reached, sources⟩, wired⟩
  rw [reached] at ends wired
  have here : (collecting world id edges channels identities state).bindings[id]? =
      some { binding with reads := edges } := by
    simp [collecting, found]
  have sound' : Sound start rank frames held
      (collecting world id edges channels identities state) := by
    have rewired : Sound start rank frames held { world with
        channels := channels
        bindings := world.bindings.modify id fun binding => { binding with reads := edges } } :=
      sound.rewire found ⟨rfl, rfl, rfl, rfl, rfl, rfl, fun _ may => may⟩
        (sound.updating id binding found) (fun _ _ => Iff.rfl) (sound.failures id binding found)
        (wired.congr rfl rfl)
    exact rewired.congr sound.holders rfl rfl rfl rfl rfl rfl
  have rested : Resting host start rank frames held stale
      (collecting world id edges channels identities state) :=
    resting.modify_stale lawful sound' aside rfl rfl rfl
  have transfer : ∀ {result : Except Failure Boxed},
      Computes host world { binding with reads := edges } result →
        Computes host (collecting world id edges channels identities state)
          { binding with reads := edges } result :=
    fun computes => computes.transfer laws persists.call sound.graph.shape sound'.graph.shape
      (fun source _ => .inl (World.valueOf?_congr (fun _ => rfl) rfl source)) rfl persists.call rfl
  refine .look (.step (fun _ => rfl) ?_)
  refine .bind (fun result after => result = outcome ∧ after = _) ⟨_, _, ends, rfl, rfl⟩ ?_
  rintro outcome _ ⟨rfl, rfl⟩
  refine .step (fun _ => rfl) (.value ⟨rested, fun level low => ?_, _, here, fun result means => ?_⟩)
  · exact .of_modify found low rfl rfl rfl rfl rfl rfl
  · cases outcome with
    | ok value =>
        cases result with
        | ok kept => exact transfer (.given knows observed sources (congrArg Boxed.plain means))
        | error failure => cases means
    | error error =>
        cases result with
        | ok kept => cases means
        | error failure => exact transfer (.thrown knows observed sources means.1 means.2)

/--
An evaluation makes a binding without edges follow what it reads, and ends as
the expression does in the world as it is.
-/
theorem evaluateBinding_computes (ready : start.Ready) (lawful : LawfulFamily host start rank)
    (resting : Resting host start rank frames held stale world) (aside : stale id)
    {current : Binding} (found : world.bindings[id]? = some current)
    (unread : current.reads = .empty) (expression : current.expression = binding.expression)
    (compiled : current.compiled? = binding.compiled?) (call : current.call = binding.call)
    (notifies : current.notifyOnChange = binding.notifyOnChange) :
    Leads host.surroundings (evaluateBinding id binding) world fun result after =>
      Resting host start rank frames held stale after ∧
        (∀ level, level < current.level rank → ChangesAbove rank level world after) ∧
          (∃ changed, after.bindings[id]? = some changed ∧ Computes host after changed result) ∧
            ∀ failure, result = .error failure → failure.kind ≠ .bindingLoop := by
  rcases resting.sound.persists id current found with ⟨former, known, persists⟩
  refine .bind _ (functionOf_knows found expression compiled) ?_
  rintro function _ ⟨compiled?, identities, rfl, knows, may⟩
  have sound : Sound start rank frames held (knowing world id compiled? identities) := by
    have modified : Sound start rank frames held { world with
        bindings := world.bindings.modify id fun binding => { binding with compiled? := compiled? } } :=
      resting.sound.modify found ⟨rfl, rfl, rfl, rfl, rfl, rfl, may⟩ (fun _ => rfl) (fun _ => rfl)
        (resting.sound.updating id current found) (fun _ _ => Iff.rfl)
        (resting.sound.failures id current found)
    exact modified.congr resting.sound.holders rfl rfl rfl rfl rfl rfl
  have rested : Resting host start rank frames held stale (knowing world id compiled? identities) :=
    resting.modify_stale lawful sound aside rfl rfl rfl
  have here : (knowing world id compiled? identities).bindings[id]? =
      some { current with compiled? := compiled? } := by
    simp [knowing, found]
  have changes : ∀ level, level < current.level rank →
      ChangesAbove rank level world (knowing world id compiled? identities) :=
    fun _ low => .of_modify found low rfl rfl rfl rfl rfl rfl
  cases function with
  | error error =>
      refine .value ⟨rested, changes, ⟨_, here, ?_⟩, ?_⟩
      · exact .uncompiled knows (congrArg ReadSet.sources unread) rfl rfl
      · intro failure same
        cases same
        exact nofun
  | ok callee =>
      have notified : binding.notifyOnChange = true :=
        notifies.symm.trans (persists.notifies.trans (ready.bindings id former known).notifies)
      have invoked := invoke_computes ready lawful rested aside here unread knows
      simp only [notified, if_true]
      refine .bind _ (call ▸ invoked) ?_
      rintro outcome after ⟨rested, further, changed, present, computes⟩
      have whole : ∀ level, level < current.level rank → ChangesAbove rank level world after :=
        fun level low => (changes level low).trans (further level low)
      cases outcome with
      | ok value =>
          exact .value ⟨rested, whole, ⟨changed, present, computes _ rfl⟩, nofun⟩
      | error error =>
          refine .step (fun _ => rfl)
            (.value ⟨rested, whole, ⟨changed, present, computes _ ⟨rfl, rfl⟩⟩, ?_⟩)
          intro failure same
          cases same
          exact nofun

end Engine

end PropertyBinding

import PropertyBinding.Proofs.Spreading

namespace PropertyBinding

/-!
# Updates settle

An update of a binding settles it and changes nothing that ranks lower, as long
as the calls above the binding do.  No call comes back to a binding that is being
updated, so no loop is found, and the calls at each level can be settled from
those at the levels above.
-/

namespace Engine

variable {σ α : Type} {foreign : Surroundings σ} {host : Host σ} {start world : World σ}
  {rank : PropertyRef → Nat} {frames : List BindingId} {held : List SubscriptionId}
  {stale : BindingId → Prop} {id : BindingId} {binding current : Binding}

/-- What an update at some place leads to: a world at rest in which the place is settled. -/
structure Resettled (host : Host σ) (start : World σ) (rank : PropertyRef → Nat)
    (frames : List BindingId) (held : List SubscriptionId) (stale : BindingId → Prop)
    (world : World σ) (id : BindingId) (current : Binding) (after : World σ) : Prop where
  resting : Resting host start rank frames held stale after
  above : ∀ level, level < current.level rank → ChangesAbove rank level world after
  settled : ∃ changed, after.bindings[id]? = some changed ∧ Settled host after changed

theorem Resettled.after_steps {middle after : World σ}
    (resettled : Resettled host start rank frames held stale middle id current after)
    (first : ∀ level, level < current.level rank → ChangesAbove rank level world middle) :
    Resettled host start rank frames held stale world id current after :=
  ⟨resettled.resting, fun level low => (first level low).trans (resettled.above level low),
    resettled.settled⟩

/-! ## Failures -/

/-- A recorded failure changes its binding only. -/
theorem recordFailure_rests (lawful : LawfulFamily host start rank)
    (resting : Resting host start rank frames held stale world) (aside : stale id)
    (found : world.bindings[id]? = some current) {failure : Failure}
    (kind : failure.kind ≠ .bindingLoop) :
    Leads foreign (recordFailure id failure) world fun _ after =>
      Resting host start rank frames held stale after ∧ after.graph = world.graph ∧
        after.notifiers = world.notifiers ∧
          (∀ level, level < current.level rank → ChangesAbove rank level world after) ∧
            ∃ reported, after.bindings[id]? = some (current.withPending failure reported) := by
  refine (recordFailure_leads resting.sound found kind).weaken ?_
  rintro _ after ⟨reported, told, harmless, happened⟩
  have sound := sound_of_told resting.sound found kind harmless happened
  rcases happened.same with ⟨warnings, diagnostics, rfl⟩
  exact ⟨resting.modify_stale lawful sound aside rfl rfl rfl, rfl, rfl,
    fun _ low => .of_modify found low rfl rfl rfl rfl rfl rfl, reported, by simp [found]⟩

/-- A binding whose failure is recorded is settled, if that is the failure it has to have. -/
theorem recordFailure_settles (lawful : LawfulFamily host start rank)
    (resting : Resting host start rank frames held stale world) (aside : stale id)
    (found : world.bindings[id]? = some current) {result : Except Failure Boxed}
    (computes : Computes host world current result) {failure : Failure}
    (kind : failure.kind ≠ .bindingLoop)
    (records : ∀ after : World σ, after.graph = world.graph → after.adapters = world.adapters →
      ∀ reported, Recorded after (current.withPending failure reported) result) :
    Leads foreign (recordFailure id failure) world fun _ after =>
      Resettled host start rank frames held stale world id current after := by
  refine (recordFailure_rests lawful resting aside found kind).weaken ?_
  rintro _ after ⟨rested, graph, notifiers, above, reported, present⟩
  have computes' : Computes host after (current.withPending failure reported) result :=
    resting.sound.computes lawful found computes rested.sound.graph.shape
      (fun source _ => .inl (World.valueOf?_congr (fun _ => by rw [graph]) notifiers source))
      rfl rfl rfl
  refine ⟨rested, above, _, present, result, computes', ?_⟩
  exact records after graph (rested.sound.adapters.trans resting.sound.adapters.symm) reported

/-! ## Ends of updates -/

/-- No failure of a write is a loop. -/
theorem kind_ne_bindingLoop (error : WriteError) : error.kind?.getD .property ≠ .bindingLoop := by
  cases error <;> nofun

/-- A result that is not stored leaves the reason for it. -/
theorem refused_settles (lawful : LawfulFamily host start rank)
    (resting : Resting host start rank frames held stale world) (aside : stale id)
    (found : world.bindings[id]? = some current) (target : binding.target = current.target)
    {value : Boxed} (computes : Computes host world current (.ok value)) {strategy : WriteStrategy}
    (chosen : world.adapters[current.adapter]? = some (some strategy)) {property : Property}
    (described : world.graph.property current.target.property = .ok property) {error : WriteError}
    (form : strategy.cellOf world.graph.context property value = .error error) :
    Leads foreign (do
      if (← graph).isAlive binding.target.object then
        recordFailure id (← writeFailure id binding error)) world fun _ after =>
      Resettled host start rank frames held stale world id current after := by
  have alive : world.graph.isAlive binding.target.object = true := by
    rw [target]
    exact ObjectGraph.isAlive_of_property described
  refine .lookGraph ?_
  rw [if_pos alive]
  refine .step (fun _ => rfl) ?_
  refine recordFailure_settles lawful resting aside found computes (kind_ne_bindingLoop error) ?_
  intro after graph adapters reported
  exact .refused (adapters ▸ chosen) (graph ▸ described) (graph ▸ form) ⟨_, rfl, rfl, rfl⟩

/-- A result that is stored leaves no failure. -/
theorem stored_settles (lawful : LawfulFamily host start rank) {after : World σ}
    (resting : Resting host start rank frames held stale world) (aside : stale id)
    (found : world.bindings[id]? = some current) {value : Boxed}
    (computes : Computes host world current (.ok value)) {strategy : WriteStrategy}
    (chosen : world.adapters[current.adapter]? = some (some strategy)) {property : Property}
    (described : world.graph.property current.target.property = .ok property)
    (taken : ∃ former, world.graph.cell? current.target.property = some former) {cell stored : Cell}
    (form : strategy.cellOf world.graph.context property value = .ok cell)
    (plain : stored.plain = cell.plain)
    (rested : Resting host start rank frames held stale after)
    (above : ChangesAbove rank (current.level rank)
      { world with graph := world.graph.setCell current.target.property stored } after) :
    Resettled host start rank frames held stale world id current { after with
      bindings := after.bindings.modify id fun binding => { binding with pending? := none } } := by
  rcases resting.sound.persists id current found with ⟨former, known, persists⟩
  have still := above.bindings id current found (Nat.le_refl _)
  have here : (after.bindings.modify id fun binding => { binding with pending? := none })[id]? =
      some { current with pending? := none } := by
    simp [still]
  have sound : Sound start rank frames held { after with
      bindings := after.bindings.modify id fun binding => { binding with pending? := none } } :=
    rested.sound.modify still ⟨rfl, rfl, rfl, rfl, rfl, rfl, fun _ may => may⟩ (fun _ => rfl)
      (fun _ => rfl) (rested.sound.updating id current still) (fun _ _ => Iff.rfl)
      fun _ latest => by cases latest
  have located : after.graph.cell? current.target.property = some stored := by
    rcases taken with ⟨former, taken⟩
    rw [above.cells _ (Nat.lt_succ_self _)]
    show (world.graph.setCell current.target.property stored).cell? _ = _
    rw [ObjectGraph.cell?_setCell, if_pos rfl, taken]
    rfl
  have computes' : Computes host { after with
      bindings := after.bindings.modify id fun binding => { binding with pending? := none } }
      { current with pending? := none } (.ok value) := by
    refine resting.sound.computes lawful found computes sound.graph.shape
      (fun source member => .inl ?_) rfl rfl rfl
    have low := computes.below (lawful.persists known persists) persists.call
      resting.sound.graph.shape member
    rw [← persists.level rank] at low
    have elsewhere : source ≠ .property current.target.property.object
        current.target.property.index := by
      rintro rfl
      exact Nat.lt_irrefl _ low
    exact (above.valueOf? (Nat.le_of_lt low)).trans (valueOf?_setCell elsewhere stored)
  refine ⟨?_, fun level low => ?_, _, here, .ok value, computes', ?_⟩
  · exact rested.modify_stale lawful sound aside rfl rfl rfl
  · have first : ChangesAbove rank level world { world with
        graph := world.graph.setCell current.target.property stored } :=
      .of_setCell (Nat.le_of_lt_succ low) stored
    have last : ChangesAbove rank level after { after with
        bindings := after.bindings.modify id fun binding => { binding with pending? := none } } :=
      .of_modify still low rfl rfl rfl rfl rfl rfl
    exact (first.trans (above.lower (Nat.le_of_lt low))).trans last
  · have shape := resting.sound.graph.shape.symm.trans rested.sound.graph.shape
    have adapters := rested.sound.adapters.trans resting.sound.adapters.symm
    rw [shape.property] at described
    rw [shape.context] at form
    exact .stored (adapters ▸ chosen) described form rfl located plain

/-- The result of an evaluation is stored, or the reason why it is not is recorded. -/
theorem finishUpdate_settles (ready : start.Ready) (lawful : LawfulFamily host start rank)
    (calls : CallsSettle host start rank (current.level rank))
    (low : Below start rank (current.level rank) frames)
    (resting : Resting host start rank frames held stale world) (aside : stale id)
    (found : world.bindings[id]? = some current) (target : binding.target = current.target)
    (adapter : binding.adapter = current.adapter) {result : Except Failure Boxed}
    (computes : Computes host world current result)
    (harmless : ∀ failure, result = .error failure → failure.kind ≠ .bindingLoop)
    {flags : WriteFlags} (loud : flags.quiet = false) :
    Leads host.surroundings (finishUpdate id binding result flags) world fun _ after =>
      Resettled host start rank frames held stale world id current after := by
  rcases resting.sound.persists id current found with ⟨former, known, persists⟩
  have fresh := ready.bindings id former known
  cases result with
  | error failure =>
      exact recordFailure_settles lawful resting aside found computes (harmless failure rfl)
        fun _ _ _ _ => .failed ⟨failure, rfl, rfl, rfl⟩
  | ok value =>
      have active : current.retired = false := persists.retired.trans fresh.active
      rcases fresh.described with ⟨property, described⟩
      rcases fresh.chosen with ⟨strategy, chosen⟩
      rw [← persists.target] at described
      rw [← persists.adapter, ← resting.sound.adapters] at chosen
      have whole : current.target.field? = none := (congrArg _ persists.target).trans fresh.whole
      have stores : StoresAs host.surroundings world binding.target.property property
          (writeBackFlags world id flags) (storeResult id binding value flags).run
          (strategy.cellOf world.graph.context property value) :=
        storeResult_stores (target ▸ resting.sound.graph.takes ready described (.inl rfl))
          (target ▸ whole) (adapter ▸ chosen) value
      have found' := (resting.sound.graph.property _).trans described
      refine .lookBinding ?_
      rw [found]
      simp only [Option.map_some, Option.getD_some, active, Bool.false_eq_true, if_false]
      have moved := resting.withIdentities lawful
      have computes' : ∀ identities, Computes host { world with identities := identities } current
          (.ok value) := fun identities =>
        resting.sound.computes lawful found computes resting.sound.graph.shape
          (fun source _ => .inl (World.valueOf?_congr (fun _ => rfl) rfl source)) rfl rfl rfl
      have first : ∀ identities level, level < current.level rank →
          ChangesAbove rank level world { world with identities := identities } :=
        fun _ _ _ => .of_same rfl rfl rfl rfl
      cases form : strategy.cellOf world.graph.context property value with
      | error error =>
          rw [form] at stores
          rcases stores with ⟨identities, ends⟩
          refine .bind (fun outcome after => outcome = .error error ∧ after = _)
            ⟨_, _, ends, rfl, rfl⟩ ?_
          rintro _ _ ⟨rfl, rfl⟩
          cases error with
          | targetDestroyed => exact absurd form (strategy.cellOf_ne_destroyed _ property value)
          | _ =>
              refine .weaken (refused_settles lawful (moved identities) aside found target
                (computes' identities) chosen found' form) fun _ _ resettled => ?_
              exact resettled.after_steps (first identities)
      | ok cell =>
          rw [form, target] at stores
          rcases stores with ⟨stored, identities, plain, ends⟩
          have own : ∀ (other : BindingId) binding, world.bindings[other]? = some binding →
              binding.target.property = current.target.property → stale other := by
            intro other binding present same
            rcases resting.sound.persists other binding present with ⟨origin, made, lasting⟩
            rw [persists.target, lasting.target] at same
            rw [ready.distinct other id origin former made known same]
            exact aside
          have aloud : (writeBackFlags world id flags).quiet = false := loud
          have spreads := storeCell_leads ready lawful calls low (moved identities) described
            aloud own stored
          rcases spreads with ⟨_, after, storing, rfl, rested, above⟩
          refine .bind (fun outcome last => outcome = .ok () ∧ last = after)
            ⟨_, _, ends after storing, rfl, rfl⟩ ?_
          rintro _ _ ⟨rfl, rfl⟩
          have resettled := stored_settles lawful (moved identities) aside found
            (computes' identities) chosen found' (resting.sound.graph.cells _ property described)
            form plain rested above
          exact .change (resettled.after_steps (first identities))

/-! ## Updates -/

/-- A binding that lets go of its edges changes nothing that is not stale. -/
theorem clearReads_rests (lawful : LawfulFamily host start rank)
    (resting : Resting host start rank frames held stale world) (aside : stale id)
    (found : world.bindings[id]? = some current) :
    Leads foreign (clearReads id) world fun _ after =>
      Resting host start rank frames held stale after ∧
        (∀ level, level < current.level rank → ChangesAbove rank level world after) ∧
          after.bindings[id]? = some { current with reads := .empty } := by
  refine .lookBinding ?_
  rw [found]
  refine .step (fun _ => rfl) (.change ⟨?_, fun level low => ?_, by simp [found]⟩)
  · have sound : Sound start rank frames held { world with
        channels := world.channels.releaseAll current.reads.subscriptions
        bindings := world.bindings.modify id fun binding => { binding with reads := .empty } } :=
      resting.sound.rewire found ⟨rfl, rfl, rfl, rfl, rfl, rfl, fun _ may => may⟩
        (resting.sound.updating id current found) (fun _ _ => Iff.rfl)
        (resting.sound.failures id current found) (resting.sound.wired.clear found)
    exact resting.modify_stale lawful sound aside rfl rfl rfl
  · exact .of_modify found low rfl rfl rfl rfl rfl rfl

/-- A binding whose update begins gets a mark, and is stale until it is over. -/
theorem marked_rests (lawful : LawfulFamily host start rank)
    (resting : Resting host start rank frames held stale world)
    (found : world.bindings[id]? = some binding) :
    Resting host start rank (id :: frames) held (fun other => stale other ∨ other = id) { world with
      bindings := world.bindings.modify id fun binding => { binding with updating := true } } := by
  have sound : Sound start rank (id :: frames) held { world with
      bindings := world.bindings.modify id fun binding => { binding with updating := true } } :=
    resting.sound.modify found ⟨rfl, rfl, rfl, rfl, rfl, rfl, fun _ may => may⟩ (fun _ => rfl)
      (fun _ => rfl) (by simp) (fun other different => by simp [different])
      (resting.sound.failures id binding found)
  refine resting.unchanged lawful sound (fun _ => rfl) rfl fun other _ present _ notStale => ?_
  have different : id ≠ other := fun same => notStale (.inr same.symm)
  exact ⟨fun was => notStale (.inl was), by simpa [List.getElem?_modify, different] using present⟩

/-- A binding that was settled by its update is not stale any more when that is over. -/
theorem unmarked_rests (lawful : LawfulFamily host start rank)
    (resting : Resting host start rank (id :: frames) held (fun other => stale other ∨ other = id)
      world)
    (found : world.bindings[id]? = some binding) (settled : Settled host world binding)
    (idle : id ∉ frames) :
    Resting host start rank frames held (fun other => stale other ∧ other ≠ id) { world with
      bindings := world.bindings.modify id fun binding => { binding with updating := false } } := by
  rcases resting.sound.persists id binding found with ⟨former, known, persists⟩
  have sound : Sound start rank frames held { world with
      bindings := world.bindings.modify id fun binding => { binding with updating := false } } :=
    resting.sound.modify found ⟨rfl, rfl, rfl, rfl, rfl, rfl, fun _ may => may⟩ (fun _ => rfl)
      (fun _ => rfl) (by simp [idle]) (fun other different => by simp [different])
      (resting.sound.failures id binding found)
  refine resting.transfer lawful sound fun other changed present _ notStale => ?_
  by_cases same : other = id
  · subst same
    rw [List.getElem?_modify, found] at present
    simp only [if_true] at present
    cases present
    exact .inl (settled.transfer (lawful.persists known persists) persists.call
      resting.sound.graph.shape rfl rfl rfl rfl rfl rfl rfl rfl rfl)
  · have elsewhere : world.bindings[other]? = some changed := by
      simpa [List.getElem?_modify, Ne.symm same] using present
    refine .inr ⟨?_, elsewhere,
      fun source _ => .inl (World.valueOf?_congr (fun _ => rfl) rfl source), rfl⟩
    rintro (was | here)
    · exact notStale ⟨was, same⟩
    · exact same here

/-- That an evaluation is counted changes nothing but the count. -/
theorem counted_rests (lawful : LawfulFamily host start rank)
    (resting : Resting host start rank frames held stale world) (aside : stale id)
    (found : world.bindings[id]? = some current) :
    Resting host start rank frames held stale { world with
      bindings := world.bindings.modify id fun binding =>
        { binding with evaluations := binding.evaluations + 1 } } := by
  have sound : Sound start rank frames held { world with
      bindings := world.bindings.modify id fun binding =>
        { binding with evaluations := binding.evaluations + 1 } } :=
    resting.sound.modify found ⟨rfl, rfl, rfl, rfl, rfl, rfl, fun _ may => may⟩ (fun _ => rfl)
      (fun _ => rfl) (resting.sound.updating id current found) (fun _ _ => Iff.rfl)
      (resting.sound.failures id current found)
  exact resting.modify_stale lawful sound aside rfl rfl rfl

/-- An update whose checks have been made settles its binding. -/
theorem runUpdate_settles (ready : start.Ready) (lawful : LawfulFamily host start rank)
    (calls : CallsSettle host start rank (binding.level rank))
    (low : Below start rank (binding.level rank) frames)
    (resting : Resting host start rank frames held stale world)
    (found : world.bindings[id]? = some binding) (idle : id ∉ frames) {flags : WriteFlags}
    (loud : flags.quiet = false) :
    Leads host.surroundings (runUpdate id binding flags) world fun _ after =>
      Resting host start rank frames held (fun other => stale other ∧ other ≠ id) after ∧
        ∀ level, level < binding.level rank → ChangesAbove rank level world after := by
  rcases resting.sound.persists id binding found with ⟨former, known, persists⟩
  have aside : stale id ∨ id = id := .inr rfl
  have lowMarked : Below start rank (binding.level rank) (id :: frames) := by
    intro other member changed present
    rcases List.mem_cons.mp member with rfl | member
    · rw [known] at present
      cases present
      exact Nat.le_of_eq (persists.level rank).symm
    · exact low other member changed present
  -- the binding is marked and lets go of its edges
  have marked := marked_rests lawful resting found
  have here : (world.bindings.modify id fun binding => { binding with updating := true })[id]? =
      some { binding with updating := true } := by
    simp [found]
  refine .step (fun _ => rfl) (.bind _ (clearReads_rests lawful marked aside here) ?_)
  rintro _ second ⟨rested, above, present⟩
  have first : ∀ level, level < binding.level rank → ChangesAbove rank level world { world with
      bindings := world.bindings.modify id fun binding => { binding with updating := true } } :=
    fun _ low => .of_modify found low rfl rfl rfl rfl rfl rfl
  have before : ∀ level, level < binding.level rank → ChangesAbove rank level world second :=
    fun level low => (first level low).trans (above level low)
  -- it is evaluated
  refine .bind _ (evaluateBinding_computes ready lawful rested aside present rfl rfl rfl rfl rfl) ?_
  rintro result third ⟨rested, above, ⟨changed, present, computes⟩, harmless⟩
  have persists' := rested.sound.persists_of_known known present
  have level : changed.level rank = binding.level rank :=
    (persists'.level rank).trans (persists.level rank).symm
  have kept : ∀ {after : World σ}, (∀ level, level < changed.level rank →
      ChangesAbove rank level third after) → ∀ level, level < binding.level rank →
        ChangesAbove rank level world after := by
    intro after further depth low
    exact ((before depth low).trans (above depth low)).trans (further depth (by omega))
  -- the evaluation is counted
  have counts : (third.bindings.modify id fun binding =>
      { binding with evaluations := binding.evaluations + 1 })[id]? =
        some { changed with evaluations := changed.evaluations + 1 } := by
    simp [present]
  have counted := counted_rests lawful rested aside present
  have computes' : Computes host { third with bindings := third.bindings.modify id fun binding =>
      { binding with evaluations := binding.evaluations + 1 } }
      { changed with evaluations := changed.evaluations + 1 } result :=
    rested.sound.computes lawful present computes rested.sound.graph.shape
      (fun source _ => .inl (World.valueOf?_congr (fun _ => rfl) rfl source)) rfl rfl rfl
  have counting : ∀ level, level < changed.level rank → ChangesAbove rank level third { third with
      bindings := third.bindings.modify id fun binding =>
        { binding with evaluations := binding.evaluations + 1 } } :=
    fun _ low => .of_modify present low rfl rfl rfl rfl rfl rfl
  have same : binding.target = changed.target := persists.target.trans persists'.target.symm
  have alive : third.graph.isAlive binding.target.object = true :=
    same ▸ rested.sound.alive ready present
  refine .step (fun _ => rfl) (.lookGraph ?_)
  simp only [alive, if_true]
  -- what it gives is stored, and the mark goes
  have ends := finishUpdate_settles ready lawful (level ▸ calls) (level ▸ lowMarked) counted aside
    counts same (persists.adapter.trans persists'.adapter.symm) computes' harmless loud
  refine .bind _ ends ?_
  rintro _ fourth ⟨rested, above, last, located, settled⟩
  have unmarked := unmarked_rests lawful rested located settled idle
  have gone : (fourth.bindings.modify id fun binding => { binding with updating := false })[id]? =
      some { last with updating := false } := by
    simp [located]
  have stays := unmarked.sound.keeps ready gone
  have lastLevel : last.level rank = changed.level rank :=
    ((rested.sound.persists_of_known known located).level rank).trans (persists'.level rank).symm
  refine .step (fun _ => rfl) (.look ?_)
  simp only [stays, Bool.not_true, Bool.false_eq_true, if_false]
  refine .value ⟨unmarked, kept fun level low => ?_⟩
  have unmarking : ChangesAbove rank level fourth { fourth with
      bindings := fourth.bindings.modify id fun binding => { binding with updating := false } } :=
    .of_modify located (by omega) rfl rfl rfl rfl rfl rfl
  exact ((counting level low).trans (above level low)).trans unmarking

/-- An update settles its binding, if that is enabled, and changes only what ranks as high. -/
theorem update_settles (ready : start.Ready) (lawful : LawfulFamily host start rank)
    (calls : CallsSettle host start rank (binding.level rank))
    (low : Below start rank (binding.level rank) frames)
    (resting : Resting host start rank frames held stale world)
    (found : world.bindings[id]? = some binding) (idle : id ∉ frames) {flags : WriteFlags}
    (loud : flags.quiet = false) :
    Leads host.surroundings (update id flags) world fun _ after =>
      Resting host start rank frames held (fun other => stale other ∧ other ≠ id) after ∧
        ∀ level, level < binding.level rank → ChangesAbove rank level world after := by
  rcases resting.sound.persists id binding found with ⟨former, known, persists⟩
  have active : binding.retired = false :=
    persists.retired.trans (ready.bindings id former known).active
  have hasGraph : world.hasGraph = true := by
    simpa [World.hasGraph] using resting.sound.holders
  refine .lookBinding ?_
  rw [found]
  refine .look ?_
  cases enabled : binding.enabled with
  | false =>
      simp only [Bool.not_false, Bool.or_true, Bool.true_or, if_true]
      refine .value ⟨⟨resting.sound, fun other changed present on notStale => ?_⟩,
        fun level _ => .refl rank level world⟩
      refine resting.settled other changed present on fun was => notStale ⟨was, ?_⟩
      rintro rfl
      rw [found] at present
      cases present
      rw [enabled] at on
      cases on
  | true =>
      have alive := resting.sound.alive ready found
      have unmarked : binding.updating = false := by
        rw [Bool.eq_false_iff]
        exact fun marked => idle ((resting.sound.updating id binding found).mp marked)
      simp only [hasGraph, active, Bool.not_true, Bool.or_self, Bool.false_eq_true, if_false]
      refine .lookGraph ?_
      simp only [alive, Bool.not_true, Bool.false_eq_true, if_false, unmarked]
      have retained := resting.withHolders lawful (Nat.succ_pos world.graphHolders)
      refine .step (fun _ => rfl) ?_
      refine .bind _ (runUpdate_settles ready lawful calls low retained found idle loud) ?_
      rintro _ after ⟨rested, above⟩
      have holders : after.graphHolders = world.graphHolders + 1 := (above 0 (Nat.succ_pos _)).holders
      have positive : 0 < after.graphHolders - 1 := by
        have former := resting.sound.holders
        omega
      have released := rested.withHolders lawful positive
      have stays : World.hasGraph { after with graphHolders := after.graphHolders - 1 } = true := by
        simpa [World.hasGraph] using released.sound.holders
      refine .bind (fun _ last => last = { after with graphHolders := after.graphHolders - 1 }) ?_ ?_
      · refine .step (fun _ => rfl) (.look ?_)
        rw [stays]
        exact .value rfl
      · rintro _ _ rfl
        refine .value ⟨released, fun level low => ?_⟩
        have further := above level low
        exact ⟨by simp [holders], further.notifiers, further.cells, further.bindings,
          further.enabled⟩

/-! ## Calls -/

/-- Calls settle at a level if the bindings rank no higher than some room above it. -/
theorem calls_settle_within (ready : start.Ready) (lawful : LawfulFamily host start rank)
    (room : Nat) (level : Nat)
    (highest : ∀ (id : BindingId) binding, start.bindings[id]? = some binding →
      binding.level rank ≤ level + room) : CallsSettle host start rank level := by
  induction room generalizing level with
  | zero =>
      intro id former known above
      have bound := highest id former known
      omega
  | succ room step =>
      intro id former known above frames held stale world low resting
      have inRange : id < world.bindings.length := by
        rw [resting.sound.count]
        exact (List.getElem?_eq_some_iff.mp known).1
      have found : world.bindings[id]? = some world.bindings[id] := List.getElem?_eq_getElem inRange
      have same := (resting.sound.persists_of_known known found).level rank
      have idle : id ∉ frames := by
        intro member
        have bound := low id member former known
        omega
      have calls : CallsSettle host start rank (world.bindings[id].level rank) := by
        apply step
        intro other binding present
        have bound := highest other binding present
        omega
      have lower : Below start rank (world.bindings[id].level rank) frames := by
        intro other member binding present
        have bound := low other member binding present
        omega
      have kept := resting.sound.keeps ready found
      have follows : Leads host.surroundings (followChange id) world fun _ after =>
          Resting host start rank frames held (fun other => stale other ∧ other ≠ id) after ∧
            ChangesAbove rank level world after := by
        refine .look ?_
        rw [if_pos kept]
        refine (update_settles ready lawful calls lower resting found idle rfl).weaken ?_
        rintro _ after ⟨rested, changes⟩
        exact ⟨rested, changes level (by omega)⟩
      rcases follows with ⟨result, after, ends, reached⟩
      refine ⟨result, after, ends.foreign_of ?_, reached⟩
      rintro bound outside rfl
      exact ⟨_, rfl, rfl⟩

/-- Some level is above all of finitely many bindings. -/
theorem exists_highest (rank : PropertyRef → Nat) (bindings : List Binding) :
    ∃ highest, ∀ (id : BindingId) binding, bindings[id]? = some binding →
      binding.level rank ≤ highest := by
  refine ⟨((bindings.map (Binding.level rank)).max?).getD 0, fun id binding found => ?_⟩
  have member : binding.level rank ∈ bindings.map (Binding.level rank) :=
    List.mem_map_of_mem (List.mem_of_getElem? found)
  exact List.le_max?_getD_of_mem member

/-- Calls of bindings settle at every level. -/
theorem calls_settle (ready : start.Ready) (lawful : LawfulFamily host start rank) (level : Nat) :
    CallsSettle host start rank level := by
  rcases exists_highest rank start.bindings with ⟨highest, bound⟩
  refine calls_settle_within ready lawful highest level fun id binding found => ?_
  have := bound id binding found
  omega

end Engine

end PropertyBinding

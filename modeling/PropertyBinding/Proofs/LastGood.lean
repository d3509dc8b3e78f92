import PropertyBinding.Proofs.Refusal

namespace PropertyBinding

/-!
# Updates that fail

An update that comes to nothing notes why, as the latest failure of its binding, and that
is all it does.  The failure may be in the source text, in the evaluation, in the kind of
the result, or in the store; each of them is found before a cell is touched and before a
subscriber is told.  So the property keeps the last value that was good.

`updateOutcome` is the update that tells which failure it noted.  An update is `Fruitless`
as long as none of its stretches has touched the graph and nobody but functions,
interceptors and handlers was visited.  What foreign code does to the graph when it is
visited is its own affair: as long as it does nothing, the graph is what it was.
-/

/-- Whether foreign code is asked something else than that something was replaced. -/
def Query.isDiscreet : Query → Prop
  | .announce _ | .retire _ => False
  | _ => True

/-- Whether a stretch leaves the graph as it is. -/
def Stretch.Still {σ : Type} (stretch : Stretch σ) : Prop :=
  stretch.stop.graph = stretch.start.graph

/-- Whether the visit before a stretch, if there was one, left the graph as it was. -/
def Stretch.Spared {σ : Type} (stretch : Stretch σ) : Prop :=
  ∀ visit, stretch.visit? = some visit → stretch.start.graph = visit.world.graph

/-- Up to any point of a run, as long as nothing has touched the graph, the graph is what it was. -/
theorem Trace.Linked.graph_start {σ : Type} {outside : Outside σ} {origin : World σ}
    {trace : Trace σ} (linked : trace.Linked outside origin) {stop : World σ}
    (still : ∀ stretch ∈ trace.past, stretch.Still) {earlier rest : List (Stretch σ)}
    {stretch : Stretch σ} (parts : trace.stretches stop = earlier ++ stretch :: rest)
    (spared : ∀ other ∈ earlier ++ [stretch], other.Spared) :
    stretch.start.graph = origin.graph := by
  induction linked generalizing stop earlier rest stretch with
  | start =>
      rcases List.append_eq_singleton_iff.mp parts.symm with ⟨rfl, same⟩ | ⟨_, impossible⟩
      · cases same
        rfl
      · cases impossible
  | @visit trace query middle after former answers step =>
      have before := fun other member => still other (List.mem_append_left _ member)
      let present : Stretch σ := ⟨some ⟨query, middle⟩, after, stop⟩
      change trace.stretches middle ++ [present] = _ at parts
      rcases List.eq_nil_or_concat rest with rfl | ⟨rest, last, rfl⟩
      · -- the stretch is the one after the last visit
        rcases List.append_inj' parts rfl with ⟨rfl, same⟩
        obtain rfl := List.singleton_inj.mp same
        have visited : present.start.graph = middle.graph :=
          spared present (List.mem_append_right _ (List.mem_singleton_self _)) _ rfl
        have kept : middle.graph = trace.start.graph :=
          still (trace.present middle) (List.mem_append_right _ (List.mem_singleton_self _))
        have ends : trace.stretches middle = trace.past ++ trace.present middle :: [] := rfl
        have begun : trace.start.graph = origin.graph :=
          step before ends fun other member => spared other (List.mem_append_left _ member)
        exact visited.trans (kept.trans begun)
      · have parts : trace.stretches middle ++ [present] = (earlier ++ stretch :: rest) ++ [last] := by
          simpa using parts
        exact step before (List.append_inj' parts rfl).1 spared

namespace Engine

variable {σ : Type}

/-! ## Updates that tell what they noted -/

/-- What an update does with its result, and the failure that it notes. -/
def finishOutcome (id : BindingId) (binding : Binding) (result : Except Failure Boxed)
    (flags : WriteFlags) : Engine σ (Option Failure) := do
  match result with
  | .error failure =>
      recordFailure id failure
      return some failure
  | .ok value =>
      if ((← binding? id).map (·.retired)).getD true then
        return none
      match ← (storeResult id binding value flags).run with
      | .ok _ =>
          modifyBinding id fun binding => { binding with pending? := none }
          return none
      | .error .targetDestroyed => return none
      | .error error =>
          if (← graph).isAlive binding.target.object then
            let failure ← writeFailure id binding error
            recordFailure id failure
            return some failure
          else
            return none

/-- An evaluation and what follows it, and the failure that is noted. -/
def runOutcome (id : BindingId) (binding : Binding) (flags : WriteFlags) :
    Engine σ (Option Failure) := do
  modifyBinding id fun binding => { binding with updating := true }
  clearReads id
  let result ← evaluateBinding id binding
  modifyBinding id fun binding => { binding with evaluations := binding.evaluations + 1 }
  let noted? ←
    if (← graph).isAlive binding.target.object then
      finishOutcome id binding result flags
    else
      pure none
  modifyBinding id fun binding => { binding with updating := false }
  settle id
  return noted?

/-- An update, and the failure that it notes. -/
def updateOutcome (id : BindingId) (flags : WriteFlags) : Engine σ (Option Failure) := do
  let some binding ← binding? id | return none
  if !(← get).hasGraph || !binding.enabled || binding.retired then
    return none
  if !(← graph).isAlive binding.target.object then
    return none
  keepingGraph do
    if binding.updating then
      reportLoop binding
      return none
    else
      runOutcome id binding flags

theorem finishUpdate_outcome (id : BindingId) (binding : Binding) (result : Except Failure Boxed)
    (flags : WriteFlags) : finishUpdate (σ := σ) id binding result flags =
      (fun _ => ()) <$> finishOutcome id binding result flags := by
  unfold finishUpdate finishOutcome
  cases result with
  | error failure => simp
  | ok value =>
      simp only [map_bind]
      congr 1
      funext found
      split
      · simp
      · simp only [map_bind]
        congr 1
        funext outcome
        split <;> simp
        congr 1
        funext graph
        split <;> simp

theorem runUpdate_outcome (id : BindingId) (binding : Binding) (flags : WriteFlags) :
    runUpdate (σ := σ) id binding flags = (fun _ => ()) <$> runOutcome id binding flags := by
  unfold runUpdate runOutcome
  simp only [finishUpdate_outcome, map_bind]
  congr 1; funext _
  congr 1; funext _
  congr 1; funext result
  congr 1; funext _
  congr 1; funext graph
  split <;> simp

/-- An update is the one that tells what it noted, if nobody listens. -/
theorem update_outcome (id : BindingId) (flags : WriteFlags) :
    update (σ := σ) id flags = (fun _ => ()) <$> updateOutcome id flags := by
  unfold update updateOutcome
  simp only [map_bind]
  congr 1; funext found
  cases found with
  | none => simp
  | some binding =>
      simp only [map_bind]
      congr 1; funext world
      split
      · simp
      · simp only [map_bind]
        congr 1; funext graph
        split
        · simp
        · unfold keepingGraph
          simp only [map_bind, map_pure]
          congr 1; funext _
          split <;> simp [runUpdate_outcome]

theorem finishOutcome_mirrors (id : BindingId) (binding : Binding)
    (result : Except Failure Boxed) (flags : WriteFlags) :
    Mirrors (σ := σ) (finishOutcome id binding result flags)
      (finishOutcome id binding result flags) := by
  have noted : ∀ failure, Mirrors (σ := σ)
      (do recordFailure id failure; return some failure)
      (do recordFailure id failure; return some failure) := fun failure =>
    .bind (recordFailure_mirrors id failure) fun _ => .value _
  cases result with
  | error failure => exact noted failure
  | ok value =>
      refine .bind (.found id) fun found => .branch (.value none) ?_
      refine .bind (storeResult_mirrors id binding value flags) fun outcome => ?_
      split
      · exact .bind (modifyBinding_mirrors id _) fun _ => .value none
      · exact .value none
      · refine .bind .seen fun graph => .branch ?_ (.value none)
        exact .bind (writeFailure_mirrors id binding _) noted

theorem runOutcome_mirrors (id : BindingId) (binding : Binding) (flags : WriteFlags) :
    Mirrors (σ := σ) (runOutcome id binding flags) (runOutcome id binding flags) := by
  have last : ∀ noted? : Option Failure, Mirrors (σ := σ)
      (do
        modifyBinding id fun binding => { binding with updating := false }
        settle id
        return noted?)
      (do
        modifyBinding id fun binding => { binding with updating := false }
        settle id
        return noted?) := fun _ =>
    .bind (modifyBinding_mirrors id _) fun _ => .bind (settle_mirrors id) fun _ => .value _
  refine .bind (modifyBinding_mirrors id _) fun _ => .bind (clearReads_mirrors id) fun _ => ?_
  refine .bind (evaluateBinding_mirrors id binding) fun result => ?_
  refine .bind (modifyBinding_mirrors id _) fun _ => .bind .seen fun graph => ?_
  exact .branch (.bind (finishOutcome_mirrors id binding result flags) last) (.bind (.value none) last)

theorem updateOutcome_mirrors (id : BindingId) (flags : WriteFlags) :
    Mirrors (σ := σ) (updateOutcome id flags) (updateOutcome id flags) := by
  refine .bind (.found id) fun found => ?_
  cases found with
  | none => exact .value none
  | some binding =>
      refine .look fun world => .branch (.value none) (.bind .seen fun graph => ?_)
      refine .branch (.value none) (.bind (.change fun _ => rfl) fun _ => ?_)
      refine .bind (.branch ?_ (runOutcome_mirrors id binding flags)) ?_
      · exact .bind (reportLoop_mirrors binding) fun _ => .value none
      · exact fun _ => .bind releaseGraph_mirrors fun _ => .value _

/-- A store that keeps the writers and fails has asked the interceptor, if anyone. -/
theorem Course.failed_keeping {outside : Outside σ} {target : PropertyRef} {property : Property}
    {aim : Aim} {start after : World σ} {error : PropertyError} (keep : aim.flags.keep = true)
    (course : Course outside target property aim start (.error error) after) :
    after = start ∨ ∃ id value final,
      outside.intercept id target.object value start = some (final, after) := by
  have kept : ∀ {freed}, Relieves outside target aim.flags start freed → freed = start := by
    intro freed relieves
    cases relieves with
    | kept _ => rfl
    | removed replaces =>
        rw [keep] at replaces
        cases replaces
  have consulted : ∀ {freed ready value final}, Relieves outside target aim.flags start freed →
      Consults outside target aim.flags value freed final ready →
      ready = start ∨ ∃ id value final,
        outside.intercept id target.object value start = some (final, ready) := by
    intro freed ready value final relieves consults
    cases kept relieves
    cases consults with
    | skipped _ => exact .inl rfl
    | unwatched _ => exact .inl rfl
    | asked _ _ answered => exact .inr ⟨_, _, _, answered⟩
  cases course with
  | native closed given course =>
      cases course with
      | unfit _ => exact .inl rfl
      | bereft _ relieves _ => exact .inl (kept relieves)
      | spoiled _ relieves consults _ => exact consulted relieves consults
      | lost _ relieves consults _ => exact consulted relieves consults
  | slot slotted course =>
      cases course with
      | bereft relieves _ => exact .inl (kept relieves)

/-! ## Updates that have come to nothing so far -/

/-- Whether the update of a binding goes on and has come to nothing so far. -/
structure Fruitless (id : BindingId) (world : World (σ × Trace σ)) : Prop where
  still : ∀ stretch ∈ world.trace.stretches world.untraced, stretch.Still
  discreet : ∀ query ∈ world.queries, query.isDiscreet
  marked : (world.bindings[id]?).map (·.updating) = some true

variable {outside : Outside σ} {id : BindingId} {world later : World (σ × Trace σ)}

theorem Fruitless.apart (fruitless : Fruitless id world) (host : later.host = world.host)
    (graph : later.graph = world.graph)
    (updating : (later.bindings[id]?).map (·.updating) = (world.bindings[id]?).map (·.updating)) :
    Fruitless id later := by
  have same : later.trace = world.trace := congrArg Prod.snd host
  refine ⟨fun stretch member => ?_, ?_, updating.trans fruitless.marked⟩
  · rcases Trace.mem_stretches.mp member with earlier | rfl
    · exact fruitless.still stretch (List.mem_append_left _ (same ▸ earlier))
    · have still := fruitless.still _ (List.mem_append_right _ (List.mem_singleton_self _))
      rw [same]
      exact graph.trans still
  · rw [World.queries_of_trace same]
    exact fruitless.discreet

/-- Visits to functions, interceptors and handlers leave an update as fruitless as it was. -/
theorem Fruitless.visit (fruitless : Fruitless id world) (code : outside.Keeps (World.Onward none))
    (query : Query) (discreet : query.isDiscreet) {after : World σ}
    (answers : outside.Answers world.untraced after query) :
    Fruitless id (after.traced
      ⟨world.trace.stretches world.untraced, some ⟨query, world.untraced⟩, after⟩) := by
  refine ⟨fun stretch member => ?_, fun other member => ?_, ?_⟩
  · rcases Trace.mem_stretches.mp member with earlier | rfl
    · exact fruitless.still stretch earlier
    · rfl
  · rw [World.queries_visit] at member
    rcases List.mem_append.mp member with earlier | last
    · exact fruitless.discreet other earlier
    · rw [List.mem_singleton.mp last]
      exact discreet
  · rcases Option.map_eq_some_iff.mp fruitless.marked with ⟨binding, found, updating⟩
    rcases (code.answers answers).bindings id binding found with ⟨last, found', step⟩
    show (after.bindings[id]?).map _ = _
    rw [found']
    exact congrArg some (step.updating (by simp) updating).1

/-- What nobody is told of leaves an update as fruitless as it was. -/
theorem fruitless_discreet : Discreet fun world later : World (σ × Trace σ) =>
    Fruitless id world → Fruitless id later where
  refl _ fruitless := fruitless
  trans first second fruitless := second (first fruitless)
  aside same fruitless := by
    have hushed := Occasion.hushed_discreet.aside same
    exact fruitless.apart hushed.host hushed.graph (hushed.updating id)
  unnoticed world other change unnoticed fruitless := by
    have hushed := Occasion.hushed_discreet.unnoticed world other change unnoticed
    exact fruitless.apart hushed.host hushed.graph (hushed.updating id)
  released world subscriptions fruitless := fruitless.apart rfl rfl rfl

/-- An evaluation comes to nothing but its result. -/
theorem evaluateBinding_fruitless (code : outside.Keeps (World.Onward none)) (binding : Binding) :
    Keeps outside.traced (fun world later => Fruitless id world → Fruitless id later)
      (evaluateBinding id binding) := by
  have discreet : Discreet fun world later : World (σ × Trace σ) =>
      Fruitless id world → Fruitless id later := fruitless_discreet
  refine discreet.bind (discreet.functionOf id binding) fun found => ?_
  cases found with
  | error error => exact discreet.value _
  | ok callee =>
      refine discreet.bind ?_ fun outcome => ?_
      · refine discreet.bind discreet.get fun _ => discreet.bind (discreet.move fun _ => rfl) ?_
        refine fun _ => discreet.bind ?_ fun _ =>
          discreet.bind (discreet.move fun _ => rfl) fun _ => discreet.value _
        intro world result after run fruitless
        rcases Step.run_of_traced (.call callee _) run with ⟨later, answered, rfl⟩
        exact fruitless.visit code (.call callee _) trivial ⟨result, answered⟩
      · cases outcome with
        | ok value => exact discreet.value _
        | error error => exact discreet.bind (discreet.locationOf id) fun _ => discreet.value _

/-- A write-back that fails has come to nothing. -/
theorem storeResult_fruitless (code : outside.Keeps (World.Onward none))
    (fruitless : Fruitless id world) (binding : Binding) (result : Boxed) (flags : WriteFlags) :
    Ensures outside.traced (storeResult id binding result flags).run world fun outcome after =>
      ∀ error, outcome = .error error → Fruitless id after := by
  rintro _ after run error rfl
  have aside : ∀ {start : World (σ × Trace σ)}, world.Aside start → Fruitless id start :=
    fun aside => fruitless.apart aside.host aside.graph (congrArg
      (fun world : World (σ × Trace σ) => (world.bindings[id]?).map (·.updating)) aside.eq :)
  rcases (storeResult_lands id binding result flags _ _ run).failed with refused |
    ⟨start, target, property, _, prepared, _, _, course⟩
  · exact aside refused
  · rcases course.failed_keeping rfl with rfl | ⟨interceptor, value, final, answered⟩
    · exact aside prepared
    · rcases Step.run_of_traced (.intercept interceptor target.object value) answered with
        ⟨later, answer, rfl⟩
      exact (aside prepared).visit code (.intercept interceptor target.object value) trivial
        ⟨final, answer⟩

/-! ## Failures that are noted -/

/-- Whether an update has come to nothing, and its failure is the latest of the binding. -/
structure Noted (id : BindingId) (failure : Failure) (world : World (σ × Trace σ)) : Prop
    extends Fruitless id world where
  noted : world.untraced.error? id = some failure

variable {failure : Failure}

theorem Noted.apart (noted : Noted id failure world) (host : later.host = world.host)
    (graph : later.graph = world.graph) (bindings : later.bindings = world.bindings) :
    Noted id failure later := by
  refine ⟨noted.toFruitless.apart host graph (by rw [bindings]), ?_⟩
  rw [← noted.noted]
  show (later.bindings[id]?).bind _ = (world.bindings[id]?).bind _
  rw [bindings]

/-- A handler cannot take the failure away while the update goes on. -/
theorem Noted.handled (noted : Noted id failure world) (code : outside.Keeps (World.Onward none))
    (handler : HostId) (reported : Failure) {after : World σ}
    (run : outside.handle handler reported world.untraced = some ((), after)) :
    Noted id failure (after.traced ⟨world.trace.stretches world.untraced,
      some ⟨.handle handler reported, world.untraced⟩, after⟩) := by
  refine ⟨noted.toFruitless.visit code (.handle handler reported) trivial run, ?_⟩
  rcases Option.map_eq_some_iff.mp noted.marked with ⟨binding, found, updating⟩
  rcases (code.handle handler reported _ _ _ run).bindings id binding found with ⟨last, found', step⟩
  have before := noted.noted
  rw [World.error?, show world.untraced.bindings[id]? = _ from found] at before
  show (after.bindings[id]?).bind _ = _
  rw [found']
  exact (step.updating (by simp) updating).2.trans before

/-- A report changes what nobody counts on, and then tells the handler if there is one. -/
theorem report_ensures {σ : Type} {outside : Outside σ} {world : World σ}
    {condition : World σ → Prop} (diagnostics : DiagnosticsId) (failure : Failure)
    (apart : ∀ later : World σ, later.host = world.host → later.graph = world.graph →
      later.bindings = world.bindings → condition later)
    (handled : ∀ handler (prepared after : World σ), prepared.host = world.host →
      prepared.graph = world.graph → prepared.bindings = world.bindings →
      outside.handle handler failure prepared = some ((), after) → condition after) :
    Ensures outside (report diagnostics failure) world fun _ after => condition after := by
  refine .change (.bind (fun _ prepared => prepared.host = world.host ∧
    prepared.graph = world.graph ∧ prepared.bindings = world.bindings) ?_ ?_)
  · refine .bind (fun _ prepared => prepared.host = world.host ∧
      prepared.graph = world.graph ∧ prepared.bindings = world.bindings) ?_ ?_
    · refine .look ?_
      split
      · exact .change (.value ⟨rfl, rfl, rfl⟩)
      · exact .value ⟨rfl, rfl, rfl⟩
    · intro outcome prepared same
      split
      · exact .value same
      · exact .of_steps (fun _ => rfl) same
  · rintro _ prepared ⟨host, graph, bindings⟩
    refine .look ?_
    split
    · refine .change ?_
      split
      · refine fun _ after run => handled _ _ after ?_ ?_ ?_ run
        · exact host
        · exact graph
        · exact bindings
      · exact .value (apart _ host graph bindings)
    · exact .value (apart _ host graph bindings)

/-- The failure of an update is noted, whether it is reported now or later. -/
theorem recordFailure_notes (code : outside.Keeps (World.Onward none))
    (fruitless : Fruitless id world) (failure : Failure) :
    Ensures outside.traced (recordFailure id failure) world fun _ after =>
      Noted id failure after := by
  rcases Option.map_eq_some_iff.mp fruitless.marked with ⟨binding, found, updating⟩
  refine .lookBinding ?_
  rw [found]
  have noted : ∀ reported, Noted id failure { world with
      bindings := world.bindings.modify id fun binding =>
        binding.withPending failure reported } := by
    intro reported
    refine ⟨fruitless.apart rfl rfl (Binding.map_modify _ id id fun _ => rfl), ?_⟩
    show ((world.bindings.modify id _)[id]?).bind _ = _
    rw [List.getElem?_modify_eq, found]
    rfl
  have reports : ∀ {world : World (σ × Trace σ)} other, Noted id failure world →
      Ensures outside.traced (report binding.context.diagnostics other) world fun _ after =>
        Noted id failure after := by
    intro world other noted
    refine report_ensures _ other (fun later => noted.apart) ?_
    intro handler prepared after host graph bindings run
    rcases Step.run_of_traced (.handle handler other) run with ⟨later, answered, rfl⟩
    exact (noted.apart host graph bindings).handled code handler other answered
  dsimp only
  split
  · refine .change ?_
    split
    · exact reports _ (noted false)
    · exact .value (noted false)
  · exact .change (reports _ (noted true))

/-! ## The law -/

/-- What an update does with its result, if it notes a failure. -/
theorem finishOutcome_notes (code : outside.Keeps (World.Onward none))
    (fruitless : Fruitless id world) (binding : Binding) (result : Except Failure Boxed)
    (flags : WriteFlags) :
    Ensures outside.traced (finishOutcome id binding result flags) world fun noted? after =>
      ∀ failure, noted? = some failure → Noted id failure after := by
  have notes : ∀ {world : World (σ × Trace σ)} failure, Fruitless id world →
      Ensures outside.traced (do recordFailure id failure; return some failure) world
        fun noted? after => ∀ failure, noted? = some failure → Noted id failure after := by
    intro world failure fruitless
    refine .bind _ (recordFailure_notes code fruitless failure) fun _ after noted => .value ?_
    rintro _ ⟨⟩
    exact noted
  cases result with
  | error failure => exact notes failure fruitless
  | ok value =>
      refine .lookBinding ?_
      split
      · exact .value nofun
      · refine .bind _ (storeResult_fruitless code fruitless binding value flags) ?_
        intro outcome after failed
        split
        · exact .change (.value nofun)
        · exact .value nofun
        · refine .lookGraph ?_
          split
          · have discreet : Discreet fun world later : World (σ × Trace σ) =>
              Fruitless id world → Fruitless id later := fruitless_discreet
            refine .bind _ (discreet.writeFailure id binding _ after) fun failure last kept => ?_
            exact notes failure (kept (failed _ rfl))
          · exact .value nofun

/-- Whether an update has come to nothing but a failure, which is the latest of its binding. -/
structure Failed (id : BindingId) (failure : Failure) (world : World (σ × Trace σ)) : Prop where
  still : ∀ stretch ∈ world.trace.past, stretch.Still
  untouched : world.present.Untouched
  discreet : ∀ query ∈ world.queries, query.isDiscreet
  noted : world.untraced.error? id = some failure

theorem Noted.failed (noted : Noted id failure world) : Failed id failure world :=
  ⟨fun stretch member => noted.still stretch (List.mem_append_left _ member),
    .inl (noted.still _ (List.mem_append_right _ (List.mem_singleton_self _))), noted.discreet,
    noted.noted⟩

theorem Failed.step (failed : Failed id failure world) (host : later.host = world.host)
    (untouched : world.untraced.Untouched later.untraced)
    (gone : world.hasGraph = false → later.hasGraph = false)
    (noted : later.untraced.error? id = world.untraced.error? id) : Failed id failure later := by
  have same : later.trace = world.trace := congrArg Prod.snd host
  refine ⟨?_, ?_, ?_, noted.trans failed.noted⟩
  · rw [same]
    exact failed.still
  · unfold World.present
    rw [same]
    exact failed.untouched.trans untouched gone
  · rw [World.queries_of_trace same]
    exact failed.discreet

theorem Failed.hushed (failed : Failed id failure world) (hushed : Occasion.Hushed world later) :
    Failed id failure later :=
  failed.step hushed.host (.inl hushed.graph) hushed.gone (hushed.silent.error? id)

theorem failed_discreet : Discreet fun world later : World (σ × Trace σ) =>
    Failed id failure world → Failed id failure later where
  refl _ failed := failed
  trans first second failed := second (first failed)
  aside same failed := failed.hushed (Occasion.hushed_discreet.aside same)
  unnoticed world other change unnoticed failed :=
    failed.hushed (Occasion.hushed_discreet.unnoticed world other change unnoticed)
  released world subscriptions failed :=
    failed.hushed (Occasion.hushed_discreet.released world subscriptions)

/-- The last holder of the graph takes it along, but not the failure. -/
theorem releaseGraph_fails (failed : Failed id failure world) :
    Ensures outside.traced releaseGraph world fun _ after => Failed id failure after := by
  have discreet : Discreet fun world later : World (σ × Trace σ) =>
      Failed id failure world → Failed id failure later := failed_discreet
  refine (discreet.releaseGraph ?_ ?_ world).weaken fun _ _ fails => fails failed
  · refine fun world failed => failed.step rfl (.inl rfl) (fun without => ?_) rfl
    have none : world.graphHolders = 0 := by simpa [World.hasGraph] using without
    simp [World.hasGraph, none]
  · exact fun world without failed =>
      failed.step rfl (.inr ⟨without, rfl⟩) (fun _ => without) rfl

/-- The mark of an update is taken away when all is over. -/
theorem unmark_fails {noted? : Option Failure}
    (noted : ∀ failure, noted? = some failure → Noted id failure world) :
    Ensures outside.traced (do
      modifyBinding id fun binding => { binding with updating := false }
      settle id
      return noted?) world fun noted? after =>
        ∀ failure, noted? = some failure → Failed id failure after := by
  let unmarked : World (σ × Trace σ) := { world with
    bindings := world.bindings.modify id fun binding => { binding with updating := false } }
  have silent : world.untraced.Silent unmarked.untraced :=
    .ofBindings rfl rfl rfl rfl rfl fun other => Binding.map_modify _ _ other fun _ => rfl
  refine .change (.bind _ (Occasion.hushed_discreet.settle id unmarked) fun _ after hushed =>
    .value fun failure same => ?_)
  have failed : Failed id failure unmarked :=
    (noted failure same).failed.step rfl (.inl rfl) (fun without => without) (silent.error? id)
  exact failed.hushed hushed

/-- An evaluation and what follows it, if a failure is noted. -/
theorem runOutcome_fails (code : outside.Keeps (World.Onward none)) {origin : World σ}
    (trace : world.trace = .empty origin) (graph : world.graph = origin.graph)
    {binding : Binding} (found : world.bindings[id]? = some binding) (flags : WriteFlags) :
    Ensures outside.traced (runOutcome id binding flags) world fun noted? after =>
      ∀ failure, noted? = some failure → Failed id failure after := by
  have discreet : Discreet fun world later : World (σ × Trace σ) =>
    Fruitless id world → Fruitless id later := fruitless_discreet
  let marked : World (σ × Trace σ) := { world with
    bindings := world.bindings.modify id fun binding => { binding with updating := true } }
  have fruitless : Fruitless id marked := by
    refine ⟨?_, ?_, ?_⟩
    · rw [show marked.trace = _ from trace]
      rintro stretch member
      rw [List.mem_singleton.mp member]
      exact graph
    · unfold World.queries
      rw [show marked.trace = _ from trace]
      exact fun _ member => absurd member List.not_mem_nil
    · show ((world.bindings.modify id _)[id]?).map _ = _
      rw [List.getElem?_modify_eq, found]
      rfl
  refine .change (.bind _ (discreet.clearReads id marked) fun _ cleared kept => ?_)
  refine .bind _ (evaluateBinding_fruitless code binding cleared) fun result evaluated kept' => ?_
  have counted : Fruitless id { evaluated with
      bindings := evaluated.bindings.modify id fun binding =>
        { binding with evaluations := binding.evaluations + 1 } } :=
    (kept' (kept fruitless)).apart rfl rfl (Binding.map_modify _ id id fun _ => rfl)
  refine .change (.lookGraph ?_)
  split
  · exact .bind _ (finishOutcome_notes code counted binding result flags) fun _ _ => unmark_fails
  · exact unmark_fails nofun

/-- An update that notes a failure has come to nothing else. -/
theorem updateOutcome_fails (code : outside.Keeps (World.Onward none)) (origin : World σ)
    (flags : WriteFlags) :
    Ensures outside.traced (updateOutcome id flags) (origin.traced (.empty origin))
      fun noted? after => ∀ failure, noted? = some failure → Failed id failure after := by
  refine .lookBinding ?_
  cases found : (origin.traced (.empty origin)).bindings[id]? with
  | none => exact .value nofun
  | some binding =>
      refine .look ?_
      split
      · exact .value nofun
      · refine .lookGraph ?_
        split
        · exact .value nofun
        · let retained : World (σ × Trace σ) :=
            { origin.traced (.empty origin) with graphHolders := origin.graphHolders + 1 }
          have known : retained.bindings[id]? = some binding := found
          refine .change (.bind (fun noted? after => ∀ failure, noted? = some failure →
            Failed id failure after) ?_ fun noted? after failed => ?_)
          · split
            · exact .bind (fun _ _ => True) (fun _ _ _ => trivial) fun _ _ _ => .value nofun
            · exact runOutcome_fails code rfl rfl known flags
          · cases noted? with
            | none =>
                exact .bind (fun _ _ => True) (fun _ _ _ => trivial) fun _ _ _ => .value nofun
            | some failure =>
                refine .bind _ (releaseGraph_fails (failed failure rfl)) fun _ after failed =>
                  .value ?_
                rintro _ ⟨⟩
                exact failed

variable {host : Host σ} {bound : Nat} {flags : WriteFlags} {origin after : World σ}

/--
An update that notes a failure keeps the last good value.  The failure is the latest of the
binding then.  No subscriber and no writer has been told anything, and no stretch of the
update has touched the graph, unless the graph is gone altogether.  So all cells, writers
and interceptors are what they were, up to any point of the update, as long as the code
that was visited until then has left the graph as it was: when a handler is told of the
failure, if the function and the interceptors have, and after the update, if the handler
has too.
-/
theorem failed_update_keeps_graph (plain : host.Plain)
    (run : runWithin bound host (update id flags) origin = some ((), after)) :
    ∃ noted?, runWithin bound host (updateOutcome id flags) origin = some (noted?, after) ∧
      ∀ failure, noted? = some failure → after.error? id = some failure ∧
        ∃ trace : Trace σ,
          updateOutcome id flags (Outside.within host bound).traced
            (origin.traced (.empty origin)) = some (some failure, after.traced trace) ∧
          trace.Linked (Outside.within host bound) origin ∧
          (∀ query ∈ (after.traced trace).queries, query.isDiscreet) ∧
          (∀ stretch ∈ trace.stretches after, stretch.Untouched) ∧
          ∀ earlier stretch rest, trace.stretches after = earlier ++ stretch :: rest →
            (∀ other ∈ earlier ++ [stretch], other.Spared) → origin.Untouched stretch.stop := by
  have code := within_onward plain bound
  have mirrored := updateOutcome_mirrors id flags (Outside.within host bound)
    (origin.traced (.empty origin))
  rw [runWithin, update_outcome] at run
  rcases Option.bind_eq_some_iff.mp run with ⟨⟨noted?, last⟩, ran, same⟩
  cases same
  rcases Option.map_eq_some_iff.mp (mirrored.trans ran) with ⟨⟨noted?, recorded⟩, traced, same⟩
  cases same
  refine ⟨noted?, ran, fun failure noted => ?_⟩
  subst noted
  have failed := updateOutcome_fails code origin flags _ _ traced failure rfl
  have known : ∃ former, origin.bindings[id]? = some former := by
    cases found : origin.bindings[id]? with
    | some former => exact ⟨former, rfl⟩
    | none =>
        have refused : Ensures (Outside.within host bound) (updateOutcome id flags) origin
            fun noted? _ => noted? = none := by
          refine .lookBinding ?_
          rw [found]
          exact .value rfl
        cases refused _ _ ran
  rcases known with ⟨former, found⟩
  have updated : update id flags (Outside.within host bound).traced
      (origin.traced (.empty origin)) = some ((), recorded) := by
    rw [update_outcome]
    exact congrArg (Option.bind · _) traced
  let occasion : Occasion σ := ⟨Outside.within host bound, id, former, origin⟩
  have complete : occasion.Complete recorded :=
    update_completes code found flags _ _ updated
  have untouched : ∀ stretch ∈ recorded.trace.stretches recorded.untraced, stretch.Untouched := by
    intro stretch member
    rcases Trace.mem_stretches.mp member with earlier | rfl
    · exact .inl (failed.still stretch earlier)
    · exact failed.untouched
  refine ⟨failed.noted, recorded.trace, traced, complete.linked, failed.discreet, untouched, ?_⟩
  intro earlier stretch rest parts spared
  have begun := complete.linked.graph_start failed.still parts spared
  have member : stretch ∈ recorded.trace.stretches recorded.untraced := by
    rw [parts]
    exact List.mem_append_right _ List.mem_cons_self
  have kept := untouched stretch member
  unfold Stretch.Untouched World.Untouched at kept
  rw [begun] at kept
  exact kept

section Panel

/-! ## A flag that is not updated -/

/-- The panel with an interceptor after an update of its binding under a host that spoils it. -/
def unspoiledPanel : World Unit :=
  ((runWithin 3 spoiler (update 0 .none) (interceptedPanel 0)).map Prod.snd).getD
    (interceptedPanel 0)

theorem spoiler_plain : spoiler.Plain :=
  ⟨silent_plain.call, silent_plain.callTyped, fun _ _ _ => .value _, silent_plain.announce,
    silent_plain.handle, silent_plain.retire⟩

/-- What is wrong with the answer of the interceptor. -/
def spoiledFailure : Failure where
  kind := .property
  location := .none
  object? := some ⟨0, 0⟩
  message := "property 'first' expects a value of type bool"
  path? := some "first"

/-- The interceptor answers with a number: the update fails, and the flag keeps its value and its binding. -/
theorem spoiled_update_keeps_flag : spoiler.Plain ∧
    runWithin 3 spoiler (update 0 .none) (interceptedPanel 0) = some ((), unspoiledPanel) ∧
    runWithin 3 spoiler (updateOutcome 0 .none) (interceptedPanel 0) =
      some (some spoiledFailure, unspoiledPanel) ∧
    unspoiledPanel.error? 0 = some spoiledFailure ∧
    (∃ trace : Trace Unit, updateOutcome 0 .none (Outside.within spoiler 3).traced
        ((interceptedPanel 0).traced (.empty (interceptedPanel 0))) =
          some (some spoiledFailure, unspoiledPanel.traced trace) ∧
      ∀ query ∈ (unspoiledPanel.traced trace).queries, query.isDiscreet) ∧
    ((interceptedPanel 0).graph.cell? (panelRef 1)).map (·.holds (.bool false)) = some true ∧
    (unspoiledPanel.graph.cell? (panelRef 1)).map (·.holds (.bool false)) = some true ∧
    unspoiledPanel.graph.writersAt (panelRef 1) = [.binding 0] := by
  have run : runWithin 3 spoiler (update 0 .none) (interceptedPanel 0) =
      some ((), unspoiledPanel) := by with_unfolding_all rfl
  have outcome : ((runWithin 3 spoiler (updateOutcome 0 .none) (interceptedPanel 0)).map
      Prod.fst) = some (some spoiledFailure) := by decide +kernel
  rcases failed_update_keeps_graph spoiler_plain run with ⟨noted?, noting, failed⟩
  rw [noting] at outcome
  cases Option.some.inj outcome
  rcases failed _ rfl with ⟨noted, trace, traced, _, discreet, _⟩
  exact ⟨spoiler_plain, run, noting, noted, ⟨trace, traced, discreet⟩, by decide +kernel,
    by decide +kernel, by decide +kernel⟩

end Panel

end Engine

end PropertyBinding

import PropertyBinding.Proofs.ActiveWriter
import PropertyBinding.Proofs.Severally

namespace PropertyBinding

/-!
# The fast path

A binding may skip interceptors when it writes back, if none was there when it was enabled
or disabled last.  Whether one is there is found out by following the alias chain of its
target, no further than the default bound.  The write-back itself follows the chain as far
as the configuration of the binding says.

So the fast path is taken exactly where no interceptor is, as long as the configured bound
is no more than the default one.  Beyond that a chain can be too long to be looked through
and short enough to be written through: then an interceptor at its end is not found, and
is skipped.
-/

namespace ObjectGraph

variable {graph : ObjectGraph} {ref target : PropertyRef}

/-- Whether the alias chain of a property is longer than a number of hops. -/
def Exceeds (graph : ObjectGraph) (ref : PropertyRef) (depth : Nat) : Prop :=
  graph.follow (depth + 1) ref = .ok none

/-- A chain that was followed to its end, or to a failure, is not followed further. -/
theorem follow_mono {bound larger : Nat} (le : bound ≤ larger)
    (ended : graph.follow bound ref ≠ .ok none) :
    graph.follow larger ref = graph.follow bound ref := by
  induction bound generalizing larger ref with
  | zero => exact absurd rfl ended
  | succ bound step =>
      cases larger with
      | zero => exact absurd le (Nat.not_succ_le_zero bound)
      | succ larger =>
          have smaller := Nat.le_of_succ_le_succ le
          unfold follow at ended ⊢
          cases described : graph.property ref with
          | error error => rfl
          | ok property =>
              rw [described] at ended
              simp only [bind, Except.bind] at ended ⊢
              split
              · next pointer =>
                rw [if_pos pointer] at ended
                split
                · next aimed pointed =>
                  simp only [pointed] at ended
                  split
                  · next alive =>
                    rw [if_pos alive] at ended
                    exact step smaller ended
                  · rfl
                · rfl
              · rfl

theorem follow_of_resolve {depth : Nat} (resolved : graph.resolve ref depth = .ok target) :
    graph.follow (depth + 1) ref = .ok (some target) := by
  simp only [resolve, bind, Except.bind] at resolved
  split at resolved
  · cases resolved
  · next result followed =>
    cases result with
    | some stored =>
        cases resolved
        exact followed
    | none =>
        simp only at resolved
        split at resolved <;> cases resolved

theorem resolve_of_follow {depth : Nat}
    (followed : graph.follow (depth + 1) ref = .ok (some target)) :
    graph.resolve ref depth = .ok target := by
  unfold resolve
  rw [followed]
  rfl

/-- Two bounds resolve a property to the same, unless its chain is longer than one of them. -/
theorem resolve_of_not_exceeds {depth : Nat} (resolved : graph.resolve ref depth = .ok target)
    {other : Nat} (within : ¬graph.Exceeds ref other) : graph.resolve ref other = .ok target := by
  have followed := follow_of_resolve resolved
  have ended : graph.follow (depth + 1) ref ≠ .ok none := by simp [followed]
  refine resolve_of_follow ?_
  rcases Nat.le_total (depth + 1) (other + 1) with longer | shorter
  · exact (follow_mono longer ended).trans followed
  · exact (follow_mono shorter within).symm.trans followed

theorem not_exceeds_of_resolve {depth : Nat} (resolved : graph.resolve ref depth = .ok target)
    {other : Nat} (le : depth ≤ other) : ¬graph.Exceeds ref other := by
  have followed := follow_of_resolve resolved
  have ended : graph.follow (depth + 1) ref ≠ .ok none := by simp [followed]
  intro exceeds
  rw [Exceeds, follow_mono (Nat.succ_le_succ le) ended, followed] at exceeds
  cases exceeds

/-- Whether an interceptor is found at the end of the alias chain of a property. -/
def showsInterceptor (graph : ObjectGraph) (ref : PropertyRef) : Bool :=
  match graph.resolve ref defaultAliasDepth with
  | .ok target => (graph.interceptor? target).isSome
  | .error _ => false

/-- An interceptor is found where it is, unless the chain is too long to be looked through. -/
theorem showsInterceptor_eq_false_iff {depth : Nat}
    (resolved : graph.resolve ref depth = .ok target) :
    graph.showsInterceptor ref = false ↔
      graph.interceptor? target = none ∨ graph.Exceeds ref defaultAliasDepth := by
  unfold showsInterceptor
  by_cases long : graph.Exceeds ref defaultAliasDepth
  · simp only [long, or_true, iff_true]
    split
    · next found =>
      rw [Exceeds, follow_of_resolve found] at long
      cases long
    · rfl
  · rw [resolve_of_not_exceeds resolved long]
    simp [long]

end ObjectGraph

namespace Engine

variable {σ : Type} {outside : Outside σ} {world after : World σ} {id : BindingId}
  {former binding : Binding}

/-- The world with a binding enabled or disabled, and put on the fast path or taken off it. -/
def switched (world : World σ) (id : BindingId) (enabled fast : Bool) : World σ :=
  { world with bindings := world.bindings.modify id fun binding =>
      { binding with enabled := enabled, fastPath := fast } }

/-- Whether it is found out of a binding in a world that it may skip interceptors. -/
def maySkip (world : World σ) (binding : Binding) : Bool :=
  binding.context.config.fastPath && world.hasGraph &&
    !world.graph.showsInterceptor binding.target.property

theorem hasInterceptor_steps (world : World σ) (ref : PropertyRef) :
    Steps (hasInterceptor ref) world (world.graph.showsInterceptor ref) world := by
  intro outside
  simp only [hasInterceptor, apply_bind, apply_graph, Option.bind_some,
    ObjectGraph.showsInterceptor]
  cases world.graph.resolve ref defaultAliasDepth <;> rfl

theorem refreshFastPath_steps (found : world.bindings[id]? = some binding) :
    Steps (refreshFastPath id) world () { world with
      bindings := world.bindings.modify id fun current =>
        { current with fastPath := maySkip world binding } } := by
  intro outside
  simp only [refreshFastPath, apply_bind, apply_binding?, Option.bind_some, found,
    hasInterceptor_steps world binding.target.property outside, apply_get]
  rfl

/-! ## Evaluations are counted -/

theorem evaluations_allowed :
    Binding.Allows fun former binding => former.evaluations ≤ binding.evaluations where
  refl _ := Nat.le_refl _
  trans := Nat.le_trans
  slight slight := Nat.le_of_eq slight.evaluations.symm
  worked worked := Nat.le_of_eq worked.evaluations.symm
  counted _ := Nat.le_succ _
  retired _ := Nat.le_refl _
  switched _ _ := Nat.le_refl _

/-- Whether no binding has been evaluated less often. -/
abbrev Counts (world later : World σ) : Prop :=
  world.Each (fun former binding => former.evaluations ≤ binding.evaluations) later

/-- An update that is not refused evaluates its binding. -/
theorem runUpdate_counts (code : outside.Keeps Counts) (found : world.bindings[id]? = some former)
    (binding : Binding) (flags : WriteFlags) :
    Ensures outside (runUpdate id binding flags) world fun _ after =>
      ∃ last, after.bindings[id]? = some last ∧ former.evaluations < last.evaluations := by
  have upkeep := each_upkeep evaluations_allowed code
  have works := each_works (σ := σ) evaluations_allowed id
  have marked : ∀ updating, Keeps outside Counts
      (modifyBinding id fun binding => { binding with updating := updating }) :=
    fun _ => Steady.change fun world => works world _ fun _ => ⟨rfl, rfl, rfl, rfl, rfl, rfl⟩
  have ending : Keeps outside Counts (do
      modifyBinding id fun binding => { binding with updating := false }
      settle id) := upkeep.bind (marked false) fun _ => upkeep.discreet.settle id
  refine .bind _ (marked true world) fun _ _ first => ?_
  refine .bind _ (upkeep.discreet.clearReads id _) fun _ _ second => ?_
  refine .bind _ (upkeep.evaluateBinding id binding _) fun result evaluated third => ?_
  -- the evaluation may have led to others of the same binding, which are counted already
  rcases upkeep.trans first (upkeep.trans second third) id former found with
    ⟨current, located, counted⟩
  refine .change (.lookGraph ?_)
  refine (Steady.branch (upkeep.bind (upkeep.finishUpdate works binding result flags) fun _ =>
    ending) ending _).weaken fun _ after rest => ?_
  rcases rest id { current with evaluations := current.evaluations + 1 } (by
    simp [located]) with ⟨last, found', counted'⟩
  exact ⟨last, found', Nat.lt_of_lt_of_le (Nat.lt_succ_of_le counted) counted'⟩

/-- An update is refused in silence, or as a loop, or it evaluates its binding. -/
theorem update_course (code : outside.Keeps Counts) (found : world.bindings[id]? = some binding)
    (flags : WriteFlags) :
    Ensures outside (update id flags) world fun _ after => after = world ∨
      (binding.updating = true ∧
        keepingGraph (reportLoop binding) outside world = some ((), after)) ∨
      ∃ last, after.bindings[id]? = some last ∧ binding.evaluations < last.evaluations := by
  refine .lookBinding ?_
  rw [found]
  refine .look ?_
  split
  · exact .value (.inl rfl)
  · refine .lookGraph ?_
    split
    · exact .value (.inl rfl)
    · split
      · next updating => exact fun _ after run => .inr (.inl ⟨updating, run⟩)
      · let retained : World σ := { world with graphHolders := world.graphHolders + 1 }
        have located : retained.bindings[id]? = some binding := found
        refine .change (.bind _ (runUpdate_counts code located binding flags) ?_)
        rintro _ middle ⟨last, found', more⟩
        refine .bind _ (releaseGraph_each evaluations_allowed code middle) ?_
        intro _ after released
        rcases released id last found' with ⟨final, located, counted⟩
        exact .value (.inr (.inr ⟨final, located, Nat.lt_of_lt_of_le more counted⟩))

/-! ## The fast path -/

/--
Whether the fast path of a binding is taken exactly where there is no interceptor, or the
chain is too long to be looked through, and a binding that does not follow longer chains
itself takes it only where there is none.
-/
def FastPathExact (world : World σ) (binding : Binding) : Prop :=
  ∀ target, world.graph.resolve binding.target.property binding.context.config.aliasDepth =
      .ok target →
    (binding.fastPath = true ↔ binding.context.config.fastPath = true ∧ world.hasGraph = true ∧
      (world.graph.interceptor? target = none ∨
        world.graph.Exceeds binding.target.property defaultAliasDepth)) ∧
    (binding.context.config.aliasDepth ≤ defaultAliasDepth → binding.fastPath = true →
      world.graph.interceptor? target = none)

theorem fastPathExact_maySkip (world : World σ) (id : BindingId) (former : Binding)
    (enabled : Bool) : FastPathExact (switched world id enabled (maySkip world former))
      { former with enabled := enabled, fastPath := maySkip world former } := by
  intro target resolved
  have reached : world.graph.resolve former.target.property former.context.config.aliasDepth =
      .ok target := resolved
  have taken : maySkip world former = true ↔ former.context.config.fastPath = true ∧
      world.hasGraph = true ∧ (world.graph.interceptor? target = none ∨
        world.graph.Exceeds former.target.property defaultAliasDepth) := by
    rw [← ObjectGraph.showsInterceptor_eq_false_iff reached]
    simp [maySkip, and_assoc]
  refine ⟨taken, fun le fast => (taken.mp fast).2.2.resolve_right ?_⟩
  exact ObjectGraph.not_exceeds_of_resolve resolved le

/-- A binding is enabled or disabled, and its update, if there is one, takes one of its courses. -/
theorem setEnabled_course (code : outside.Keeps Counts) (found : world.bindings[id]? = some former)
    (active : former.retired = false) (enabled : Bool) (flags? : Option WriteFlags) :
    Ensures outside (setEnabled id enabled flags?) world fun _ after =>
      after = switched world id enabled (maySkip world former) ∨
      (former.updating = true ∧ keepingGraph (reportLoop former) outside
        (switched world id enabled (maySkip world former)) = some ((), after)) ∨
      ∃ last, after.bindings[id]? = some last ∧ former.evaluations < last.evaluations := by
  refine .lookBinding ?_
  rw [found]
  dsimp only
  rw [active, Bool.and_false]
  let toggled : World σ := { world with
    bindings := world.bindings.modify id fun binding => { binding with enabled := enabled } }
  have known : toggled.bindings[id]? = some { former with enabled := enabled } := by
    simp [toggled, found]
  refine .change (.bind
    (fun _ middle => middle = switched world id enabled (maySkip world former))
    (.of_steps (refreshFastPath_steps known) ?_) ?_)
  · -- enabling and the fast path are two changes of the binding, one after the other
    simp only [switched, List.modify_modify_eq]
    rfl
  · rintro _ _ rfl
    have current : (switched world id enabled (maySkip world former)).bindings[id]? =
        some { former with enabled := enabled, fastPath := maySkip world former } := by
      simp [switched, found]
    split
    · split
      · exact update_course code current _
      · exact .value (.inl rfl)
    · exact .value (.inl rfl)

variable {host : Host σ} {bound : Nat} {enabled : Bool} {flags? : Option WriteFlags}

/--
When a binding that is not retired has been enabled or disabled without having been
evaluated, its fast path is exact, but for what was done meanwhile by whoever was told of
a loop.  It can be taken past an interceptor only if the configured bound of the binding
is more than the default one and the alias chain of its target is too long for that.
-/
theorem fast_path_exact_but_for_long_chains (plain : host.Plain)
    (found : world.bindings[id]? = some former) (active : former.retired = false)
    (run : runWithin bound host (setEnabled id enabled flags?) world = some ((), after))
    (kept : after.bindings[id]? = some binding)
    (unevaluated : binding.evaluations = former.evaluations) :
    ∃ fast, FastPathExact (switched world id enabled fast)
        { former with enabled := enabled, fastPath := fast } ∧
      (after = switched world id enabled fast ∨ former.updating = true ∧
        runWithin bound host (keepingGraph (reportLoop former)) (switched world id enabled fast) =
          some ((), after)) := by
  have code := within_each (σ := σ) evaluations_allowed plain bound
  refine ⟨maySkip world former, fastPathExact_maySkip world id former enabled, ?_⟩
  rcases setEnabled_course code found active enabled flags? () after run with
    same | reported | ⟨last, found', more⟩
  · exact .inl same
  · exact .inr reported
  · rw [kept] at found'
    cases found'
    rw [unevaluated] at more
    exact absurd more (Nat.lt_irrefl _)

section Chain

/-! ## A chain of aliases -/

/-- A class with a chain of aliases and a flag at its end. -/
def chainSchema : Schema :=
  Schema.empty.defineClass "Chain" none
    (List.replicate 17 (.aliased "link" .bool) ++ [.native "end" .bool])

/-- Points some links at the next ones. -/
def pointLinks : List Nat → Attempt PropertyError Unit Unit
  | [] => return
  | index :: rest => do
      setAlias (panelRef index) (panelRef (index + 1))
      pointLinks rest

/-- Makes a chain with an interceptor at its end, and a binding that can follow all of it. -/
def prepareChain : Attempt PropertyError Unit BindingId := do
  let _ ← Attempt.perform (create 0 none)
  pointLinks (List.range 17)
  installInterceptor (panelRef 17) 0
  createBinding ⟨0, { aliasDepth := 32 }, .empty⟩ ⟨panelRef 0, none⟩
    (.function (.mk 0 "end" .none (.host 0))) {}

/-- The chain with its binding. -/
def chain : World Unit := panelAfter prepareChain.run (.initial chainSchema ())

/-- The chain with its binding enabled. -/
def enabledChain : World Unit := panelAfter (setEnabled 0 true none) chain

theorem enabledChain_run :
    runWithin 3 Host.silent (setEnabled 0 true none) chain = some ((), enabledChain) := by
  rw [enabledChain, panelAfter]
  exact runWithin_of_ends chain (by decide +kernel)

theorem chain_binding : ∃ binding, chain.bindings[0]? = some binding ∧ binding.retired = false ∧
    binding.updating = false ∧ binding.evaluations = 0 := by
  have idle : (chain.bindings[0]?).any (fun binding => binding.retired = false ∧
      binding.updating = false ∧ binding.evaluations = 0) = true := by decide +kernel
  simpa using (Option.any_eq_true _ _).mp idle

theorem enabledChain_binding : ∃ binding, enabledChain.bindings[0]? = some binding ∧
    binding.evaluations = 0 ∧ binding.fastPath = true ∧ enabledChain.graph.resolve
      binding.target.property binding.context.config.aliasDepth = .ok (panelRef 17) := by
  have enabled : (enabledChain.bindings[0]?).any (fun binding => binding.evaluations = 0 ∧
      binding.fastPath = true ∧ (enabledChain.graph.resolve binding.target.property
        binding.context.config.aliasDepth).toOption = some (panelRef 17)) = true := by
    decide +kernel
  rcases (Option.any_eq_true _ _).mp enabled with ⟨binding, kept, holds⟩
  rcases of_decide_eq_true holds with ⟨unevaluated, fast, resolves⟩
  refine ⟨binding, kept, unevaluated, fast, ?_⟩
  cases reached : enabledChain.graph.resolve binding.target.property
      binding.context.config.aliasDepth <;> rw [reached] at resolves <;> cases resolves
  rfl

/-- The binding is on the fast path past the interceptor that its write-back resolves to. -/
theorem chain_fast_path_exact :
    Host.silent.Plain ∧ ∃ former binding,
      chain.bindings[0]? = some former ∧ former.retired = false ∧
      runWithin 3 Host.silent (setEnabled 0 true none) chain = some ((), enabledChain) ∧
      enabledChain.bindings[0]? = some binding ∧ binding.evaluations = former.evaluations ∧
      FastPathExact enabledChain binding ∧ binding.fastPath = true ∧
      enabledChain.graph.resolve binding.target.property binding.context.config.aliasDepth =
        .ok (panelRef 17) ∧
      enabledChain.graph.interceptor? (panelRef 17) = some 0 := by
  rcases chain_binding with ⟨former, found, active, idle, none⟩
  rcases enabledChain_binding with ⟨binding, kept, unevaluated, fast, resolved⟩
  have uncounted := unevaluated.trans none.symm
  refine ⟨silent_plain, former, binding, found, active, enabledChain_run, kept, uncounted, ?_,
    fast, resolved, by decide +kernel⟩
  rcases fast_path_exact_but_for_long_chains silent_plain found active enabledChain_run kept
    uncounted with ⟨taken, exact, same | ⟨updating, _⟩⟩
  · rw [← same] at exact
    have current : enabledChain.bindings[0]? =
        some { former with enabled := true, fastPath := taken } := by simp [same, switched, found]
    cases kept.symm.trans current
    exact exact
  · rw [idle] at updating
    cases updating

end Chain

end Engine

end PropertyBinding

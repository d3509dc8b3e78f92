import PropertyBinding.Proofs.Moves

namespace PropertyBinding

/-!
# The tale of a run

A run can be told: what it does, foreign code included, is a list of moments from
the scene in which it begins to the one in which it ends.  `Told` follows the way
operations are put together.  Foreign code is told by the code of the host one level
below, and what is going on stands on the stack meanwhile.  Every tale of a run goes
in moves, and leads to where the run leads.
-/

namespace Query

variable {σ : Type}

/-- What the answer to a query is. -/
def Result : Query → Type
  | .call _ _ => Except Script.Exception Boxed
  | .intercept _ _ _ => Native
  | .announce _ => Unit
  | .handle _ _ => Unit
  | .retire _ => Unit

/-- Asks foreign code. -/
def step : (query : Query) → Outside σ → Step σ query.Result
  | .call callee context => fun outside => outside.call callee context
  | .intercept id object value => fun outside => outside.intercept id object value
  | .announce callback => fun outside => outside.announce callback
  | .handle id failure => fun outside => outside.handle id failure
  | .retire id => fun outside => outside.retire id

/-- The code of a host that answers a query. -/
def answer (host : Host σ) : (query : Query) → Engine σ query.Result
  | .call callee context => (host.callFunction callee context).run
  | .intercept id object value => host.intercept id object value
  | .announce callback => host.callSubscriber callback
  | .handle id failure => host.handle id failure
  | .retire id => host.retire id

/-- The code of a host answers a query one level below. -/
theorem step_within (host : Host σ) (bound : Nat) (query : Query) (world : World σ) :
    query.step (.within host (bound + 1)) world = query.answer host (.within host bound) world := by
  cases query <;> rfl

/--
Holds of the runs of foreign code at every depth, if it goes from what is asked one
level below to the answers.  No code is outside where the bound is used up.
-/
@[elab_as_elim]
theorem within_induction {host : Host σ}
    {holds : Nat → (query : Query) → World σ → query.Result → World σ → Prop}
    (answers : ∀ bound,
      (∀ query world result after,
        Engine.foreign query.step (.within host bound) world = some (result, after) →
          holds bound query world result after) →
      ∀ query world result after,
        query.answer host (.within host bound) world = some (result, after) →
          holds (bound + 1) query world result after)
    (bound : Nat) (query : Query) (world : World σ) (result : query.Result) (after : World σ)
    (run : Engine.foreign query.step (.within host bound) world = some (result, after)) :
    holds bound query world result after := by
  induction bound generalizing query world after with
  | zero => cases query <;> cases run
  | succ bound visits =>
      refine answers bound (fun query world result after => visits query world result after)
        query world result after ?_
      rw [← step_within]
      exact run

end Query

namespace Engine

variable {σ α β : Type} {host : Host σ}

/-- Performs an operation as the evaluation of a binding. -/
def framing (id : BindingId) (operation : Engine σ α) : Engine σ α := do
  modifyBinding id fun binding => { binding with updating := true }
  clearReads id
  let result ← operation
  modifyBinding id fun binding => { binding with updating := false }
  return result

/--
Whether a run of an operation with the code of a host, from a world to another and
with a result, has a tale: the moments it goes through while a stack of things is
going on around it.
-/
inductive Told (host : Host σ) : {α : Type} → Nat → List Frame → Engine σ α → World σ →
    List (Moment σ) → α → World σ → Prop
  /-- Nothing happens. -/
  | still {α : Type} {bound : Nat} {stack : List Frame} {operation : Engine σ α} {world : World σ}
      {result : α} (steps : Steps operation world result world) :
      Told host bound stack operation world [] result world
  /-- Something happens that foreign code cannot interrupt. -/
  | act {α : Type} {bound : Nat} {stack : List Frame} {operation : Engine σ α}
      {world after : World σ} {event : Event} {result : α}
      (steps : Steps operation world result after) (act : Act world event after) :
      Told host bound stack operation world [⟨⟨stack, world⟩, event⟩] result after
  | sequence {α β : Type} {bound : Nat} {stack : List Frame} {operation : Engine σ α}
      {next : α → Engine σ β} {world middle after : World σ} {tale rest : List (Moment σ)}
      {result : α} {final : β} (first : Told host bound stack operation world tale result middle)
      (second : Told host bound stack (next result) middle rest final after) :
      Told host bound stack (operation >>= next) world (tale ++ rest) final after
  /-- An operation is told as one that does the same from its world. -/
  | alike {α : Type} {bound : Nat} {stack : List Frame} {operation other : Engine σ α}
      {world after : World σ} {tale : List (Moment σ)} {result : α}
      (same : ∀ outside, operation outside world = other outside world)
      (told : Told host bound stack other world tale result after) :
      Told host bound stack operation world tale result after
  | visit {bound : Nat} {stack : List Frame} {query : Query} {world after : World σ}
      {tale : List (Moment σ)} {result : query.Result}
      (admitted : world.Admits stack (.visit query))
      (told : Told host bound (.visit query :: stack) (query.answer host) world tale result after) :
      Told host (bound + 1) stack (foreign query.step) world
        (⟨⟨stack, world⟩, .other⟩ :: tale ++ [⟨⟨.visit query :: stack, after⟩, .other⟩])
        result after
  | scope {α : Type} {bound : Nat} {stack : List Frame} {collector? : Option Collector}
      {operation : Engine σ α} {world after : World σ} {tale : List (Moment σ)} {result : α}
      (admitted : world.Admits stack (.scope collector? world.collector?))
      (told : Told host bound (.scope collector? world.collector? :: stack) operation
        { world with collector? := collector? } tale result after) :
      Told host bound stack (withCollector collector? operation) world
        (⟨⟨stack, world⟩, .other⟩ :: tale ++
          [⟨⟨.scope collector? world.collector? :: stack, after⟩, .other⟩])
        result { after with collector? := world.collector? }
  | emission {bound : Nat} {stack : List Frame} {source : Source} {world after : World σ}
      {tale : List (Moment σ)}
      (told : Told host bound
        (.emission ((world.channels.liveOf source).map (·.id)) :: stack)
        (callAll (world.channels.liveOf source))
        { world with channels := (world.channels.startAnnouncement source).2 } tale () after) :
      Told host bound stack (announce source) world
        (⟨⟨stack, world⟩, .other⟩ :: tale ++
          [⟨⟨.emission ((world.channels.liveOf source).map (·.id)) :: stack, after⟩, .other⟩])
        () { after with
          channels := after.channels.releaseAll ((world.channels.liveOf source).map (·.id)) }
  | frame {α : Type} {bound : Nat} {stack : List Frame} {id : BindingId} {operation : Engine σ α}
      {world after : World σ} {tale : List (Moment σ)} {result : α} (opens : world.opens id = true)
      (told : Told host bound (.update id :: stack) operation (world.begun id) tale result after) :
      Told host bound stack (framing id operation) world
        (⟨⟨stack, world⟩, .begins id⟩ :: tale ++ [⟨⟨.update id :: stack, after⟩, .other⟩])
        result (after.finished id)

/-! ## Work that foreign code cannot interrupt -/

section Steps

variable (world : World σ) (id : BindingId)

/-- A binding that is changed first and lets go of its edges then. -/
theorem letGo_steps (change : Binding → Binding)
    (kept : ∀ binding, (change binding).reads = binding.reads) :
    Steps (do
      modifyBinding id change
      clearReads id) world () (world.letGo id change) := by
  intro outside
  cases found : world.bindings[id]? with
  | none =>
      have same : ∀ change, world.bindings.modify id change = world.bindings :=
        fun change => List.modify_eq_self (List.getElem?_eq_none_iff.mp found)
      simp [clearReads, World.letGo, World.readsOf, found, same, ReadSet.subscriptions,
        ReadSet.empty, Channels.releaseAll]
  | some binding =>
      simp [clearReads, World.letGo, World.readsOf, found, kept, List.modify_modify_eq,
        Function.comp_def]

theorem clearReads_steps : Steps (clearReads id) world () (world.cleared id) := by
  intro outside
  have same : world.bindings.modify id (fun binding => binding) = world.bindings :=
    List.modify_id id world.bindings
  have cleared := letGo_steps world id (fun binding => binding) (fun _ => rfl) outside
  rw [apply_bind, apply_modifyBinding, same] at cleared
  exact cleared

theorem retireBinding_steps : Steps (retireBinding id) world () (world.ended id) :=
  letGo_steps world id _ fun _ => rfl

/-- An evaluation begins with a mark and without edges. -/
theorem begin_steps :
    Steps (do
      modifyBinding id fun binding => { binding with updating := true }
      clearReads id) world () (world.begun id) :=
  letGo_steps world id _ fun _ => rfl

end Steps

/-! ## Operations in parts -/

/-- Tells a handler of a failure, if there is one. -/
def hand (handler? : Option HostId) (failure : Failure) : Engine σ Unit :=
  match handler? with
  | none => return
  | some handler => foreign (Query.handle handler failure).step

theorem keepEvidence_steps (world : World σ) (id : DiagnosticsId) (failure : Failure) :
    Steps (keepEvidence id failure) world () (world.witnessed id failure) := by
  intro outside
  cases kept : (world.diagnostics[id]?).bind (·.log?) with
  | none => simp [keepEvidence, onEvidence, World.witnessed, kept]
  | some log =>
      simp only [World.witnessed, kept]
      cases answer : (EvidenceLog.addLine failure.evidence).run.run log with
      | mk result changed =>
          cases result with
          | ok _ =>
              simp only [keepEvidence, onEvidence, ExceptT.run_mk, apply_bind, apply_get,
                Option.bind_some, kept, answer]
              rfl
          | error error =>
              simp only [keepEvidence, onEvidence, ExceptT.run_mk, apply_bind, apply_get,
                Option.bind_some, kept, answer]
              rfl

theorem witnessed_diagnostics (world : World σ) (id : DiagnosticsId) (failure : Failure) :
    ((world.witnessed id failure).diagnostics[id]?).map (·.handler?) =
      (world.diagnostics[id]?).map (·.handler?) := by
  unfold World.witnessed
  split
  · rfl
  · dsimp only
    split <;> simp [Option.map_map, Function.comp_def]

/-- A report is done with but for the handler, which is told last. -/
theorem report_eq (id : DiagnosticsId) (failure : Failure) (outside : Outside σ)
    (world : World σ) :
    report id failure outside world =
      hand ((world.diagnostics[id]?).bind (·.handler?)) failure outside
        (world.noted id failure) := by
  let watched : World σ := { world with warnings := world.warnings ++ [.failure failure] }
  have told := keepEvidence_steps watched id failure outside
  have handlers := witnessed_diagnostics watched id failure
  have same : world.diagnostics[id]? = watched.diagnostics[id]? := rfl
  rw [same]
  simp only [report, warn, apply_bind, apply_modify, Option.bind_some]
  show (keepEvidence id failure outside watched).bind _ = _
  rw [told]
  simp only [Option.bind_some, apply_get]
  cases now : (watched.witnessed id failure).diagnostics[id]? with
  | none =>
      rw [now] at handlers
      have before : watched.diagnostics[id]? = none := by simpa using handlers.symm
      have beyond : (watched.witnessed id failure).diagnostics.length ≤ id :=
        List.getElem?_eq_none_iff.mp now
      have noted : world.noted id failure = watched.witnessed id failure :=
        calc
          world.noted id failure = { watched.witnessed id failure with
              diagnostics := (watched.witnessed id failure).diagnostics.modify id
                fun diagnostics => diagnostics.record failure } := rfl
          _ = watched.witnessed id failure := by rw [List.modify_eq_self beyond]
      rw [before, noted]
      rfl
  | some diagnostics =>
      rw [now] at handlers
      rcases Option.map_eq_some_iff.mp handlers.symm with ⟨former, before, kept⟩
      rw [before, Option.bind_some, kept]
      simp only [apply_bind, modifyDiagnostics, apply_modify, Option.bind_some]
      cases diagnostics.handler? <;> rfl

/-- An update is an evaluation frame, after which the binding is let go if nothing keeps it. -/
theorem runUpdate_eq (id : BindingId) (binding : Binding) (flags : WriteFlags) :
    (runUpdate id binding flags : Engine σ Unit) = (do
      framing id (do
        let result ← evaluateBinding id binding
        modifyBinding id fun binding => { binding with evaluations := binding.evaluations + 1 }
        if (← graph).isAlive binding.target.object then
          finishUpdate id binding result flags)
      settle id) := by
  funext outside world
  simp only [runUpdate, framing, apply_bind, apply_modifyBinding, Option.bind_some, apply_graph,
    Option.bind_assoc]
  cases clearReads id outside { world with
    bindings := world.bindings.modify id fun binding => { binding with updating := true } } with
  | none => rfl
  | some cleared =>
      simp only [Option.bind_some]
      cases evaluateBinding id binding outside cleared.2 with
      | none => rfl
      | some out =>
          simp only [Option.bind_some]
          split
          · simp only [apply_bind]
            rfl
          · rfl

namespace Told

variable {bound : Nat} {stack : List Frame} {operation : Engine σ α} {world after : World σ}
  {tale : List (Moment σ)} {result : α}

/-- A tale goes in moves. -/
theorem moves (told : Told host bound stack operation world tale result after) :
    Moves ⟨stack, world⟩ tale ⟨stack, after⟩ := by
  induction told with
  | still _ => exact .stay _
  | act _ act => exact .one (.act _ act)
  | sequence _ _ first second => exact first.append second
  | alike _ _ same => exact same
  | visit admitted _ inner =>
      exact .step (.enter admitted) (inner.append (.one (.leave _ _ _)))
  | scope admitted _ inner =>
      exact .step (.collect admitted) (inner.append (.one (.resume _ _ _ _)))
  | emission _ inner =>
      exact .step (.announce _ _ _) (inner.append (.one (.announced _ _ _)))
  | frame opens _ inner => exact .step (.begin _ opens) (inner.append (.one (.finish _ _ _)))

/-- A tale leads to where the run leads. -/
theorem run (told : Told host bound stack operation world tale result after) :
    operation (.within host bound) world = some (result, after) := by
  induction told with
  | still steps => exact steps _
  | act steps _ => exact steps _
  | sequence _ _ first second =>
      rw [apply_bind, first]
      exact second
  | alike same _ step => exact (same _).trans step
  | visit _ _ inner => exact (Query.step_within host _ _ _).trans inner
  | scope _ _ inner =>
      simp only [withCollector, apply_bind, apply_get, apply_modify, apply_pure,
        Option.bind_some, inner]
  | @emission bound stack source world after tale told inner =>
      rw [← Channels.fst_startAnnouncement] at inner ⊢
      simp only [announce, apply_bind, apply_get, apply_modifyChannels, Option.bind_some, inner]
  | @frame α bound stack id operation world after tale result opens told inner =>
      have begins := begin_steps world id (.within host bound)
      simp only [apply_bind, apply_modifyBinding, Option.bind_some] at begins
      simp only [framing, apply_bind, apply_modifyBinding, apply_pure, Option.bind_some, begins,
        inner]
      rfl

end Told

end Engine

end PropertyBinding

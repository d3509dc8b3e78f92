import PropertyBinding.Proofs.Keeping
import PropertyBinding.Proofs.Programs

namespace PropertyBinding

/-!
# Relations that programs keep

Updates do more to the binding they are about than other operations do: they
mark it, count its evaluations and note its failures.  Creation, destruction and
attachment change who is in the graph, and with the last holder the graph goes.
`FullUpkeep` asks about these what `Upkeep` leaves open.  A relation with all of
it is kept by every program, if destructions, installations and attachments keep
it and it does not look at the host, and so by the code of a plain host however
deep it nests.
-/

/-- What an update changes of its own binding, apart from the count of evaluations. -/
structure Binding.Worked (former binding : Binding) : Prop where
  target : binding.target = former.target
  context : binding.context = former.context
  enabled : binding.enabled = former.enabled
  retired : binding.retired = former.retired
  evaluations : binding.evaluations = former.evaluations
  reads : binding.reads = former.reads

namespace Engine

variable {σ α β ε : Type} {outside : Outside σ} {world : World σ}
  {relation : World σ → World σ → Prop}

/-! ## Updates -/

/-- Whether a relation allows a binding to be marked and its failures to be noted. -/
def Works (relation : World σ → World σ → Prop) (id : BindingId) : Prop :=
  ∀ (world : World σ) change, (∀ binding : Binding, binding.Worked (change binding)) →
    relation world { world with bindings := world.bindings.modify id change }

theorem Outspoken.recordFailure (outspoken : Outspoken outside relation) {id : BindingId}
    {failure : Failure}
    (noted : ∀ reported, Keeps outside relation
      (modifyBinding id fun binding => binding.withPending failure reported)) :
    Keeps outside relation (recordFailure id failure) := by
  refine outspoken.bind (outspoken.found id) fun found => ?_
  cases found with
  | none => exact outspoken.value ()
  | some binding =>
      refine Steady.branch (outspoken.bind (noted false) fun _ => ?_)
        (outspoken.bind (noted true) fun _ => outspoken.report _ _)
      split
      · exact outspoken.report _ _
      · exact outspoken.value ()

namespace Upkeep

variable (upkeep : Upkeep outside relation)
include upkeep

theorem finishUpdate {id : BindingId} (works : Works relation id) (binding : Binding)
    (result : Except Failure Boxed) (flags : WriteFlags) :
    Keeps outside relation (finishUpdate id binding result flags) := by
  have records : ∀ failure, Keeps outside relation (Engine.recordFailure id failure) :=
    fun _ => upkeep.outspoken.recordFailure fun _ =>
      Steady.change fun world => works world _ fun _ => ⟨rfl, rfl, rfl, rfl, rfl, rfl⟩
  cases result with
  | error failure => exact records failure
  | ok value =>
      refine upkeep.bind (upkeep.found id) fun found => Steady.branch (upkeep.value ()) ?_
      refine upkeep.bind (upkeep.storeResult id binding value flags) fun outcome => ?_
      split
      · exact Steady.change fun world => works world _ fun _ => ⟨rfl, rfl, rfl, rfl, rfl, rfl⟩
      · exact upkeep.value ()
      · refine upkeep.bind upkeep.seen fun graph => Steady.branch ?_ (upkeep.value ())
        exact upkeep.bind (upkeep.discreet.writeFailure id binding _) records

theorem runUpdate {id : BindingId} (works : Works relation id)
    (counts : ∀ world : World σ, relation world { world with
      bindings := world.bindings.modify id fun binding =>
        { binding with evaluations := binding.evaluations + 1 } })
    (binding : Binding) (flags : WriteFlags) :
    Keeps outside relation (runUpdate id binding flags) := by
  have marked : ∀ updating, Keeps outside relation
      (Engine.modifyBinding id fun binding => { binding with updating := updating }) :=
    fun _ => Steady.change fun world => works world _ fun _ => ⟨rfl, rfl, rfl, rfl, rfl, rfl⟩
  have last : Keeps outside relation (do
      Engine.modifyBinding id fun binding => { binding with updating := false }
      Engine.settle id) := upkeep.bind (marked false) fun _ => upkeep.discreet.settle id
  refine upkeep.bind (marked true) fun _ => upkeep.bind (upkeep.discreet.clearReads id) fun _ => ?_
  refine upkeep.bind (upkeep.evaluateBinding id binding) fun result => ?_
  refine upkeep.bind (Steady.change counts) fun _ => upkeep.bind upkeep.seen fun graph => ?_
  exact Steady.branch (upkeep.bind (upkeep.finishUpdate works binding result flags) fun _ => last) last

/-- An update keeps what its evaluation keeps, for one that may be evaluated. -/
theorem update {id : BindingId}
    (retains : ∀ world : World σ, world.hasGraph = true →
      relation world { world with graphHolders := world.graphHolders + 1 })
    (releases : Keeps outside relation releaseGraph)
    (runs : ∀ (world : World σ) binding flags, world.bindings[id]? = some binding →
      binding.retired = false → binding.updating = false →
      Ensures outside (Engine.runUpdate id binding flags) world fun _ after => relation world after)
    (flags : WriteFlags) : Keeps outside relation (update id flags) := by
  intro world
  refine .lookBinding ?_
  cases found : world.bindings[id]? with
  | none => exact .value (upkeep.refl world)
  | some binding =>
      refine .look ?_
      by_cases refused : (!world.hasGraph || !binding.enabled || binding.retired) = true
      · rw [if_pos refused]
        exact .value (upkeep.refl world)
      · rw [if_neg refused]
        have checked : world.hasGraph = true ∧ binding.enabled = true ∧
            binding.retired = false := by
          simpa [and_assoc] using refused
        rcases checked with ⟨present, _, active⟩
        refine .lookGraph ?_
        split
        · exact .value (upkeep.refl world)
        · have retained := retains world present
          refine .change (.bind _ ?_ fun _ _ worked =>
            .bind _ (releases _) fun _ _ released => .value (upkeep.trans worked released))
          split
          · exact (upkeep.outspoken.reportLoop binding _).weaken fun _ _ reported =>
              upkeep.trans retained reported
          · next idle =>
            refine (runs { world with graphHolders := world.graphHolders + 1 } binding flags found
              active (by simpa using idle)).weaken ?_
            exact fun _ _ ran => upkeep.trans retained ran

end Upkeep

/-! ## Programs -/

/--
What has to be shown of a relation so that everything keeps it but destruction,
installation and attachment, and what foreign code does to its own state.
-/
structure FullUpkeep (outside : Outside σ) (relation : World σ → World σ → Prop) : Prop
    extends Upkeep outside relation where
  create : ∀ classId name?, Keeps outside relation (create classId name?)
  detach : ∀ id slot, Keeps outside relation (detach id slot)
  releaseGraph : Keeps outside relation releaseGraph
  update : ∀ id flags, Keeps outside relation (update id flags)
  /-- A new binding is added to the others. -/
  append : ∀ (world : World σ) (binding : Binding), binding.retired = false →
    binding.updating = false → binding.evaluations = 0 →
    relation world { world with bindings := world.bindings ++ [binding] }
  /-- A binding is enabled or disabled. -/
  switch : ∀ (world : World σ) (id : BindingId) binding enabled,
    world.bindings[id]? = some binding → (enabled && binding.retired) = false →
    relation world { world with
      bindings := world.bindings.modify id fun binding => { binding with enabled := enabled } }

namespace FullUpkeep

variable (upkeep : FullUpkeep outside relation)
include upkeep

theorem followChange (id : BindingId) : Keeps outside relation (followChange id) :=
  upkeep.bind upkeep.get fun _ => Steady.branch (upkeep.update id .none) (upkeep.value ())

theorem createBinding (context : BindingContext) (target : BindingTarget)
    (expression : BindingExpression) (options : BindingOptions) :
    Keeps outside relation (createBinding context target expression options).run := by
  refine upkeep.attempt upkeep.ask fun property => upkeep.done ?_
  refine upkeep.bind (upkeep.bind upkeep.get fun _ =>
    upkeep.bind (upkeep.rest fun _ => ⟨rfl, rfl, rfl, rfl⟩) fun _ => upkeep.value _) fun adapter => ?_
  refine upkeep.bind upkeep.get fun _ => upkeep.bind (Steady.change fun world => ?_) fun _ =>
    upkeep.value _
  exact upkeep.append world _ rfl rfl rfl

theorem setEnabled (id : BindingId) (enabled : Bool) (flags? : Option WriteFlags) :
    Keeps outside relation (setEnabled id enabled flags?) := by
  intro world
  refine .lookBinding ?_
  cases found : world.bindings[id]? with
  | none => exact .value (upkeep.refl world)
  | some binding =>
      dsimp only
      split
      · exact .value (upkeep.refl world)
      · next permitted =>
        have switched := upkeep.switch world id binding enabled found (by simpa using permitted)
        refine .change (.bind _ (upkeep.refreshFastPath id _) fun _ after refreshed => ?_)
        have reached := upkeep.trans switched refreshed
        split
        · refine (Steady.branch (upkeep.update id _) (upkeep.value ()) after).weaken ?_
          exact fun _ _ updated => upkeep.trans reached updated
        · exact .value reached

omit upkeep

/-- Every program keeps a relation that all of its operations keep. -/
theorem program (upkeep : FullUpkeep outside relation)
    (apart : ∀ {world later : World σ}, later.graph = world.graph →
      later.graphHolders = world.graphHolders → later.bindings = world.bindings →
      relation world later)
    (destroy : ∀ id, Keeps outside relation (destroy id))
    (install : ∀ id, Keeps outside relation (install id).run)
    (attach : ∀ id slot writer, Keeps outside relation (attach id slot (.host writer)).run)
    {operation : Engine σ α} (program : Program operation) : Keeps outside relation operation := by
  induction program with
  | value result => exact upkeep.value result
  | sequence _ _ step steps => exact upkeep.bind step steps
  | get => exact upkeep.get
  | elsewhere same =>
      exact Steady.change fun world => apart (same world).1 (same world).2.1 (same world).2.2
  | invoke callee context => exact upkeep.code.call callee context
  | announce source => exact upkeep.outspoken.announce source
  | create classId name? => exact upkeep.create classId name?
  | destroy id => exact destroy id
  | setAlias ref target => exact upkeep.setAlias ref target
  | read ref => exact upkeep.read ref
  | readNotifier id => exact upkeep.readNotifier id
  | assignNotifier id value => exact upkeep.assignNotifier id value
  | write ref value flags => exact upkeep.write ref value flags
  | writeVar ref value flags => exact upkeep.writeVar ref value flags
  | reset ref flags => exact upkeep.reset ref flags
  | assign ref value => exact upkeep.assign ref value
  | assignNamed id name value => exact upkeep.assignNamed id name value
  | installInterceptor ref id => exact upkeep.installInterceptor ref id
  | removeInterceptor ref => exact upkeep.removeInterceptor ref
  | attach id slot writer => exact attach id slot writer
  | detach id slot => exact upkeep.detach id slot
  | createBinding context target expression options =>
      exact upkeep.createBinding context target expression options
  | install id => exact install id
  | setEnabled id enabled flags? => exact upkeep.setEnabled id enabled flags?
  | update id flags => exact upkeep.update id flags
  | refreshFastPath id => exact upkeep.refreshFastPath id
  | reportPending id => exact upkeep.reportPending id
  | retain id => exact upkeep.retain id
  | release id => exact upkeep.release id
  | releaseGraph => exact upkeep.releaseGraph

end FullUpkeep

end Engine

/-- Whether the code of a host obeys a law. -/
structure Host.Obeys {σ : Type} (host : Host σ) (law : {α : Type} → Engine σ α → Prop) : Prop where
  call : ∀ id context, law (host.call id context).run
  callTyped : ∀ id context, law (host.callTyped id context).run
  intercept : ∀ id object value, law (host.intercept id object value)
  announce : ∀ id, law (host.announce id)
  handle : ∀ id failure, law (host.handle id failure)
  retire : ∀ id, law (host.retire id)

theorem Host.Plain.obeys {σ : Type} {host : Host σ} (plain : host.Plain) :
    host.Obeys Engine.Program :=
  ⟨plain.call, plain.callTyped, plain.intercept, plain.announce, plain.handle, plain.retire⟩

theorem Host.Obeys.weaken {σ : Type} {host : Host σ} {law weaker : {α : Type} → Engine σ α → Prop}
    (obeys : host.Obeys law)
    (weakens : ∀ {α : Type} {operation : Engine σ α}, law operation → weaker operation) :
    host.Obeys weaker where
  call id context := weakens (obeys.call id context)
  callTyped id context := weakens (obeys.callTyped id context)
  intercept id object value := weakens (obeys.intercept id object value)
  announce id := weakens (obeys.announce id)
  handle id failure := weakens (obeys.handle id failure)
  retire id := weakens (obeys.retire id)

namespace Engine

variable {σ : Type} {outside : Outside σ} {relation : World σ → World σ → Prop} {host : Host σ}

/-- A function keeps what the code of its host keeps. -/
theorem Upkeep.callFunction (upkeep : Upkeep outside relation)
    (obeys : host.Obeys fun operation => Keeps outside relation operation) (callee : Function)
    (context : Script.CallContext) :
    Keeps outside relation (host.callFunction callee context).run := by
  rcases callee with ⟨identity, name, location, body⟩
  cases body with
  | script parameters expr locals =>
      exact upkeep.attempt (upkeep.lawful.evaluate upkeep.code.call context _ expr) fun _ =>
        upkeep.succeed _
  | markBinding =>
      unfold Host.callFunction
      simp only [Function.body]
      split
      · exact upkeep.succeed _
      · exact upkeep.fail _
  | host id => exact upkeep.attempt (obeys.call id context) fun _ => upkeep.succeed _
  | typed type id =>
      refine upkeep.attempt (obeys.callTyped id context) fun native => Steady.choose ?_ ?_
      · exact upkeep.succeed _
      · exact upkeep.perform (upkeep.bind upkeep.seen fun _ => upkeep.value _) fun _ => upkeep.fail _

/-- However deep it nests, foreign code keeps what the code of its host keeps. -/
theorem within_keeps
    (upkeep : ∀ outside : Outside σ, outside.Keeps relation → FullUpkeep outside relation)
    (obeys : ∀ outside : Outside σ, outside.Keeps relation →
      host.Obeys fun operation => Keeps outside relation operation)
    (bound : Nat) : (Outside.within host bound).Keeps relation := by
  induction bound with
  | zero => constructor <;> intros <;> intro world result after run <;> cases run
  | succ bound code =>
      have kept := upkeep _ code
      have given := obeys _ code
      constructor
      · exact fun callee context => kept.callFunction given callee context
      · exact given.intercept
      · intro callback
        cases callback with
        | binding id => exact kept.followChange id
        | host id => exact given.announce id
      · exact given.handle
      · exact given.retire

end Engine

end PropertyBinding

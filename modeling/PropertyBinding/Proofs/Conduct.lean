import PropertyBinding.Proofs.Customs

namespace PropertyBinding
namespace Engine

/-!
# The conduct of foreign code

What foreign code does in the middle of an operation is again made of operations of
the engine.  `Conduct` lists what it may do: whatever the engine's own operations
are made of, objects and subscriptions of its own, reads that it suspends or
records, and updates of bindings.  What comes next may depend on all of the world
and on every result before.  Among what it may not do is to change the marks and the
edges of a binding, the collector and the held subscriptions past the engine, and to
report loops of its own.
-/

variable {σ α : Type}

/-- Ends a subscription by which no binding follows a source. -/
def unsubscribe (id : SubscriptionId) : Engine σ Unit := do
  if !(← get).subscriptions.contains id then
    modifyChannels fun channels => channels.release id

/-- Code that is made of operations of the engine. -/
inductive Conduct : {α : Type} → Engine σ α → Prop
  | value {α : Type} (result : α) : Conduct (pure result)
  | sequence {α β : Type} {operation : Engine σ α} {next : α → Engine σ β}
      (first : Conduct operation) (second : ∀ result, Conduct (next result)) :
      Conduct (operation >>= next)
  | get : Conduct get
  /-- A change of the host, of notifiers, diagnostics, identities and the like. -/
  | beside (change : World σ → World σ) (same : ∀ world : World σ, world.Beside (change world)) :
      Conduct (modify change)
  | object (id : ObjectId) (change : Object → Object) :
      Conduct (modifyGraph fun graph => graph.update id change)
  | tend (id : BindingId) (change : Binding → Binding)
      (tended : ∀ binding : Binding, binding.Tended (change binding)) :
      Conduct (modifyBinding id change)
  | append (binding : Binding) (fresh : binding.Pristine) :
      Conduct (modify fun world => { world with bindings := world.bindings ++ [binding] })
  | retireBinding (id : BindingId) : Conduct (retireBinding id)
  | settle (id : BindingId) : Conduct (settle id)
  | read (ref : PropertyRef) : Conduct (read ref).run
  | readNotifier (id : NotifierId) : Conduct (readNotifier id)
  | announce (source : Source) : Conduct (announce source)
  | ask (query : Query) : Conduct (foreign query.step)
  | setAlias (ref target : PropertyRef) : Conduct (setAlias ref target).run
  | create (classId : ClassId) (name? : Option String) : Conduct (create classId name?)
  | destroy (id : ObjectId) : Conduct (destroy id)
  | releaseGraph : Conduct releaseGraph
  | subscribe (source : Source) (host : HostId) : Conduct (subscribe source (.host host))
  | unsubscribe (id : SubscriptionId) : Conduct (unsubscribe id)
  | suspended {α : Type} {operation : Engine σ α} (inner : Conduct operation) :
      Conduct (withCollector none operation)
  | recorded {α : Type} {operation : Engine σ α} (inner : Conduct operation) :
      Conduct (recording operation)
  | update (id : BindingId) (flags : WriteFlags) : Conduct (update id flags)
  | setEnabled (id : BindingId) (enabled : Bool) (flags? : Option WriteFlags) :
      Conduct (setEnabled id enabled flags?)
  | report (id : DiagnosticsId) (failure : Failure) (plain : failure.kind ≠ .bindingLoop) :
      Conduct (report id failure)
  | reportPending (id : BindingId) : Conduct (reportPending id)

/-- Every operation that the engine makes of these may be used in the same way. -/
theorem Conduct.customary : Customary (σ := σ) Conduct where
  value := .value
  bind := .sequence
  get := .get
  aside change same := .beside change fun world => (same world).toBeside
  object := .object
  tend id change tended := .tend id change fun binding => (tended binding).toTended
  append := .append
  retireBinding := .retireBinding
  settle := .settle
  read := .read
  readNotifier := .readNotifier
  announce := .announce
  ask query _ := .ask query

/-- What the engine offers to foreign code. -/
inductive Offered : {α : Type} → Engine σ α → Prop
  | call (callee : Function) (context : Script.CallContext) :
      Offered (Script.Evaluation.invoke callee context).run
  | announce (source : Source) : Offered (announce source)
  | create (classId : ClassId) (name? : Option String) : Offered (create classId name?)
  | destroy (id : ObjectId) : Offered (destroy id)
  | setAlias (ref target : PropertyRef) : Offered (setAlias ref target).run
  | read (ref : PropertyRef) : Offered (read ref).run
  | readValue (ref : PropertyRef) : Offered (readValue ref).run
  | peek (ref : PropertyRef) : Offered (peek ref).run
  | createNotifier (label : String) (value : Value) : Offered (createNotifier label value)
  | readNotifier (id : NotifierId) : Offered (readNotifier id)
  | assignNotifier (id : NotifierId) (value : Value) : Offered (assignNotifier id value)
  | write (ref : PropertyRef) (value : Native) (flags : WriteFlags) :
      Offered (write ref value flags).run
  | writeVar (ref : PropertyRef) (value : Value) (flags : WriteFlags) :
      Offered (writeVar ref value flags).run
  | reset (ref : PropertyRef) (flags : WriteFlags) : Offered (reset ref flags).run
  | assign (ref : PropertyRef) (value : Native) : Offered (assign ref value).run
  | assignNamed (id : ObjectId) (name : String) (value : Native) :
      Offered (assignNamed id name value).run
  | installInterceptor (ref : PropertyRef) (id : HostId) : Offered (installInterceptor ref id).run
  | removeInterceptor (ref : PropertyRef) : Offered (removeInterceptor ref)
  | hasInterceptor (ref : PropertyRef) : Offered (hasInterceptor ref)
  | attach (id : ObjectId) (slot : WriterSlot) (writer : Writer) :
      Offered (attach id slot writer).run
  | detach (id : ObjectId) (slot : WriterSlot) : Offered (detach id slot)
  | createBinding (context : BindingContext) (target : BindingTarget)
      (expression : BindingExpression) (options : BindingOptions) :
      Offered (createBinding context target expression options).run
  | install (id : BindingId) : Offered (install id).run
  | bind (context : BindingContext) (object : ObjectId) (path : String)
      (expression : BindingExpression) : Offered (bind context object path expression).run
  | setEnabled (id : BindingId) (enabled : Bool) (flags? : Option WriteFlags) :
      Offered (setEnabled id enabled flags?)
  | update (id : BindingId) (flags : WriteFlags) : Offered (update id flags)
  | refreshFastPath (id : BindingId) : Offered (refreshFastPath id)
  | reportPending (id : BindingId) : Offered (reportPending id)
  | retain (id : BindingId) : Offered (retain id)
  | release (id : BindingId) : Offered (release id)
  | retainGraph : Offered retainGraph
  | releaseGraph : Offered releaseGraph

/-- A law that is obeyed by everything of which what the engine offers is made. -/
structure Obliging (law : {α : Type} → Engine σ α → Prop) : Prop extends Furnished law where
  visit : ∀ query : Query, law (foreign query.step)
  create : ∀ classId name?, law (create classId name?)
  destroy : ∀ id, law (destroy id)
  setAlias : ∀ ref target, law (setAlias ref target : Attempt PropertyError σ Unit).run
  retainGraph : law retainGraph
  releaseGraph : law releaseGraph
  update : ∀ id flags, law (update id flags)
  setEnabled : ∀ id enabled flags?, law (setEnabled id enabled flags?)
  reportPending : ∀ id, law (reportPending id)

theorem Obliging.offered {law : {α : Type} → Engine σ α → Prop} (obliging : Obliging law)
    {operation : Engine σ α} (offered : Offered operation) : law operation := by
  have furnished := obliging.toFurnished
  cases offered with
  | call callee context => exact obliging.visit (.call callee context)
  | announce source => exact furnished.announce source
  | create classId name? => exact obliging.create classId name?
  | destroy id => exact obliging.destroy id
  | setAlias ref target => exact obliging.setAlias ref target
  | read ref => exact furnished.read ref
  | readValue ref => exact furnished.readValue ref
  | peek ref => exact furnished.question
  | createNotifier label value => exact furnished.createNotifier label value
  | readNotifier id => exact furnished.readNotifier id
  | assignNotifier id value => exact furnished.assignNotifier id value
  | write ref value flags => exact furnished.write ref value flags
  | writeVar ref value flags => exact furnished.writeVar ref value flags
  | reset ref flags => exact furnished.reset ref flags
  | assign ref value => exact furnished.assign ref value
  | assignNamed id name value => exact furnished.assignNamed id name value
  | installInterceptor ref id => exact furnished.installInterceptor ref id
  | removeInterceptor ref => exact furnished.removeInterceptor ref
  | hasInterceptor ref => exact furnished.hasInterceptor ref
  | attach id slot writer => exact furnished.attach id slot writer
  | detach id slot => exact furnished.detach id slot
  | createBinding context target expression options =>
      exact furnished.createBinding context target expression options
  | install id => exact furnished.install id
  | bind context object path expression =>
      refine furnished.attempt furnished.question fun target =>
        furnished.attempt (furnished.createBinding _ _ _ _) fun id =>
          furnished.attempt (furnished.install id) fun _ => ?_
      exact furnished.perform (obliging.setEnabled id true _) fun _ => furnished.succeed id
  | setEnabled id enabled flags? => exact obliging.setEnabled id enabled flags?
  | update id flags => exact obliging.update id flags
  | refreshFastPath id => exact furnished.refreshFastPath id
  | reportPending id => exact obliging.reportPending id
  | retain id => exact furnished.retain id
  | release id => exact furnished.release id
  | retainGraph => exact obliging.retainGraph
  | releaseGraph => exact obliging.releaseGraph

theorem Conduct.obliging : Obliging (σ := σ) Conduct where
  toFurnished := Conduct.customary.furnished
  visit := .ask
  create := .create
  destroy := .destroy
  setAlias := .setAlias
  retainGraph := .beside _ fun _ => ⟨rfl, rfl, rfl, rfl, rfl⟩
  releaseGraph := .releaseGraph
  update := .update
  setEnabled := .setEnabled
  reportPending := .reportPending

/-- What the engine offers is made of what `Conduct` lists. -/
theorem Offered.conduct {operation : Engine σ α} (offered : Offered operation) :
    Conduct operation :=
  Conduct.obliging.offered offered

end Engine

end PropertyBinding
